import Mathlib
import Toolwire.Json.Printer
import Toolwire.Json5.Syntax
/-!
# JSON as JSON5

The text that JSON is written as is read by the grammar of JSON5, and what is read is the tree of
the value: `parse_pretty`. The one exception are the two line separators of Unicode, which JSON
writes as they are and JSON5 takes in no string.
-/
namespace Toolwire.Json5

open Json Text

/-! ## Trees of values -/

/-- The characters that JSON lets stand in a string and JSON5 does not. -/
def breaksLine (c : Char) : Bool := c.toNat == 0x2028 || c.toNat == 0x2029

/-- What a string literal is read as. -/
def literal? (s : String) : Option (Except String String) :=
  if s.toList.any breaksLine then none else some (.ok s)

theorem literal?_eq_none {s : String} :
    literal? s = none ↔ ∃ c ∈ s.toList, breaksLine c = true := by
  simp [literal?]

theorem literal?_of_unbroken {s : String} (h : ¬ ∃ c ∈ s.toList, breaksLine c = true) :
    literal? s = some (.ok s) := by
  rw [literal?, if_neg]
  rwa [List.any_eq_true]

mutual

/-- The tree that the text of a value is read as. -/
def tree? : Json → Option Node
  | .null => some .null
  | .bool b => some (.bool b)
  | .int n => some (.number (toString n).toList)
  | .float x => some (.number x.text.toList)
  | .str s => (literal? s).map .string
  | .arr items => (trees? items).map .array
  | .obj ms => (pairs? ms).map .object

/-- The trees that the items of an array are read as. -/
def trees? : List Json → Option (List Node)
  | [] => some []
  | x :: xs => (tree? x).bind fun t => (trees? xs).map (t :: ·)

/-- The keys and trees that the members of an object are read as. -/
def pairs? : List (String × Json) → Option (List (Except String String × Node))
  | [] => some []
  | (k, x) :: ms =>
    (literal? k).bind fun key => (tree? x).bind fun t => (pairs? ms).map ((key, t) :: ·)

end

mutual

/-- The numbers in a value are integers. -/
def Integral : Json → Prop
  | .float _ => False
  | .arr items => IntegralItems items
  | .obj ms => IntegralMembers ms
  | _ => True

/-- The numbers in the items of an array are integers. -/
def IntegralItems : List Json → Prop
  | [] => True
  | x :: xs => Integral x ∧ IntegralItems xs

/-- The numbers in the values of an object are integers. -/
def IntegralMembers : List (String × Json) → Prop
  | [] => True
  | (_, x) :: ms => Integral x ∧ IntegralMembers ms

end

/-! ## Blanks -/

theorem skipAll_cons {c : Char} (hb : isBlank c = false) (hs : c ≠ '/') (s : List Char) :
    skipAll (c :: s) = c :: s := by
  simp [skipAll, skipFrom, hb, hs]

theorem skipAll_newline (level : Nat) (s : List Char) :
    skipAll (newline level ++ s) = skipAll s := by
  have spaces : ∀ n, skipAll (List.replicate n ' ' ++ s) = skipAll s := by
    intro n
    induction n with
    | zero => rfl
    | succ n ih => exact ih
  exact spaces _

/-! ## Strings -/

/-- The part of a literal that a character is written as. -/
def partOf (c : Char) : Part :=
  if c.toNat < 32 ∧ c.toNat ≠ 8 ∧ c.toNat ≠ 12 ∧ c ≠ '\n' ∧ c ≠ '\r' ∧ c ≠ '\t' then .unit c.toNat
  else .char c

/-- A code unit of one byte, as the writer spells it. -/
theorem hexUnit?_byte {n : Nat} (hn : n < 256) (s : List Char) :
    hexUnit? 4 ('0' :: '0' :: hexDigit (n / 16) :: hexDigit n :: s) = some (n, s) := by
  have hzero : hexValue? '0' = some 0 := rfl
  have hall : ['0', '0', hexDigit (n / 16), hexDigit n].all isHex = true := by
    simp [isHex, hzero]
  have hnumber : hexNumber ['0', '0', hexDigit (n / 16), hexDigit n] = n := by
    simp [hexNumber, hzero]
    omega
  simp only [hexUnit?, List.take_succ_cons, List.take_zero, hall, hnumber]
  rfl

/-- A character that stands for itself in a string. -/
theorem readParts_plain {c : Char} (hq : c ≠ '"') (hb : c ≠ '\\') (done : List Part) (fuel : Nat)
    (s : List Char) :
    readParts '"' done (fuel + 1) (c :: s) =
      if isLineEnd c then none else readParts '"' (.char c :: done) fuel s := by
  simp [readParts, hq]

/-- A character that is written in a string is read again, unless it breaks a line. -/
theorem readParts_escapeChar (c : Char) (done : List Part) (fuel : Nat) (s : List Char) :
    readParts '"' done (fuel + 1) (escapeChar c ++ s) =
      if breaksLine c then none else readParts '"' (partOf c :: done) fuel s := by
  by_cases hspecial : c ∈ ['"', '\\', '\x08', '\x0c', '\n', '\r', '\t']
  · fin_cases hspecial <;> rfl
  · simp only [List.mem_cons, List.not_mem_nil, or_false, not_or] at hspecial
    obtain ⟨hquote, hslash, h8, h12, hn, hr, ht⟩ := hspecial
    have h8 : c.toNat ≠ 8 := fun h => h8 (Char.ext (UInt32.toNat.inj h))
    have h12 : c.toNat ≠ 12 := fun h => h12 (Char.ext (UInt32.toNat.inj h))
    by_cases hcontrol : c.toNat < 32
    · have hbreaks : breaksLine c = false := by
        simp [breaksLine]
        omega
      have hpart : partOf c = .unit c.toNat := if_pos ⟨hcontrol, h8, h12, hn, hr, ht⟩
      have hread := hexUnit?_byte (hcontrol.trans (by decide)) s
      simp [escapeChar, hquote, hslash, h8, h12, hn, hr, ht, hcontrol, hbreaks, hpart, readParts,
        hread]
    · have hends : isLineEnd c = breaksLine c := by
        simp [isLineEnd, breaksLine, beq_eq_false_iff_ne.2 hn, beq_eq_false_iff_ne.2 hr]
      have hpart : partOf c = .char c := if_neg fun h => hcontrol h.1
      have hescape : escapeChar c = [c] := by
        simp [escapeChar, hquote, hslash, h8, h12, hn, hr, ht, hcontrol]
      rw [hescape, hpart, List.singleton_append, readParts_plain hquote hslash, hends]

theorem readParts_escaped (s : List Char) (done : List Part) {fuel : Nat}
    (hf : s.length < fuel) (rest : List Char) :
    readParts '"' done fuel (s.flatMap escapeChar ++ '"' :: rest) =
      if s.any breaksLine then none else some ((s.map partOf).reverse ++ done, rest) := by
  induction s generalizing done fuel with
  | nil =>
    obtain ⟨fuel, rfl⟩ := Nat.exists_eq_add_of_lt hf
    rfl
  | cons c s ih =>
    rw [List.length_cons] at hf
    obtain ⟨fuel, rfl⟩ := Nat.exists_eq_succ_of_ne_zero (by omega : fuel ≠ 0)
    rw [List.flatMap_cons, List.append_assoc, readParts_escapeChar, ih _ (by omega)]
    rw [List.any_cons, List.map_cons, List.reverse_cons, List.append_assoc, List.singleton_append]
    cases breaksLine c <;> rfl

/-- A code unit that is no half of a surrogate pair. -/
theorem assemble_unit {n : Nat} (hn : n < 0xD800) (done : List Char) (rest : List Part) :
    assemble done (.unit n :: rest) = assemble (Char.ofNat n :: done) rest := by
  have htrail : ¬ 0xDC00 ≤ n := by omega
  have hlead : ¬ 0xD800 ≤ n := by omega
  rw [assemble.eq_def]
  simp [isLowSurrogate, isHighSurrogate, htrail, hlead]

theorem assemble_parts (s done : List Char) :
    assemble done (s.map partOf) = .ok (String.ofList (done.reverse ++ s)) := by
  induction s generalizing done with
  | nil => simp [assemble]
  | cons c s ih =>
    rw [List.map_cons, partOf]
    split
    · rename_i h
      rw [assemble_unit (by omega), Char.ofNat_toNat, ih, List.reverse_cons, List.append_assoc,
        List.singleton_append]
    · rw [assemble, ih, List.reverse_cons, List.append_assoc, List.singleton_append]

/-- A string literal as JSON writes it. -/
theorem readString_quote (s : String) {fuel : Nat} (hf : s.toList.length < fuel)
    (rest : List Char) :
    readString '"' fuel (s.toList.flatMap escapeChar ++ '"' :: rest) =
      (literal? s).map (·, rest) := by
  rw [readString, readParts_escaped _ _ hf, literal?]
  split
  · rfl
  · simp [assemble_parts]

theorem length_le_flatMap (s : List Char) : s.length ≤ (s.flatMap escapeChar).length := by
  have one : ∀ c, 1 ≤ (escapeChar c).length := by
    intro c
    unfold escapeChar
    split_ifs <;> simp
  induction s with
  | nil => simp
  | cons c s ih =>
    have := one c
    simp only [List.flatMap_cons, List.length_append, List.length_cons]
    omega

/-! ## Numbers -/

/-- What stands behind a value in a written text: nothing, a comma or a line break. -/
def Ends (s : List Char) : Prop := ∀ c ∈ s.head?, c = ',' ∨ c = '\n'

theorem Ends.cases {s : List Char} (h : Ends s) :
    s = [] ∨ ∃ c t, s = c :: t ∧ (c = ',' ∨ c = '\n') := by
  cases s with
  | nil => exact .inl rfl
  | cons c t => exact .inr ⟨c, t, rfl, h c rfl⟩

theorem exists_toDigits (n : Nat) :
    ∃ d ds, Nat.toDigits 10 n = d :: ds ∧ ∀ c ∈ d :: ds, c.isDigit = true := by
  obtain ⟨d, ds, hd⟩ := List.exists_cons_of_ne_nil (Nat.toDigits_ne_nil (b := 10) (n := n))
  refine ⟨d, ds, hd, fun c hc => ?_⟩
  exact Nat.isDigit_of_mem_toDigits (by decide) (by decide) (hd ▸ hc)

/-- Only zero is written with a zero in front. -/
theorem eq_zero_of_toDigits {n : Nat} {ds : List Char} (h : Nat.toDigits 10 n = '0' :: ds) :
    n = 0 := by
  induction n using Nat.strong_induction_on generalizing ds with
  | _ n ih =>
    rw [Nat.toDigits_eq_if (by decide)] at h
    split at h
    · rename_i hn
      have hchar := (List.cons.inj h).1
      interval_cases n <;> first | rfl | exact absurd hchar (by decide)
    · rename_i hn
      obtain ⟨d, more, hmore, -⟩ := exists_toDigits (n / 10)
      rw [hmore, List.cons_append] at h
      have hzero := ih (n / 10) (by omega) (hmore.trans (by rw [(List.cons.inj h).1]))
      omega

theorem digits_append {s rest : List Char} (hs : ∀ c ∈ s, c.isDigit = true) (hr : Ends rest) :
    digits (s ++ rest) = (s, rest) := by
  have hstop : rest.takeWhile Char.isDigit = [] ∧ rest.dropWhile Char.isDigit = rest := by
    rcases hr.cases with rfl | ⟨c, t, rfl, rfl | rfl⟩ <;> exact ⟨rfl, rfl⟩
  rw [digits, List.takeWhile_append_of_pos hs, List.dropWhile_append_of_pos hs, hstop.1, hstop.2,
    List.append_nil]

theorem readExponent_ends {rest : List Char} (hr : Ends rest) : readExponent rest = ([], rest) := by
  rcases hr.cases with rfl | ⟨c, t, rfl, rfl | rfl⟩ <;> rfl

theorem readDecimal_digits {d : Char} {ds rest : List Char} (hd : d ≠ '0')
    (hs : ∀ c ∈ d :: ds, c.isDigit = true) (hr : Ends rest) :
    readDecimal (d :: ds ++ rest) = some (d :: ds, rest) := by
  have hwhole : digits (d :: ds ++ rest) = (d :: ds, rest) := digits_append hs hr
  have hpoint : ∀ t, rest ≠ '.' :: t := by
    rintro t rfl
    rcases hr '.' rfl with h | h <;> cases h
  rw [List.cons_append] at hwhole ⊢
  have hdigit : d.isDigit = true := hs d List.mem_cons_self
  -- No zero in front and no point behind: the facts above rule the other cases out.
  simp [readDecimal, hdigit, hwhole, readExponent_ends hr]

theorem readUnsigned_toDigits (n : Nat) {rest : List Char} (hr : Ends rest) :
    readUnsigned (Nat.toDigits 10 n ++ rest) = some (Nat.toDigits 10 n, rest) := by
  obtain ⟨d, ds, hd, hall⟩ := exists_toDigits n
  by_cases hzero : d = '0'
  · subst hzero
    obtain rfl := eq_zero_of_toDigits hd
    rcases hr.cases with rfl | ⟨c, t, rfl, rfl | rfl⟩ <;> rfl
  · rw [hd, readUnsigned, readDecimal_digits hzero hall hr]
    simp [hzero]

/-- The text of an integer: digits, perhaps with a minus sign before them. -/
theorem toString_int (n : Int) :
    ∃ m, (toString n).toList = Nat.toDigits 10 m
      ∨ (toString n).toList = '-' :: Nat.toDigits 10 m := by
  rw [Int.toString_eq_repr, Int.repr_eq_if]
  split
  · exact ⟨n.toNat, .inl (by simp [Nat.repr_eq_ofList_toDigits])⟩
  · exact ⟨(-n).toNat, .inr (by simp [Nat.repr_eq_ofList_toDigits])⟩

/-- The head of the text of a number. -/
def StartsNumber (c : Char) : Prop := c = '-' ∨ c.isDigit = true

theorem startsNumber_int (n : Int) : ∃ c t, (toString n).toList = c :: t ∧ StartsNumber c := by
  obtain ⟨m, h | h⟩ := toString_int n
  · obtain ⟨d, ds, hd, hall⟩ := exists_toDigits m
    exact ⟨d, ds, h.trans hd, .inr (hall d List.mem_cons_self)⟩
  · exact ⟨'-', _, h, .inl rfl⟩

theorem StartsNumber.ne {c d : Char} (h : StartsNumber c) (hd : d ≠ '-')
    (hdigit : d.isDigit = false) : c ≠ d := by
  rintro rfl
  rcases h with h | h
  · exact hd h
  · rw [h] at hdigit
    cases hdigit

theorem readNumber_int (n : Int) {rest : List Char} (hr : Ends rest) :
    readNumber ((toString n).toList ++ rest) = some ((toString n).toList, rest) := by
  obtain ⟨m, h | h⟩ := toString_int n
  · obtain ⟨d, ds, hd, hall⟩ := exists_toDigits m
    have hdigit : d.isDigit = true := hall d List.mem_cons_self
    have hplus : d ≠ '+' := by rintro rfl; cases hdigit
    have hminus : d ≠ '-' := by rintro rfl; cases hdigit
    have hread := readUnsigned_toDigits m hr
    rw [h]
    rw [hd, List.cons_append] at hread ⊢
    rw [readNumber]
    · exact hread
    · exact fun _ heq => hplus (List.cons.inj heq).1
    · exact fun _ heq => hminus (List.cons.inj heq).1
  · rw [h]
    simp [readNumber, readUnsigned_toDigits m hr]

/-! ## Leaves -/

/-- A value with another head than the three words is none of them. -/
theorem dropLiteral?_words {c : Char} (hn : c ≠ 'n') (ht : c ≠ 't') (hf : c ≠ 'f')
    (s : List Char) :
    dropLiteral? "null".toList (c :: s) = none ∧ dropLiteral? "true".toList (c :: s) = none
      ∧ dropLiteral? "false".toList (c :: s) = none :=
  ⟨if_neg hn, if_neg ht, if_neg hf⟩

theorem length_lt_of_quote {s : String} {fuel : Nat} (hf : (quote s).length ≤ fuel) :
    s.toList.length < fuel := by
  have := length_le_flatMap s.toList
  simp only [quote, List.length_cons, List.length_append] at hf
  omega

theorem readLeaf_quote (s : String) {fuel : Nat} (hf : (quote s).length ≤ fuel)
    (rest : List Char) :
    readLeaf fuel (quote s ++ rest) = (tree? (.str s)).map (·, rest) := by
  rw [quote, List.cons_append, List.append_assoc, List.singleton_append]
  obtain ⟨hn, ht, hf'⟩ := dropLiteral?_words (c := '"') (by decide) (by decide) (by decide)
    (s.toList.flatMap escapeChar ++ '"' :: rest)
  rw [readLeaf, hn, ht, hf']
  simp [readString_quote s (length_lt_of_quote hf), tree?, Function.comp_def]

theorem readLeaf_int (n : Int) (fuel : Nat) {rest : List Char} (hr : Ends rest) :
    readLeaf fuel ((toString n).toList ++ rest) = (tree? (.int n)).map (·, rest) := by
  have hread := readNumber_int n hr
  obtain ⟨c, t, hc, hstart⟩ := startsNumber_int n
  rw [tree?]
  rw [hc, List.cons_append] at hread ⊢
  obtain ⟨hn, ht, hf⟩ := dropLiteral?_words (hstart.ne (by decide) (by decide))
    (hstart.ne (by decide) (by decide)) (hstart.ne (by decide) (by decide)) (t ++ rest)
  rw [readLeaf, hn, ht, hf]
  · simp [hread]
  · exact fun _ heq => hstart.ne (by decide) (by decide) (List.cons.inj heq).1
  · exact fun _ heq => hstart.ne (by decide) (by decide) (List.cons.inj heq).1

/-- A key as JSON writes it. -/
theorem readKey_quote (key : String) {fuel : Nat} (hf : (quote key).length ≤ fuel)
    (rest : List Char) : readKey fuel (quote key ++ rest) = (literal? key).map (·, rest) := by
  rw [quote, List.cons_append, List.append_assoc, List.singleton_append, readKey,
    readString_quote key (length_lt_of_quote hf)]

theorem readNode_leaf {c : Char} (ho : c ≠ '\x7b') (ha : c ≠ '[') (fuel : Nat) (s : List Char) :
    readNode (fuel + 1) (c :: s) = readLeaf fuel (c :: s) := by
  rw [readNode]
  · exact fun _ heq => ho (List.cons.inj heq).1
  · exact fun _ heq => ha (List.cons.inj heq).1

/-! ## Containers -/

/-- The text of a value or a key: neither blank, nor a comment, nor the end of a container. -/
def Opens (s : List Char) : Prop :=
  ∃ c t, s = c :: t ∧ isBlank c = false ∧ c ≠ '/' ∧ c ≠ ']' ∧ c ≠ '\x7d'

theorem opens_quote (s : String) : Opens (quote s) := ⟨_, _, rfl, by decide⟩

theorem opens_indented : (level : Nat) → (v : Json) → Integral v → Opens (indented level v)
  | _, .null, _ => ⟨_, _, rfl, by decide⟩
  | _, .bool true, _ => ⟨_, _, rfl, by decide⟩
  | _, .bool false, _ => ⟨_, _, rfl, by decide⟩
  | _, .str s, _ => opens_quote s
  | _, .arr [], _ => ⟨_, _, rfl, by decide⟩
  | _, .arr (_ :: _), _ => ⟨_, _, rfl, by decide⟩
  | _, .obj [], _ => ⟨_, _, rfl, by decide⟩
  | _, .obj (_ :: _), _ => ⟨_, _, rfl, by decide⟩
  | _, .int n, _ => by
    obtain ⟨c, t, hc, hstart⟩ := startsNumber_int n
    refine ⟨c, t, hc, ?_, hstart.ne (by decide) (by decide), hstart.ne (by decide) (by decide),
      hstart.ne (by decide) (by decide)⟩
    rcases hstart with rfl | hdigit
    · decide
    · have hlow : 48 ≤ c.toNat ∧ c.toNat ≤ 57 := by
        simpa [Char.isDigit, UInt32.le_iff_toNat_le] using hdigit
      simp only [isBlank, isLineEnd, Bool.or_eq_false_iff, beq_eq_false_iff_ne, ne_eq,
        Bool.and_eq_false_iff, decide_eq_false_iff_not]
      refine ⟨by omega, ⟨⟨?_, ?_⟩, by omega⟩, by omega⟩ <;> (rintro rfl; revert hlow; decide)

theorem Opens.skipAll_append {s : List Char} (h : Opens s) (t : List Char) :
    skipAll (s ++ t) = s ++ t := by
  obtain ⟨c, u, rfl, hb, hs, -⟩ := h
  exact skipAll_cons hb hs _

theorem Opens.skipAll_newline {s : List Char} (h : Opens s) (level : Nat) (t : List Char) :
    skipAll (newline level ++ (s ++ t)) = s ++ t :=
  (Json5.skipAll_newline level _).trans (h.skipAll_append t)

theorem Opens.notClosed {s : List Char} (h : Opens s) (t u : List Char) :
    s ++ t ≠ ']' :: u ∧ s ++ t ≠ '\x7d' :: u := by
  obtain ⟨c, v, rfl, -, -, hitems, hpairs⟩ := h
  exact ⟨fun heq => hitems (List.cons.inj heq).1, fun heq => hpairs (List.cons.inj heq).1⟩

/-- The rest of an array whose items so far are read. -/
def restItems (done : List Node) (fuel : Nat) (left : List Char) : Option (Node × List Char) :=
  match skipAll left with
  | ']' :: rest => some (.array done.reverse, rest)
  | ',' :: rest =>
    match skipAll rest with
    | ']' :: rest => some (.array done.reverse, rest)
    | rest => readItems done fuel rest
  | _ => none

theorem readItems_succ (done : List Node) (fuel : Nat) (s : List Char) :
    readItems done (fuel + 1) s =
      (readNode fuel s).bind fun (item, left) => restItems (item :: done) fuel left := by
  rw [readItems]
  cases readNode fuel s <;> rfl

/-- The rest of an object whose pairs so far are read. -/
def restPairs (done : List (Except String String × Node)) (fuel : Nat) (left : List Char) :
    Option (Node × List Char) :=
  match skipAll left with
  | '}' :: rest => some (.object done.reverse, rest)
  | ',' :: rest =>
    match skipAll rest with
    | '}' :: rest => some (.object done.reverse, rest)
    | rest => readPairs done fuel rest
  | _ => none

theorem readPairs_succ {fuel : Nat} {s rest : List Char} {key? : Option (Except String String)}
    (hkey : readKey fuel s = key?.map (·, ':' :: ' ' :: rest)) (hrest : skipAll rest = rest)
    (done : List (Except String String × Node)) :
    readPairs done (fuel + 1) s = key?.bind fun key =>
      (readNode fuel rest).bind fun (value, left) =>
        restPairs ((key, value) :: done) fuel left := by
  rw [readPairs, hkey]
  cases key? with
  | none => rfl
  | some key =>
    have hcolon : skipAll (':' :: ' ' :: rest) = ':' :: ' ' :: rest := rfl
    have hspace : skipAll (' ' :: rest) = rest := hrest
    simp only [Option.map_some, hcolon, hspace, Option.bind_some]
    cases readNode fuel rest <;> rfl

/-! What a container is opened with, and what a comma leads to. -/

section
variable {s : List Char} (h : Opens s) (level fuel : Nat) (t : List Char)
include h

theorem readNode_array :
    readNode (fuel + 1) ('[' :: (newline level ++ (s ++ t))) = readItems [] fuel (s ++ t) := by
  rw [readNode, h.skipAll_newline]
  split
  · rename_i heq
    exact absurd heq (h.notClosed t _).1
  · rfl

theorem readNode_object :
    readNode (fuel + 1) ('\x7b' :: (newline level ++ (s ++ t))) = readPairs [] fuel (s ++ t) := by
  rw [readNode, h.skipAll_newline]
  split
  · rename_i heq
    exact absurd heq (h.notClosed t _).2
  · rfl

theorem restItems_comma (done : List Node) :
    restItems done fuel (',' :: (newline level ++ (s ++ t))) = readItems done fuel (s ++ t) := by
  have hcomma : skipAll (',' :: (newline level ++ (s ++ t))) = ',' :: (newline level ++ (s ++ t)) :=
    skipAll_cons rfl (by decide) _
  simp only [restItems, hcomma, h.skipAll_newline]
  split
  · rename_i heq
    exact absurd heq (h.notClosed t _).1
  · rfl

theorem restPairs_comma (done : List (Except String String × Node)) :
    restPairs done fuel (',' :: (newline level ++ (s ++ t))) = readPairs done fuel (s ++ t) := by
  have hcomma : skipAll (',' :: (newline level ++ (s ++ t))) = ',' :: (newline level ++ (s ++ t)) :=
    skipAll_cons rfl (by decide) _
  simp only [restPairs, hcomma, h.skipAll_newline]
  split
  · rename_i heq
    exact absurd heq (h.notClosed t _).2
  · rfl

end

theorem ends_indentedItems (level : Nat) (xs : List Json) (rest : List Char) :
    Ends (indentedItems level xs ++ rest) := by
  cases xs with
  | nil => exact fun c hc => .inr (Option.some.inj hc).symm
  | cons x xs => exact fun c hc => .inl (Option.some.inj hc).symm

theorem ends_indentedMembers (level : Nat) (ms : List (String × Json)) (rest : List Char) :
    Ends (indentedMembers level ms ++ rest) := by
  cases ms with
  | nil => exact fun c hc => .inr (Option.some.inj hc).symm
  | cons m ms => exact fun c hc => .inl (Option.some.inj hc).symm

/-! ## Values -/

/-- The text of a value is read as its tree, whatever stands behind it. -/
def Reads (level : Nat) (v : Json) : Prop :=
  ∀ (fuel : Nat) (rest : List Char), Ends rest → (indented level v).length < fuel →
    readNode fuel (indented level v ++ rest) = (tree? v).map (·, rest)

/-- The rest of an array is read as the trees of its items. -/
def ReadsItems (level : Nat) (xs : List Json) : Prop :=
  ∀ (fuel : Nat) (done : List Node) (rest : List Char), (indentedItems level xs).length ≤ fuel →
    restItems done fuel (indentedItems level xs ++ rest) =
      (trees? xs).map fun ts => (.array (done.reverse ++ ts), rest)

/-- The rest of an object is read as the trees of its members. -/
def ReadsMembers (level : Nat) (ms : List (String × Json)) : Prop :=
  ∀ (fuel : Nat) (done : List (Except String String × Node)) (rest : List Char),
    (indentedMembers level ms).length ≤ fuel →
    restPairs done fuel (indentedMembers level ms ++ rest) =
      (pairs? ms).map fun ps => (.object (done.reverse ++ ps), rest)

section
variable {level : Nat} {x : Json} (hx : Reads (level + 1) x)
include hx

theorem readItems_of {xs : List Json} (hxs : ReadsItems level xs) {fuel : Nat}
    (hf : (indented (level + 1) x ++ indentedItems level xs).length < fuel) (done : List Node)
    (rest : List Char) :
    readItems done fuel (indented (level + 1) x ++ (indentedItems level xs ++ rest)) =
      (trees? (x :: xs)).map fun ts => (.array (done.reverse ++ ts), rest) := by
  obtain ⟨fuel, rfl⟩ := Nat.exists_eq_succ_of_ne_zero (Nat.ne_zero_of_lt hf)
  rw [List.length_append] at hf
  have hpos : 0 < (indentedItems level xs).length := by cases xs <;> simp [indentedItems]
  rw [readItems_succ, hx fuel _ (ends_indentedItems level xs rest) (by omega), trees?]
  cases tree? x with
  | none => rfl
  | some t =>
    simp only [Option.map_some, Option.bind_some, hxs fuel (t :: done) rest (by omega)]
    cases trees? xs <;> simp

theorem readPairs_of {key : String} {ms : List (String × Json)} (hms : ReadsMembers level ms)
    (hv : Integral x) {fuel : Nat}
    (hf : (quote key ++ ':' :: ' ' :: indented (level + 1) x ++ indentedMembers level ms).length
      < fuel) (done : List (Except String String × Node)) (rest : List Char) :
    readPairs done fuel (quote key ++
        (':' :: ' ' :: (indented (level + 1) x ++ (indentedMembers level ms ++ rest)))) =
      (pairs? ((key, x) :: ms)).map fun ps => (.object (done.reverse ++ ps), rest) := by
  obtain ⟨fuel, rfl⟩ := Nat.exists_eq_succ_of_ne_zero (Nat.ne_zero_of_lt hf)
  simp only [List.length_append, List.length_cons] at hf
  have hkey := readKey_quote key (show (quote key).length ≤ fuel by omega)
    (':' :: ' ' :: (indented (level + 1) x ++ (indentedMembers level ms ++ rest)))
  have hpos : 0 < (indentedMembers level ms).length := by cases ms <;> simp [indentedMembers]
  rw [readPairs_succ hkey ((opens_indented _ x hv).skipAll_append _), pairs?]
  cases literal? key with
  | none => rfl
  | some key =>
    rw [Option.bind_some, Option.bind_some,
      hx fuel _ (ends_indentedMembers level ms rest) (by omega)]
    cases tree? x with
    | none => rfl
    | some t =>
      simp only [Option.map_some, Option.bind_some, hms fuel ((key, t) :: done) rest (by omega)]
      cases pairs? ms <;> simp

end

/-- A text that opens no container is read as a leaf. -/
theorem reads_leaf {v : Json} {level : Nat} {c : Char} {s : List Char}
    (htext : indented level v = c :: s) (ho : c ≠ '\x7b') (ha : c ≠ '[')
    (hleaf : ∀ fuel rest, Ends rest → (indented level v).length ≤ fuel →
      readLeaf fuel (indented level v ++ rest) = (tree? v).map (·, rest)) : Reads level v := by
  intro fuel rest hr hf
  obtain ⟨fuel, rfl⟩ := Nat.exists_eq_succ_of_ne_zero (Nat.ne_zero_of_lt hf)
  have h := hleaf fuel rest hr (Nat.le_of_lt_succ hf)
  rw [htext, List.cons_append] at h ⊢
  rw [readNode_leaf ho ha, h]

mutual

theorem reads : (v : Json) → Integral v → (level : Nat) → Reads level v
  | .null, _, _ => reads_leaf rfl (by decide) (by decide) fun _ _ _ _ => rfl
  | .bool true, _, _ => reads_leaf rfl (by decide) (by decide) fun _ _ _ _ => rfl
  | .bool false, _, _ => reads_leaf rfl (by decide) (by decide) fun _ _ _ _ => rfl
  | .str s, _, _ =>
    reads_leaf rfl (by decide) (by decide) fun _ rest _ hf => readLeaf_quote s hf rest
  | .int n, _, _ => by
    obtain ⟨c, t, hc, hstart⟩ := startsNumber_int n
    exact reads_leaf hc (hstart.ne (by decide) (by decide)) (hstart.ne (by decide) (by decide))
      fun fuel _ hr _ => readLeaf_int n fuel hr
  | .arr [], _, _ => fun fuel _ _ hf => by
    obtain ⟨fuel, rfl⟩ := Nat.exists_eq_succ_of_ne_zero (Nat.ne_zero_of_lt hf)
    rfl
  | .obj [], _, _ => fun fuel _ _ hf => by
    obtain ⟨fuel, rfl⟩ := Nat.exists_eq_succ_of_ne_zero (Nat.ne_zero_of_lt hf)
    rfl
  | .arr (x :: xs), hv, level => by
    intro fuel rest _ hf
    obtain ⟨fuel, rfl⟩ := Nat.exists_eq_succ_of_ne_zero (Nat.ne_zero_of_lt hf)
    simp only [indented, List.length_cons, List.length_append] at hf
    simp only [indented, List.cons_append, List.append_assoc]
    rw [readNode_array (opens_indented _ x hv.1), readItems_of (reads x hv.1 _)
      (readsItems xs hv.2 level) (by rw [List.length_append]; omega)]
    simp [tree?, Function.comp_def]
  | .obj ((k, x) :: ms), hv, level => by
    intro fuel rest _ hf
    obtain ⟨fuel, rfl⟩ := Nat.exists_eq_succ_of_ne_zero (Nat.ne_zero_of_lt hf)
    simp only [indented, List.length_cons, List.length_append] at hf
    simp only [indented, List.cons_append, List.append_assoc]
    rw [readNode_object (opens_quote k), readPairs_of (reads x hv.1 _) (readsMembers ms hv.2 level)
      hv.1 (by simp only [List.length_append, List.length_cons]; omega)]
    simp [tree?, Function.comp_def]

theorem readsItems : (xs : List Json) → IntegralItems xs → (level : Nat) → ReadsItems level xs
  | [], _, level => by
    intro fuel done rest _
    have hclose : skipAll (newline level ++ ']' :: rest) = ']' :: rest :=
      (skipAll_newline level _).trans (skipAll_cons rfl (by decide) _)
    simp [indentedItems, restItems, hclose, trees?]
  | x :: xs, hv, level => by
    intro fuel done rest hf
    simp only [indentedItems, List.length_cons, List.length_append] at hf
    simp only [indentedItems, List.cons_append, List.append_assoc]
    rw [restItems_comma (opens_indented _ x hv.1)]
    exact readItems_of (reads x hv.1 _) (readsItems xs hv.2 level)
      (by rw [List.length_append]; omega) done rest

theorem readsMembers :
    (ms : List (String × Json)) → IntegralMembers ms → (level : Nat) → ReadsMembers level ms
  | [], _, level => by
    intro fuel done rest _
    have hclose : skipAll (newline level ++ '\x7d' :: rest) = '\x7d' :: rest :=
      (skipAll_newline level _).trans (skipAll_cons rfl (by decide) _)
    simp [indentedMembers, restPairs, hclose, pairs?]
  | (k, x) :: ms, hv, level => by
    intro fuel done rest hf
    simp only [indentedMembers, List.length_cons, List.length_append] at hf
    simp only [indentedMembers, List.cons_append, List.append_assoc]
    rw [restPairs_comma (opens_quote k)]
    exact readPairs_of (reads x hv.1 _) (readsMembers ms hv.2 level) hv.1
      (by simp only [List.length_append, List.length_cons]; omega) done rest

end

/-- The indented text of a value whose numbers are integers is read as the tree of the value; where
there is none, because a string or a key breaks a line, it does not follow the grammar. -/
theorem parse_pretty {v : Json} (hv : Integral v) : parse v.pretty = tree? v := by
  have hread := reads v hv 0 (4 * (indented 0 v).length + 4) [] nofun (by omega)
  have hskip := (opens_indented 0 v hv).skipAll_append []
  rw [List.append_nil] at hread hskip
  unfold parse pretty
  simp only [String.toList_ofList, hskip, hread]
  cases tree? v <;> rfl

end Toolwire.Json5
