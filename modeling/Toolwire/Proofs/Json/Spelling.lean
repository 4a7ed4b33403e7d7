import Mathlib
import Toolwire.Json.Path
/-!
# Written paths

A path is written step by step: a key behind a dot, and an index as digits behind a dot or in
brackets right behind the step before. `parse_spell` says what a path is read as, step by step, and
`parse_spell_round` says when that gives back what was written.
-/
namespace Toolwire.Json.Path

open Text

/-! ## Numbers -/

/-- The text is that of a number below `2 ^ 64`: digits, perhaps with a plus sign before them. -/
def SpellsNumber (s : List Char) (n : Nat) : Prop :=
  n < 2 ^ 64 ∧ ∃ digits, digits ≠ [] ∧ (∀ c ∈ digits, c.isDigit = true)
    ∧ (s = digits ∨ s = '+' :: digits) ∧ n = Nat.ofDigitChars 10 digits 0

/-- The number of digits, as far as `index?` goes once a plus sign is gone. -/
theorem number_eq_some {digits : List Char} {n : Nat} :
    (if digits.isEmpty || !digits.all Char.isDigit then none
      else if Nat.ofDigitChars 10 digits 0 < 0x10000000000000000 then
        some (Nat.ofDigitChars 10 digits 0)
      else none) = some n ↔
    n < 2 ^ 64 ∧ digits ≠ [] ∧ (∀ c ∈ digits, c.isDigit = true)
      ∧ n = Nat.ofDigitChars 10 digits 0 := by
  split
  · rename_i hbad
    simp only [Bool.or_eq_true, List.isEmpty_iff, Bool.not_eq_true', List.all_eq_false] at hbad
    simp only [reduceCtorEq, false_iff, not_and]
    intro _ hne hall
    rcases hbad with hbad | ⟨c, hc, hd⟩
    · exact absurd hbad hne
    · exact absurd (hall c hc) hd
  · rename_i hgood
    simp only [Bool.or_eq_true, List.isEmpty_iff, Bool.not_eq_true', not_or, Bool.not_eq_false,
      List.all_eq_true] at hgood
    split
    · rename_i hsmall
      rw [Option.some.injEq]
      constructor
      · rintro rfl
        exact ⟨by omega, hgood.1, hgood.2, rfl⟩
      · rintro ⟨-, -, -, h⟩
        exact h.symm
    · simp only [reduceCtorEq, false_iff, not_and]
      rintro hn - - rfl
      omega

theorem index?_eq_some {s : List Char} {n : Nat} : index? s = some n ↔ SpellsNumber s n := by
  unfold index?
  split
  · rename_i rest
    simp only [number_eq_some]
    constructor
    · rintro ⟨hn, hne, hall, hv⟩
      exact ⟨hn, rest, hne, hall, .inr rfl, hv⟩
    · rintro ⟨hn, digits, hne, hall, hs | hs, hv⟩
      · -- A plus sign is no digit.
        subst hs
        exact absurd (hall '+' List.mem_cons_self) (by decide)
      · obtain rfl := (List.cons.inj hs).2
        exact ⟨hn, hne, hall, hv⟩
  · rename_i hplus
    simp only [number_eq_some]
    constructor
    · rintro ⟨hn, hne, hall, hv⟩
      exact ⟨hn, s, hne, hall, .inl rfl, hv⟩
    · rintro ⟨hn, digits, hne, hall, hs | hs, hv⟩
      · subst hs
        exact ⟨hn, hne, hall, hv⟩
      · exact absurd hs (hplus digits)

theorem index?_eq_none {s : List Char} : index? s = none ↔ ∀ n, ¬ SpellsNumber s n := by
  simp only [Option.eq_none_iff_forall_ne_some, ne_eq, index?_eq_some]

theorem isDigit_toDigits {n : Nat} {c : Char} (h : c ∈ Nat.toDigits 10 n) : c.isDigit = true :=
  Nat.isDigit_of_mem_toDigits (by decide) (by decide) h

theorem not_mem_toDigits {c : Char} (h : c.isDigit = false) (n : Nat) : c ∉ Nat.toDigits 10 n := by
  intro hc
  rw [isDigit_toDigits hc] at h
  cases h

theorem index?_toDigits (n : Nat) :
    index? (Nat.toDigits 10 n) = if n < 2 ^ 64 then some n else none := by
  split
  · rename_i hn
    apply index?_eq_some.2
    exact ⟨hn, _, Nat.toDigits_ne_nil, fun _ => isDigit_toDigits, .inl rfl, by simp⟩
  · rename_i hn
    apply index?_eq_none.2
    rintro m ⟨hm, digits, -, -, hs | hs, rfl⟩
    · rw [← hs, Nat.ofDigitChars_ten_toDigits] at hm
      exact hn hm
    · exact not_mem_toDigits (by decide) n (hs ▸ List.mem_cons_self)

/-! ## Texts between separators -/

theorem splitInclusive_append {terminator : Char} {s : List Char} (h : terminator ∉ s)
    (t : List Char) :
    splitInclusive terminator (s ++ terminator :: t) =
      (s ++ [terminator]) :: splitInclusive terminator t := by
  induction s with
  | nil => simp [splitInclusive]
  | cons c s ih =>
    rw [List.mem_cons, not_or] at h
    simp [splitInclusive, Ne.symm h.1, ih h.2]

/-! ## Steps as they are written -/

/-- A step as it is written. -/
inductive Written where
  | key (name : String)
  | digits (n : Nat)
  | brackets (n : Nat)
  deriving DecidableEq, Repr

/-- The step that is meant. -/
def Written.step : Written → Step
  | .key name => .field name
  | .digits n => .index n
  | .brackets n => .index n

/-- An index in brackets. -/
def bracketed (n : Nat) : List Char := '[' :: (Nat.toDigits 10 n ++ [']'])

/-- A step on its own. -/
def Written.text : Written → List Char
  | .key name => name.toList
  | .digits n => Nat.toDigits 10 n
  | .brackets n => bracketed n

/-- A step behind another one. -/
def Written.behind : Written → List Char
  | .brackets n => bracketed n
  | w => '.' :: w.text

/-- A path of steps. -/
def spell : List Written → String
  | [] => "$"
  | w :: ws => String.ofList ('$' :: '.' :: (w.text ++ ws.flatMap Written.behind))

/-- A key that can be written: neither a dot nor an opening bracket is in it, and no blank ends
it. -/
structure Spellable (name : String) : Prop where
  nonempty : name ≠ ""
  dot : '.' ∉ name.toList
  bracket : '[' ∉ name.toList
  ends : ∀ c, name.toList.getLast? = some c → isBlank c = false

/-- Whether an index in brackets comes first. -/
def attached : List Written → Bool
  | .brackets _ :: _ => true
  | _ => false

/-- What a text without a dot and a bracket is read as. -/
def lone (s : List Char) : Step :=
  match index? s with
  | some n => .index n
  | none => .field (String.ofList s)

/-- What a step is read as. With an index attached to it no number is looked for. -/
def Written.read (followed : Bool) : Written → Option Step
  | .brackets n => if n < 2 ^ 64 then some (.index n) else none
  | w => some (if followed then .field (String.ofList w.text) else lone w.text)

/-- What a path of steps is read as. -/
def read : List Written → Option (List Step)
  | [] => some []
  | w :: ws => (w.read (attached ws)).bind fun step => (read ws).map (step :: ·)

/-! ## Reading a part -/

theorem bracket?_bracketed (n : Nat) :
    bracket? (bracketed n) = (Written.brackets n).read false := by
  simp only [bracket?, bracketed, List.getLast?_append, List.getLast?_singleton, Option.some_or,
    if_true, List.dropLast_concat, index?_toDigits, Written.read]
  split <;> rfl

theorem splitInclusive_brackets (ns : List Nat) :
    splitInclusive ']' (ns.flatMap bracketed) = ns.map bracketed := by
  induction ns with
  | nil => rfl
  | cons n ns ih =>
    have inside : ']' ∉ '[' :: Nat.toDigits 10 n := by
      simp [not_mem_toDigits (c := ']') (by decide) n]
    have shape : (n :: ns).flatMap bracketed =
        ('[' :: Nat.toDigits 10 n) ++ ']' :: ns.flatMap bracketed := by
      simp [bracketed]
    rw [shape, splitInclusive_append inside, ih]
    rfl

theorem read_brackets (ns : List Nat) :
    read (ns.map .brackets) = (ns.map bracketed).mapM bracket? := by
  induction ns with
  | nil => rfl
  | cons n ns ih =>
    rw [List.map_cons, List.map_cons, List.mapM_cons, bracket?_bracketed, ← ih]
    simp only [read, Written.read, Option.bind_eq_bind, Option.pure_def]
    split
    · cases read (ns.map .brackets) <;> rfl
    · rfl

/-- A step that stands in no brackets, and indexes attached to it. -/
theorem partSteps_brackets {s : List Char} (hs : '[' ∉ s) (n : Nat) (ns : List Nat) :
    partSteps (s ++ (n :: ns).flatMap bracketed) =
      (read ((n :: ns).map .brackets)).map fun indexes =>
        if s.isEmpty then indexes else .field (String.ofList s) :: indexes := by
  have opens : (n :: ns).flatMap bracketed =
      '[' :: (Nat.toDigits 10 n ++ [']'] ++ ns.flatMap bracketed) := by
    simp [bracketed]
  have hall : ∀ c ∈ s, (c != '[') = true := by
    rintro c hc
    simp only [bne_iff_ne, ne_eq]
    rintro rfl
    exact hs hc
  have hname : (s ++ (n :: ns).flatMap bracketed).takeWhile (· != '[') = s := by
    rw [List.takeWhile_append_of_pos hall, opens, List.takeWhile_cons_of_neg (by decide),
      List.append_nil]
  have hrest : (s ++ (n :: ns).flatMap bracketed).dropWhile (· != '[') =
      (n :: ns).flatMap bracketed := by
    rw [List.dropWhile_append_of_pos hall, opens, List.dropWhile_cons_of_neg (by decide)]
  have hne : (s ++ (n :: ns).flatMap bracketed).isEmpty = false := by simp [bracketed]
  have hrest' : ((n :: ns).flatMap bracketed).isEmpty = false := by simp [bracketed]
  simp only [partSteps, hname, hrest, hne, hrest', splitInclusive_brackets, ← read_brackets,
    Bool.false_eq_true, if_false]
  cases read ((n :: ns).map .brackets) with
  | none => rfl
  | some indexes => simp only [Option.map_some]; split <;> rfl

theorem partSteps_lone {s : List Char} (hne : s ≠ []) (hs : '[' ∉ s) :
    partSteps s = some [lone s] := by
  have hrest : s.dropWhile (· != '[') = [] := by
    rw [List.dropWhile_eq_nil_iff]
    intro c hc
    simp only [bne_iff_ne, ne_eq]
    rintro rfl
    exact hs hc
  simp only [partSteps, hrest, List.isEmpty_iff, hne, if_false, List.isEmpty_nil, if_true, lone]
  cases index? s <;> rfl

/-- A step that can be written. -/
def Written.Fits (w : Written) : Prop := ∀ name, w = .key name → Spellable name

theorem text_ne_nil {w : Written} (h : w.Fits) : w.text ≠ [] := by
  cases w with
  | key name =>
    intro hnil
    apply (h name rfl).nonempty
    rwa [← String.toList_eq_nil_iff]
  | digits n => exact Nat.toDigits_ne_nil
  | brackets n => exact List.cons_ne_nil _ _

theorem dot_not_mem_bracketed (n : Nat) : '.' ∉ bracketed n := by
  simp [bracketed, not_mem_toDigits (c := '.') (by decide) n]

theorem dot_not_mem_text {w : Written} (h : w.Fits) : '.' ∉ w.text := by
  cases w with
  | key name => exact (h name rfl).dot
  | digits n => exact not_mem_toDigits (by decide) n
  | brackets n => exact dot_not_mem_bracketed n

/-- A part of a path is read step by step. -/
theorem partSteps_text {w : Written} (h : w.Fits) (ns : List Nat) :
    partSteps (w.text ++ ns.flatMap bracketed) = read (w :: ns.map .brackets) := by
  have own : ∀ w : Written, '[' ∉ w.text → w.text ≠ [] →
      (∀ followed, w.read followed =
        some (if followed then .field (String.ofList w.text) else lone w.text)) →
      partSteps (w.text ++ ns.flatMap bracketed) = read (w :: ns.map .brackets) := by
    intro w hb hne hread
    cases ns with
    | nil =>
      rw [List.flatMap_nil, List.append_nil, partSteps_lone hne hb]
      simp [read, hread, attached]
    | cons n ns =>
      rw [partSteps_brackets hb, read, hread]
      simp [attached, hne]
  cases w with
  | key name => exact own _ (h name rfl).bracket (text_ne_nil h) fun _ => rfl
  | digits n => exact own _ (not_mem_toDigits (by decide) n) (text_ne_nil h) fun _ => rfl
  | brackets n =>
    have := partSteps_brackets (s := []) (by simp) n ns
    simpa [Written.text] using this

/-! ## Reading a path -/

theorem read_append {us ws : List Written} (h : attached ws = false) :
    read (us ++ ws) = (read us).bind fun before => (read ws).map (before ++ ·) := by
  induction us with
  | nil => simp [read]
  | cons u us ih =>
    have same : attached (us ++ ws) = attached us := by
      cases us with
      | nil => exact h
      | cons v vs => cases v <;> rfl
    rw [List.cons_append, read, read, same, ih]
    cases u.read (attached us) with
    | none => rfl
    | some step => cases read us <;> cases read ws <;> simp

/-- The steps of the parts between dots. -/
def dotted (s : List Char) : Option (List Step) :=
  ((s.splitOn '.').mapM partSteps).map List.flatten

theorem dotted_of_not_mem {s : List Char} (h : '.' ∉ s) : dotted s = partSteps s := by
  rw [dotted, List.splitOn_eq_singleton h]
  cases hp : partSteps s <;> simp [hp]

theorem dotted_append {s : List Char} (h : '.' ∉ s) (t : List Char) :
    dotted (s ++ '.' :: t) =
      (partSteps s).bind fun before => (dotted t).map (before ++ ·) := by
  rw [dotted, dotted, List.splitOn_append_cons_self_of_not_mem h, List.mapM_cons]
  cases partSteps s with
  | none => rfl
  | some before => cases (t.splitOn '.').mapM partSteps <;> rfl

theorem dotted_text {w : Written} {ws : List Written} (hw : w.Fits) (h : ∀ v ∈ ws, v.Fits)
    (ns : List Nat) :
    dotted (w.text ++ ns.flatMap bracketed ++ ws.flatMap Written.behind) =
      read (w :: (ns.map .brackets ++ ws)) := by
  -- A part grows by the indexes that are attached to it, until a dot ends it.
  induction ws generalizing w ns with
  | nil =>
    have hdot : '.' ∉ w.text ++ ns.flatMap bracketed := by
      simp [dot_not_mem_text hw, dot_not_mem_bracketed]
    rw [List.flatMap_nil, List.append_nil, List.append_nil, dotted_of_not_mem hdot,
      partSteps_text hw]
  | cons v ws ih =>
    have hv : v.Fits := h v List.mem_cons_self
    have hws : ∀ u ∈ ws, u.Fits := fun u hu => h u (List.mem_cons_of_mem _ hu)
    have hdot : '.' ∉ w.text ++ ns.flatMap bracketed := by
      simp [dot_not_mem_text hw, dot_not_mem_bracketed]
    have apart : attached (v :: ws) = false → v.behind = '.' :: v.text →
        dotted (w.text ++ ns.flatMap bracketed ++ (v :: ws).flatMap Written.behind) =
          read (w :: (ns.map .brackets ++ v :: ws)) := by
      intro hfree hbehind
      have rest := ih hv hws []
      simp only [List.flatMap_nil, List.append_nil, List.map_nil, List.nil_append] at rest
      rw [List.flatMap_cons, hbehind, List.cons_append, dotted_append hdot, rest,
        partSteps_text hw, ← List.cons_append, read_append hfree]
    cases v with
    | key name => exact apart rfl rfl
    | digits n => exact apart rfl rfl
    | brackets n =>
      have more := ih hw hws (ns ++ [n])
      simpa [Written.behind] using more

/-! ### The ends of a path -/

/-- The text ends, and with no blank. -/
def EndsTight (s : List Char) : Prop := ∃ c, s.getLast? = some c ∧ isBlank c = false

theorem EndsTight.append {t : List Char} (h : EndsTight t) (s : List Char) : EndsTight (s ++ t) := by
  obtain ⟨c, hc, hblank⟩ := h
  exact ⟨c, by rw [List.getLast?_append, hc]; rfl, hblank⟩

theorem trim_of_endsTight {c : Char} {s : List Char} (hc : isBlank c = false)
    (h : EndsTight (c :: s)) : trim (c :: s) = c :: s := by
  obtain ⟨d, hd, hblank⟩ := h
  rw [← List.head?_reverse] at hd
  obtain ⟨t, ht⟩ := List.head?_eq_some_iff.1 hd
  rw [trim, trimStart_cons, hc, if_neg (by decide), trimEnd, ht,
    List.dropWhile_cons_of_neg (by simp [hblank]), ← ht, List.reverse_reverse]

theorem not_isBlank_of_isDigit {c : Char} (h : c.isDigit = true) : isBlank c = false := by
  simp only [Char.isDigit, Bool.and_eq_true, decide_eq_true_eq, ge_iff_le,
    UInt32.le_iff_toNat_le] at h
  have low : 48 ≤ c.toNat := h.1
  have high : c.toNat ≤ 57 := h.2
  by_contra hb
  simp only [isBlank, Bool.not_eq_false, Bool.or_eq_true, Bool.and_eq_true, decide_eq_true_eq,
    beq_iff_eq] at hb
  omega

theorem endsTight_text {w : Written} (h : w.Fits) : EndsTight w.text := by
  obtain ⟨c, hc⟩ := Option.ne_none_iff_exists'.1 (mt List.getLast?_eq_none_iff.1 (text_ne_nil h))
  refine ⟨c, hc, ?_⟩
  cases w with
  | key name => exact (h name rfl).ends c hc
  | digits n => exact not_isBlank_of_isDigit (isDigit_toDigits (List.mem_of_getLast? hc))
  | brackets n =>
    have : c = ']' := by simpa [Written.text, bracketed, List.getLast?_cons, eq_comm] using hc
    subst this
    decide

theorem endsTight_behind {w : Written} (h : w.Fits) : EndsTight w.behind := by
  cases w with
  | brackets n => exact endsTight_text (w := .brackets n) h
  | key name => exact (endsTight_text h).append ['.']
  | digits n => exact (endsTight_text (w := .digits n) h).append ['.']

theorem endsTight_steps {s : List Char} (hs : EndsTight s) {ws : List Written}
    (h : ∀ w ∈ ws, w.Fits) : EndsTight (s ++ ws.flatMap Written.behind) := by
  induction ws generalizing s with
  | nil => rwa [List.flatMap_nil, List.append_nil]
  | cons w ws ih =>
    rw [List.flatMap_cons, ← List.append_assoc]
    apply ih
    · exact (endsTight_behind (h w List.mem_cons_self)).append s
    · exact fun v hv => h v (List.mem_cons_of_mem _ hv)

/-- A written path is read step by step. -/
theorem parse_spell {ws : List Written} (h : ∀ w ∈ ws, w.Fits) : parse (spell ws) = read ws := by
  cases ws with
  | nil => rfl
  | cons w ws =>
    have hw : w.Fits := h w List.mem_cons_self
    have hws : ∀ v ∈ ws, v.Fits := fun v hv => h v (List.mem_cons_of_mem _ hv)
    have tight : EndsTight ('$' :: '.' :: (w.text ++ ws.flatMap Written.behind)) :=
      (endsTight_steps (endsTight_text hw) hws).append ['$', '.']
    have steps := dotted_text hw hws []
    simp only [List.flatMap_nil, List.append_nil, List.map_nil, List.nil_append] at steps
    simp only [parse, spell, String.toList_ofList, parseChars, trim_of_endsTight (by decide) tight,
      List.isEmpty_cons, Bool.false_or, List.cons.injEq, reduceCtorEq, and_false, decide_false,
      Bool.false_eq_true, if_false, body]
    exact steps

/-! ## The two uniform ways -/

/-- Every index as digits. -/
def Written.plain : Step → Written
  | .field name => .key name
  | .index n => .digits n

/-- Every index in brackets. -/
def Written.indexed : Step → Written
  | .field name => .key name
  | .index n => .brackets n

/-- A step that reads as nothing else: a key that can be written and is no number, or an index below
`2 ^ 64`. -/
def Distinct : Step → Prop
  | .field name => Spellable name ∧ ∀ n, ¬ SpellsNumber name.toList n
  | .index n => n < 2 ^ 64

theorem lone_of_distinct {name : String} (h : ∀ n, ¬ SpellsNumber name.toList n) :
    lone name.toList = .field name := by
  rw [lone, index?_eq_none.2 h, String.ofList_toList]

theorem read_plain {segments : List Step} (h : ∀ s ∈ segments, Distinct s) :
    read (segments.map Written.plain) = some segments := by
  induction segments with
  | nil => rfl
  | cons s segments ih =>
    have free : attached (segments.map Written.plain) = false := by
      rcases segments with _ | ⟨⟨name⟩ | n, rest⟩ <;> rfl
    rw [List.map_cons, read, ih fun t ht => h t (List.mem_cons_of_mem _ ht), free]
    have hs := h s List.mem_cons_self
    cases s with
    | field name => simp [Written.plain, Written.read, Written.text, lone_of_distinct hs.2]
    | index n =>
      have hn : n < 2 ^ 64 := hs
      simp only [Written.plain, Written.read, Written.text, lone, index?_toDigits, if_pos hn,
        Bool.false_eq_true, if_false, Option.bind_some, Option.map_some]

theorem read_indexed {segments : List Step} (h : ∀ s ∈ segments, Distinct s) :
    read (segments.map Written.indexed) = some segments := by
  induction segments with
  | nil => rfl
  | cons s segments ih =>
    rw [List.map_cons, read, ih fun t ht => h t (List.mem_cons_of_mem _ ht)]
    have hs := h s List.mem_cons_self
    cases s with
    | field name => simp [Written.indexed, Written.read, Written.text, lone_of_distinct hs.2]
    | index n =>
      have hn : n < 2 ^ 64 := hs
      simp only [Written.indexed, Written.read, if_pos hn, Option.bind_some, Option.map_some]

theorem fits_of_distinct {segments : List Step} (h : ∀ s ∈ segments, Distinct s)
    {write : Step → Written} (hwrite : ∀ s name, write s = .key name → s = .field name) :
    ∀ w ∈ segments.map write, w.Fits := by
  intro w hw name hkey
  obtain ⟨s, hs, rfl⟩ := List.mem_map.1 hw
  obtain rfl := hwrite s name hkey
  exact (h _ hs).1

/-- Steps are given back by the path that spells them, whether every index is written as digits or
every index in brackets. -/
theorem parse_spell_round {segments : List Step} (h : ∀ s ∈ segments, Distinct s) :
    parse (spell (segments.map Written.plain)) = some segments
    ∧ parse (spell (segments.map Written.indexed)) = some segments := by
  constructor
  · rw [parse_spell (fits_of_distinct h ?_), read_plain h]
    intro s name hkey
    cases s <;> cases hkey
    rfl
  · rw [parse_spell (fits_of_distinct h ?_), read_indexed h]
    intro s name hkey
    cases s <;> cases hkey
    rfl

/-- A first index, a key with a space and a closing bracket in it, and two indexes behind it. -/
theorem parse_spell_round_mixed :
    let segments : List Step := [.index 0, .field "größe ]", .index 12, .index 3]
    (∀ s ∈ segments, Distinct s)
    ∧ parse "$.0.größe ].12.3" = some segments
    ∧ parse "$.[0].größe ][12][3]" = some segments := by
  intro segments
  have key : Distinct (.field "größe ]") := by
    constructor
    · exact ⟨by decide, by decide, by decide, by simp; decide⟩
    · exact index?_eq_none.1 (by decide)
  have index : ∀ n < 2 ^ 64, Distinct (.index n) := fun n hn => hn
  have h : ∀ s ∈ segments, Distinct s := by
    intro s hs
    simp only [segments, List.mem_cons, List.not_mem_nil, or_false] at hs
    rcases hs with rfl | rfl | rfl | rfl
    · exact index 0 (by decide)
    · exact key
    · exact index 12 (by decide)
    · exact index 3 (by decide)
  have digits : spell (segments.map Written.plain) = "$.0.größe ].12.3" := by decide +kernel
  have brackets : spell (segments.map Written.indexed) = "$.[0].größe ][12][3]" := by
    decide +kernel
  have round := parse_spell_round h
  rw [digits, brackets] at round
  exact ⟨h, round⟩

end Toolwire.Json.Path
