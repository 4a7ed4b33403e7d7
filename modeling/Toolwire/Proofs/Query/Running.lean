import Mathlib
import Toolwire.Query.Scan
/-!
# Running over a query

What a scan in code makes of blanks, of words, of parentheses and of text in which nothing of a
statement begins or ends, whatever stands behind them.
-/
namespace Toolwire.Query

open Text

/-! ## Characters -/

theorem isIdentChar_of_isIdentStart {c : Char} (h : isIdentStart c = true) :
    isIdentChar c = true := by
  simp only [isIdentStart, isIdentChar, Char.isAlphanum, Bool.or_eq_true] at h ⊢
  tauto

theorem toNat_of_isIdentChar {c : Char} (h : isIdentChar c = true) :
    c.toNat = 95 ∨ (48 ≤ c.toNat ∧ c.toNat ≤ 57) ∨ (65 ≤ c.toNat ∧ c.toNat ≤ 90)
      ∨ (97 ≤ c.toNat ∧ c.toNat ≤ 122) := by
  simp only [isIdentChar, Char.isAlphanum, Char.isAlpha, Char.isUpper, Char.isLower, Char.isDigit,
    Bool.or_eq_true, Bool.and_eq_true, decide_eq_true_eq, beq_iff_eq, ge_iff_le,
    UInt32.le_iff_toNat_le] at h
  rcases h with ((h | h) | h) | rfl
  · exact .inr (.inr (.inl h))
  · exact .inr (.inr (.inr h))
  · exact .inr (.inl h)
  · exact .inl rfl

theorem not_isIdentChar_of_isBlank {c : Char} (h : isBlank c = true) : isIdentChar c = false := by
  by_contra hc
  have := toNat_of_isIdentChar (Bool.not_eq_false _ ▸ hc)
  simp only [isBlank, Bool.or_eq_true, Bool.and_eq_true, decide_eq_true_eq, beq_iff_eq] at h
  omega

/-- The characters that mean something to a scan in code besides those of words. -/
def signs : List Char := ['\'', '"', '-', '/', ':', '?', ';', '(', ')', '%', '{']

/-- A character that a scan in code passes over. -/
def IsIdle (c : Char) : Prop := isIdentStart c = false ∧ c ∉ signs

theorem isIdle_of_isBlank {c : Char} (h : isBlank c = true) : IsIdle c := by
  constructor
  · by_contra hc
    have := isIdentChar_of_isIdentStart (Bool.not_eq_false _ ▸ hc)
    rw [not_isIdentChar_of_isBlank h] at this
    cases this
  · intro hs
    have none : signs.all (fun d => !isBlank d) = true := by decide
    have := List.all_eq_true.1 none c hs
    rw [h] at this
    cases this

theorem not_mem_signs_of_isIdentStart {c : Char} (h : isIdentStart c = true) : c ∉ signs := by
  intro hs
  have none : signs.all (fun d => !isIdentStart d) = true := by decide
  have := List.all_eq_true.1 none c hs
  rw [h] at this
  cases this

/-! ## Single characters -/

section
variable {s : Scanner} {c : Char} {more : List Char}

theorem marker?_eq_none (hc : c ∉ ['%', '{']) : marker? c more = none := by
  simp only [List.mem_cons, List.not_mem_nil, or_false, not_or] at hc
  simp only [marker?, hc.1, hc.2, if_false]

theorem step_of_code (hm : s.mode = .code) (h : marker? c more = none) :
    step s c more = stepCode s c more := by
  simp only [step, h, hm]

theorem run_idle (hm : s.mode = .code) (hc : IsIdle c) : run s 0 (c :: more) = run s 0 more := by
  obtain ⟨hw, hs⟩ := hc
  simp only [signs, List.mem_cons, List.not_mem_nil, or_false, not_or] at hs
  have hn : marker? c more = none := marker?_eq_none (by simp [hs])
  have hstep : step s c more = (s, 0) := by
    simp [step_of_code hm hn, stepCode, hs, hw]
  rw [run, hstep]

theorem run_idle_all (hm : s.mode = .code) {cs : List Char} (hc : ∀ c ∈ cs, IsIdle c) :
    run s 0 (cs ++ more) = run s 0 more := by
  induction cs with
  | nil => rfl
  | cons c cs ih =>
    rw [List.cons_append, run_idle hm (hc c List.mem_cons_self)]
    exact ih fun d hd => hc d (List.mem_cons_of_mem c hd)

theorem run_blanks (hm : s.mode = .code) {cs : List Char} (hc : ∀ c ∈ cs, isBlank c = true) :
    run s 0 (cs ++ more) = run s 0 more :=
  run_idle_all hm fun c h => isIdle_of_isBlank (hc c h)

theorem run_openParen (hm : s.mode = .code) :
    run s 0 ('(' :: more) = run { s with statement := s.statement.openParen } 0 more := by
  have hn : marker? '(' more = none := marker?_eq_none (by decide)
  have hstep : step s '(' more = ({ s with statement := s.statement.openParen }, 0) := by
    rw [step_of_code hm hn]
    rfl
  rw [run, hstep]

theorem run_closeParen (hm : s.mode = .code) :
    run s 0 (')' :: more) = run { s with statement := s.statement.closeParen } 0 more := by
  have hn : marker? ')' more = none := marker?_eq_none (by decide)
  have hstep : step s ')' more = ({ s with statement := s.statement.closeParen }, 0) := by
    rw [step_of_code hm hn]
    rfl
  rw [run, hstep]

theorem run_drop (s : Scanner) (cs : List Char) :
    run s cs.length (cs ++ more) = run s 0 more := by
  induction cs with
  | nil => rfl
  | cons c cs ih => exact ih

end

/-! ## Words -/

/-- Whether characters are one word. -/
def isWord : List Char → Bool
  | [] => false
  | c :: cs => isIdentStart c && cs.all isIdentChar

/-- A word of a query. -/
structure Word where
  chars : List Char
  valid : isWord chars = true

/-- A word in capitals. -/
def Word.capitals (w : Word) : String := String.ofList (w.chars.map Char.toUpper)

/-- A scanner that has passed a word in capitals. -/
def Scanner.passWord (s : Scanner) (word : String) (beforeParen : Bool) : Scanner :=
  { s with
    statement := s.statement.word word
    found := { s.found with
      keywords :=
        if s.statement.opensWrite word beforeParen then addNew s.found.keywords word
        else s.found.keywords } }

/-- A word ends where no further character of one follows. -/
def EndsWord (more : List Char) : Prop := ∀ c ∈ more.head?, isIdentChar c = false

theorem endsWord_cons {c : Char} (h : isIdentChar c = false) (cs : List Char) :
    EndsWord (c :: cs) := by
  intro d hd
  obtain rfl := Option.some.inj hd
  exact h

theorem EndsWord.takeWhile {more : List Char} (h : EndsWord more) (cs : List Char) :
    (cs ++ more).takeWhile isIdentChar = cs.takeWhile isIdentChar := by
  have none : more.takeWhile isIdentChar = [] := by
    cases more with
    | nil => rfl
    | cons c more => rw [List.takeWhile_cons, h c rfl, if_neg Bool.false_ne_true]
  rw [List.takeWhile_append]
  split
  · rename_i hl
    rw [none, List.append_nil]
    exact ((List.takeWhile_prefix _).eq_of_length hl).symm
  · rfl

/-- Whether an opening parenthesis follows, perhaps behind blanks. -/
def beforeParen (more : List Char) : Bool := more.find? (fun d => !isBlank d) == some '('

theorem run_word {s : Scanner} (hm : s.mode = .code) (w : Word) {more : List Char}
    (he : EndsWord more) :
    run s 0 (w.chars ++ more) = run (s.passWord w.capitals (beforeParen more)) 0 more := by
  obtain ⟨chars, valid⟩ := w
  cases chars with
  | nil => cases valid
  | cons c cs =>
    have both : (isIdentStart c && cs.all isIdentChar) = true := valid
    obtain ⟨hc, hcs⟩ := Bool.and_eq_true_iff.1 both
    have hs := not_mem_signs_of_isIdentStart hc
    simp only [signs, List.mem_cons, List.not_mem_nil, or_false, not_or] at hs
    have hn : marker? c (cs ++ more) = none := marker?_eq_none (by simp [hs])
    have htail : (cs ++ more).takeWhile isIdentChar = cs := by
      rw [he.takeWhile, List.takeWhile_eq_self_iff.2 (List.all_eq_true.1 hcs)]
    have hstep : step s c (cs ++ more) =
        (s.passWord (Word.capitals ⟨c :: cs, valid⟩) (beforeParen more), cs.length) := by
      simp only [step_of_code hm hn, stepCode, hs, hc, htail, List.drop_left]
      rfl
    change run s 0 (c :: (cs ++ more)) = _
    rw [run, hstep]
    exact run_drop _ cs

/-! ## Plain text -/

/-- The characters that quote, nest, end a statement or stand for a parameter. -/
def delimiters : List Char := ['\'', '"', '?', ';', '(', ')']

/-- Text in which nothing is quoted, put in parentheses, commented out or interpolated, and no
statement ends. -/
def isPlain : List Char → Bool
  | [] => true
  | c :: rest =>
    !(delimiters.contains c) && (marker? c rest).isNone
      && !(c == '-' && rest.head? == some '-') && !(c == '/' && rest.head? == some '*')
      && isPlain rest

theorem isPlain_cons {c : Char} {rest : List Char} :
    isPlain (c :: rest) = true ↔ c ∉ delimiters ∧ marker? c rest = none
      ∧ ¬ (c = '-' ∧ rest.head? = some '-') ∧ ¬ (c = '/' ∧ rest.head? = some '*')
      ∧ isPlain rest = true := by
  simp only [isPlain, Bool.and_eq_true, Bool.not_eq_true', Bool.and_eq_false_iff,
    beq_eq_false_iff_ne, List.contains_eq_mem, decide_eq_false_iff_not, Option.isNone_iff_eq_none,
    and_assoc, not_and_or, ne_eq]

/-- Two scanners agree on all but the last word and the placeholders. -/
structure Scanner.Keeps (s s' : Scanner) : Prop where
  mode : s'.mode = s.mode
  expecting : s'.statement.expecting = s.statement.expecting
  inList : s'.statement.inList = s.statement.inList
  depth : s'.statement.depth = s.statement.depth
  keywords : s'.found.keywords = s.found.keywords

theorem Scanner.Keeps.refl (s : Scanner) : s.Keeps s := ⟨rfl, rfl, rfl, rfl, rfl⟩

theorem Scanner.Keeps.trans {s t u : Scanner} (h : s.Keeps t) (h' : t.Keeps u) : s.Keeps u :=
  ⟨h'.mode.trans h.mode, h'.expecting.trans h.expecting, h'.inList.trans h.inList,
    h'.depth.trans h.depth, h'.keywords.trans h.keywords⟩

/-- What stands behind plain text: nothing, or the end of the parentheses around it. -/
def Closes (more : List Char) : Prop := ∀ c ∈ more.head?, c = ')'

theorem Closes.endsWord {more : List Char} (h : Closes more) : EndsWord more := by
  intro c hc
  rw [h c hc]
  decide

theorem Closes.head? {more rest : List Char} (h : Closes more) {c : Char} (hc : c ≠ ')')
    (he : (rest ++ more).head? = some c) : rest.head? = some c := by
  cases rest with
  | nil => exact absurd (h c he) hc
  | cons d rest => exact he

theorem Closes.marker? {more rest : List Char} (h : Closes more) {c : Char}
    (hn : marker? c rest = none) (hp : isPlain rest = true) : marker? c (rest ++ more) = none := by
  unfold Query.marker? at hn ⊢
  split
  · rename_i hc
    rw [if_pos hc] at hn
    cases rest with
    | nil =>
      cases more with
      | nil => rfl
      | cons d more =>
        obtain rfl := h d rfl
        rfl
    | cons d rest =>
      have hd : d ≠ '(' := fun he => (isPlain_cons.1 hp).1 (by rw [he]; decide)
      simp only [hd, if_false, List.cons_append] at hn ⊢
      cases rest with
      | nil =>
        split at hn
        · cases hn
        · rename_i hsd
          rw [if_neg hsd]
      | cons e rest => exact hn
  · rename_i hc
    rw [if_neg hc] at hn
    split at hn
    · split at hn <;> cases hn
    · rename_i hb
      rw [if_neg hb]

variable {s : Scanner}

theorem step_plain (hm : s.mode = .code) (he : s.statement.expecting = false) {c : Char}
    {rest more : List Char} (hp : isPlain (c :: rest) = true) (hc : Closes more) :
    ∃ s' k, step s c (rest ++ more) = (s', k) ∧ k ≤ rest.length ∧ s.Keeps s' := by
  obtain ⟨hd, hn, hl, hb, hr⟩ := isPlain_cons.1 hp
  simp only [delimiters, List.mem_cons, List.not_mem_nil, or_false, not_or] at hd
  obtain ⟨h1, h2, h3, h4, h5, h6⟩ := hd
  have hl' : ¬ (c = '-' ∧ (rest ++ more).head? = some '-') :=
    fun h => hl ⟨h.1, hc.head? (by decide) h.2⟩
  have hb' : ¬ (c = '/' ∧ (rest ++ more).head? = some '*') :=
    fun h => hb ⟨h.1, hc.head? (by decide) h.2⟩
  -- A word or the name of a placeholder ends within the plain text.
  have word : ((rest ++ more).takeWhile isIdentChar).length ≤ rest.length := by
    rw [hc.endsWord.takeWhile]
    exact (List.takeWhile_sublist _).length_le
  rw [step_of_code hm (hc.marker? hn hr)]
  unfold stepCode
  simp only [h1, h2, h3, h4, h5, h6, hl', hb', if_false, Bool.and_eq_true, decide_eq_true_eq]
  split
  · split
    · rename_i hcast
      have hr : rest ≠ [] := by
        rintro rfl
        have hno : ([] : List Char).head? = some ':' := hc.head? (by decide) hcast
        cases hno
      exact ⟨s, 1, rfl, List.length_pos_iff.2 hr, .refl s⟩
    · split
      · exact ⟨_, _, rfl, word, rfl, rfl, rfl, rfl, rfl⟩
      · exact ⟨s, 0, rfl, Nat.zero_le _, .refl s⟩
  · split
    · refine ⟨_, _, rfl, word, rfl, ?_, ?_, rfl, ?_⟩
      · exact he.symm
      · simp only [Statement.word, he, Bool.false_eq_true, if_false]
      · simp only [Statement.opensWrite, he, Bool.false_and, Bool.false_eq_true, if_false]
    · exact ⟨s, 0, rfl, Nat.zero_le _, .refl s⟩

/-- Behind its leading word plain text changes nothing in a statement. -/
theorem run_plain {cs more : List Char} (hp : isPlain cs = true) (hc : Closes more) {k : Nat}
    (hk : k ≤ cs.length) (hm : s.mode = .code) (he : s.statement.expecting = false) :
    ∃ s', run s k (cs ++ more) = run s' 0 more ∧ s.Keeps s' := by
  -- The characters that are passed already stay within the text, so the induction goes
  -- through them one by one.
  induction cs generalizing s k with
  | nil =>
    obtain rfl := Nat.le_zero.1 hk
    exact ⟨s, rfl, .refl s⟩
  | cons c cs ih =>
    obtain ⟨-, -, -, -, hcs⟩ := isPlain_cons.1 hp
    cases k with
    | succ k => exact ih hcs (Nat.le_of_succ_le_succ hk) hm he
    | zero =>
      obtain ⟨t, k, hstep, hk, ht⟩ := step_plain hm he hp hc
      obtain ⟨u, hrun, hu⟩ := ih hcs hk (ht.mode.trans hm) (ht.expecting.trans he)
      refine ⟨u, ?_, ht.trans hu⟩
      rw [List.cons_append, run, hstep]
      exact hrun

end Toolwire.Query
