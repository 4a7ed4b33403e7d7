import Mathlib
import Toolwire.Proofs.Query.Token
/-!
# Seams between texts

A token looks past the end of a text only for a character that could go on with it. So a border
behind a text is no more to a scan than its end, but for the few pairs of characters that are one
token: `run_append_border`.
-/
namespace Toolwire.Query

open Text

/-! ## Borders -/

/-- A character that goes on with no word, number, gap or cast, and that opens no parentheses and
no block comment. -/
structure Border (o : Char) : Prop where
  notIdent : isIdentChar o = false
  notAlphanumeric : isAlphanumeric o = false
  notBlank : isBlank o = false
  notSign : o ≠ '(' ∧ o ≠ ':' ∧ o ≠ '*'

theorem border_semicolon : Border ';' := ⟨by decide, by decide, by decide, by decide⟩

/-- Two characters that are one token in a mode. -/
inductive Joined : Mode → Char → Char → Prop
  | dashes : Joined .code '-' '-'
  | quotes : Joined .singleQuoted '\'' '\''
  | close : Joined .blockComment '*' '/'

/-- Text that opens no interpolation which could end behind it. -/
structure KeepsMarkers (cs : List Char) : Prop where
  noBrace : '{' ∉ cs
  noParen : ¬ ['%', '('] <:+: cs

/-- Text whose markers are the same with other text behind it. -/
def Steady : List Char → List Char → Prop
  | [], _ => True
  | c :: cs, more => marker? c (cs ++ more) = marker? c cs ∧ Steady cs more

section
variable {c o : Char} {rest more : List Char}

theorem KeepsMarkers.tail (h : KeepsMarkers (c :: rest)) : KeepsMarkers rest where
  noBrace hm := h.noBrace (List.mem_cons_of_mem c hm)
  noParen hi := h.noParen (List.infix_cons hi)

theorem Border.isIdentStart (ho : Border o) : isIdentStart o = false := by
  by_contra hs
  have := isIdentChar_of_isIdentStart (Bool.not_eq_false _ ▸ hs)
  rw [ho.notIdent] at this
  cases this

theorem Border.takeWhile (ho : Border o) :
    (rest ++ o :: more).takeWhile isIdentChar = rest.takeWhile isIdentChar :=
  (endsWord_cons ho.notIdent more).takeWhile rest

theorem Border.beforeParen (ho : Border o) :
    beforeParen (rest ++ o :: more) = beforeParen rest := by
  unfold Query.beforeParen
  rw [List.find?_append]
  cases rest.find? (fun d => !isBlank d) with
  | some d => rfl
  | none => simp [ho.notBlank, ho.notSign.1]

theorem Border.marker? (ho : Border o) (h : KeepsMarkers (c :: rest)) :
    marker? c (rest ++ o :: more) = marker? c rest := by
  have hbrace : c ≠ '{' := fun he => h.noBrace (he ▸ List.mem_cons_self)
  have hletter : o ≠ 's' ∧ o ≠ 'd' := by
    constructor <;> rintro rfl <;> exact absurd ho.notIdent (by decide)
  by_cases hc : c = '%'
  · subst hc
    cases rest with
    | nil => simp [Query.marker?, ho.notSign.1, hletter]
    | cons d rest =>
      have hd : d ≠ '(' := by
        rintro rfl
        exact h.noParen ⟨[], rest, rfl⟩
      have hnext : ((rest ++ o :: more).head?.map isAlphanumeric).getD false =
          (rest.head?.map isAlphanumeric).getD false := by
        cases rest with
        | nil => exact ho.notAlphanumeric
        | cons e rest => rfl
      simp only [Query.marker?, List.cons_append, hd, if_true, if_false, hnext]
  · simp only [Query.marker?, hc, hbrace, if_false]

theorem KeepsMarkers.steady {cs : List Char} (h : KeepsMarkers cs) (ho : Border o) :
    Steady cs (o :: more) := by
  induction cs with
  | nil => trivial
  | cons c cs ih => exact ⟨ho.marker? h, ih h.tail⟩

theorem Border.lexCode (ho : Border o) (hj : rest = [] → ¬ Joined .code c o) :
    lexCode c (rest ++ o :: more) = lexCode c rest := by
  have hdrop : (rest ++ o :: more).drop (rest.takeWhile isIdentChar).length =
      rest.drop (rest.takeWhile isIdentChar).length ++ o :: more :=
    List.drop_append_of_le_length (List.takeWhile_sublist _).length_le
  simp only [Query.lexCode, ho.takeWhile, hdrop, ho.beforeParen]
  cases rest with
  | cons d rest => rfl
  | nil =>
    have hdash : ¬ (c = '-' ∧ o = '-') := by
      rintro ⟨rfl, rfl⟩
      exact hj rfl .dashes
    simp [ho.isIdentStart, ho.notSign, hdash]

/-- No token looks past the border behind it. -/
theorem Border.lex (ho : Border o) {mode : Mode}
    (h : Query.marker? c (rest ++ o :: more) = Query.marker? c rest)
    (hj : rest = [] → ¬ Joined mode c o) : lex mode c (rest ++ o :: more) = lex mode c rest := by
  unfold Query.lex
  rw [h]
  cases Query.marker? c rest with
  | some marker => rfl
  | none =>
    cases mode with
    | code => exact ho.lexCode hj
    | doubleQuoted => rfl
    | lineComment => rfl
    | singleQuoted =>
      cases rest with
      | cons d rest => rfl
      | nil =>
        have hquote : c = '\'' → o ≠ '\'' := by
          rintro rfl rfl
          exact hj rfl .quotes
        by_cases hc : c = '\''
        · simp [hc, hquote hc]
        · simp [hc]
    | blockComment =>
      cases rest with
      | cons d rest => rfl
      | nil =>
        have hclose : ¬ (c = '*' ∧ o = '/') := by
          rintro ⟨rfl, rfl⟩
          exact hj rfl .close
        simp [hclose]

end

/-! ## Scans over a seam -/

/-- A scan goes on behind a border as it starts there, but where the border ends a token that the
text has begun: a dash behind a dash opens a comment, and a quotation or a comment may go on. -/
theorem run_append_border {cs more : List Char} {o : Char} (h : Steady cs (o :: more))
    (ho : Border o) (s : Scanner) {skip : Nat} (hskip : skip ≤ cs.length) :
    run s skip (cs ++ o :: more) = run (run s skip cs) 0 (o :: more)
      ∨ (o = '-' ∧ run s skip (cs ++ o :: more) =
          run { run s skip cs with mode := .lineComment } 0 more)
      ∨ (o = '\'' ∧ cs.getLast? = some '\'')
      ∨ (o = '/' ∧ (run s skip cs).mode = .blockComment) := by
  -- A token ends within the text, so the characters that are passed already stay within it.
  induction cs generalizing s skip with
  | nil =>
    obtain rfl := Nat.le_zero.1 hskip
    exact .inl rfl
  | cons c cs ih =>
    have last : cs.getLast? = some '\'' → (c :: cs).getLast? = some '\'' := by
      intro hl
      rw [List.getLast?_cons, hl]
      rfl
    cases skip with
    | succ skip =>
      exact (ih h.2 s (Nat.le_of_succ_le_succ hskip)).imp_right
        (Or.imp_right (Or.imp_left (And.imp_right last)))
    | zero =>
      by_cases hj : cs = [] ∧ Joined s.mode c o
      · obtain ⟨rfl, hj⟩ := hj
        obtain ⟨mode, statement, found⟩ := s
        cases hj with
        | dashes => exact .inr (.inl ⟨rfl, rfl⟩)
        | quotes => exact .inr (.inr (.inl ⟨rfl, rfl⟩))
        | close => exact .inr (.inr (.inr ⟨rfl, rfl⟩))
      · have hlex : lex s.mode c (cs ++ o :: more) = lex s.mode c cs :=
          ho.lex h.1 fun he hj' => hj ⟨he, hj'⟩
        rw [List.cons_append, run_cons s c (cs ++ _), run_cons s c cs, hlex]
        exact (ih h.2 _ (lex_le s.mode c cs)).imp_right
          (Or.imp_right (Or.imp_left (And.imp_right last)))

end Toolwire.Query
