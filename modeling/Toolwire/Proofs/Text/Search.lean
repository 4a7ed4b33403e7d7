import Mathlib
import Toolwire.Secret.Reference
/-!
# Cutting texts

A recogniser that only looks ahead cuts a text from the left: a match is a piece and the
search goes on behind it, and a character at which nothing is recognised is a piece of its
own. What it finds in a text is what it finds in the parts between.
-/
namespace Toolwire

namespace Text.Recognizer

variable {α : Type} {r : Recognizer α}

/-- A search goes on behind a match, and behind a character at which nothing is recognised. -/
@[elab_as_elim]
theorem search_induction (r : Recognizer α) {P : List Char → Prop} (nil : P [])
    (found : ∀ c s a n, r none (c :: s) = some (a, n) → P (s.drop (n - 1)) → P (c :: s))
    (char : ∀ c s, r none (c :: s) = none → P s → P (c :: s)) (s : List Char) : P s := by
  -- A match is skipped as a whole, so the induction is on the length of what is left.
  induction hlen : s.length using Nat.strong_induction_on generalizing s with
  | _ n ih =>
  cases s with
  | nil => exact nil
  | cons c s =>
    rw [List.length_cons] at hlen
    cases hm : r none (c :: s) with
    | none => exact char c s hm (ih _ (by omega) s rfl)
    | some m => exact found c s m.1 m.2 hm (ih _ (by rw [List.length_drop]; omega) _ rfl)

/-- The character before a position is of no account. -/
def LooksAhead (r : Recognizer α) : Prop := ∀ before s, r before s = r none s

theorem cutFrom_skip (hr : r.LooksAhead) (before : Option Char) (skip : Nat) (s : List Char) :
    r.cutFrom [] before skip s = r.cut (s.drop skip) := by
  induction s generalizing before skip with
  | nil => rw [List.drop_nil]; rfl
  | cons c rest ih =>
    cases skip with
    | zero =>
      unfold cut cutFrom
      rw [hr before]
      rfl
    | succ k => exact ih (some c) k

theorem cut_found (hr : r.LooksAhead) {c : Char} {s : List Char} {a : α} {n : Nat}
    (h : r none (c :: s) = some (a, n)) : r.cut (c :: s) = .found a :: r.cut (s.drop (n - 1)) := by
  have step : r.cut (c :: s) = r.cutFrom [.found a] (some c) (n - 1) s := by
    simp only [cut, cutFrom, h]
  rw [step, cutFrom_eq, cutFrom_skip hr]
  rfl

theorem cut_char (hr : r.LooksAhead) {c : Char} {s : List Char} (h : r none (c :: s) = none) :
    r.cut (c :: s) = .char c :: r.cut s := by
  have step : r.cut (c :: s) = r.cutFrom [.char c] (some c) 0 s := by
    simp only [cut, cutFrom, h]
  rw [step, cutFrom_eq, cutFrom_skip hr]
  rfl

/-- Characters at which nothing is recognised, whatever follows them, are pieces. -/
theorem cut_chars (hr : r.LooksAhead) {t : List Char} (h : ∀ c ∈ t, ∀ s, r none (c :: s) = none)
    (s : List Char) : r.cut (t ++ s) = t.map .char ++ r.cut s := by
  induction t with
  | nil => rfl
  | cons c t ih =>
    rw [List.cons_append, cut_char hr (h c (by simp) _), ih fun d hd => h d (by simp [hd])]
    rfl

/-- Nothing that is recognised reaches beyond the text. -/
def Within (r : Recognizer α) : Prop := ∀ s a n, r none s = some (a, n) → n ≤ s.length

/-- What is recognised at the positions of `s` is the same whether or not `t` follows. -/
def SettledBefore (r : Recognizer α) (s t : List Char) : Prop :=
  ∀ u, u ≠ [] → u <:+ s → r none (u ++ t) = r none u

theorem SettledBefore.of_suffix {s t u : List Char} (h : r.SettledBefore s t) (hu : u <:+ s) :
    r.SettledBefore u t := by
  intro v hv hvu
  exact h v hv (hvu.trans hu)

/-- Two texts of which the first is settled are cut each on its own. -/
theorem cut_append (hr : r.LooksAhead) (hw : r.Within) {s t : List Char}
    (h : r.SettledBefore s t) : r.cut (s ++ t) = r.cut s ++ r.cut t := by
  induction s using search_induction r with
  | nil => rfl
  | found c rest a k hm ih =>
    have here : r none (c :: (rest ++ t)) = r none (c :: rest) :=
      h (c :: rest) (by simp) List.suffix_rfl
    have hk : k - 1 ≤ rest.length := by
      have := hw _ _ _ hm
      rw [List.length_cons] at this
      omega
    have settled : r.SettledBefore (rest.drop (k - 1)) t :=
      h.of_suffix ((List.drop_suffix (k - 1) rest).trans (List.suffix_cons c rest))
    rw [List.cons_append, cut_found hr (here.trans hm), cut_found hr hm,
      List.drop_append_of_le_length hk, ih settled]
    rfl
  | char c rest hm ih =>
    have here : r none (c :: (rest ++ t)) = r none (c :: rest) :=
      h (c :: rest) (by simp) List.suffix_rfl
    rw [List.cons_append, cut_char hr (here.trans hm), cut_char hr hm,
      ih (h.of_suffix (List.suffix_cons c rest))]
    rfl

/-- A text at no position of which anything is recognised is cut into characters. -/
theorem cut_plain (hr : r.LooksAhead) {s : List Char} (h : ∀ u, u <:+ s → r none u = none) :
    r.cut s = s.map .char := by
  induction s with
  | nil => rfl
  | cons c s ih =>
    have rest := ih fun u hu => h u (hu.trans (List.suffix_cons c s))
    rw [cut_char hr (h _ List.suffix_rfl), rest]
    rfl

/-- What is found in a text is recognised at a place in it. -/
theorem recognized_of_mem_cut (hr : r.LooksAhead) {s : List Char} {a : α}
    (h : .found a ∈ r.cut s) : ∃ u n, u <:+ s ∧ r none u = some (a, n) := by
  induction s using search_induction r with
  | nil => cases h
  | found c rest b k hm ih =>
    rw [cut_found hr hm] at h
    rcases List.mem_cons.1 h with h | h
    · cases h
      exact ⟨c :: rest, k, List.suffix_rfl, hm⟩
    · obtain ⟨u, i, hu, hf⟩ := ih h
      exact ⟨u, i, hu.trans ((List.drop_suffix _ _).trans (List.suffix_cons c rest)), hf⟩
  | char c rest hm ih =>
    rw [cut_char hr hm] at h
    rcases List.mem_cons.1 h with h | h
    · cases h
    · obtain ⟨u, i, hu, hf⟩ := ih h
      exact ⟨u, i, hu.trans (List.suffix_cons c rest), hf⟩

@[simp] theorem found_chars (t : List Char) :
    (t.map (Piece.char (α := α))).filterMap Piece.found? = [] := by
  induction t with
  | nil => rfl
  | cons c t ih => exact ih

end Text.Recognizer

namespace Reference

open Text

/-- A name in braces is what stands between the braces at the head of a text. -/
theorem braced?_eq_some {s name : List Char} :
    braced? s = some name ↔
      isNameChars name = true ∧ ∃ rest, s = '{' :: (name ++ '}' :: rest) := by
  constructor
  · intro h
    unfold braced? at h
    split at h
    · rename_i c rest
      split at h
      · rename_i hc
        split at h
        · rename_i tail ht
          cases h
          refine ⟨?_, tail, ?_⟩
          · simp only [isNameChars, hc, Bool.true_and, List.all_eq_true]
            exact fun d hd => List.mem_takeWhile_imp hd
          · rw [List.cons_append, ← ht, List.takeWhile_append_dropWhile]
        · cases h
      · cases h
    · cases h
  · rintro ⟨hn, rest, rfl⟩
    cases name with
    | nil => simp [isNameChars] at hn
    | cons c name =>
      simp only [isNameChars, Bool.and_eq_true, List.all_eq_true] at hn
      -- The closing brace is the first character that no name goes on with.
      have hstop : isNameChar '}' = false := by decide
      have hdrop : (name ++ '}' :: rest).dropWhile isNameChar = '}' :: rest := by
        rw [List.dropWhile_append_of_pos hn.2, List.dropWhile_cons_of_neg (by simp [hstop])]
      have htake : (name ++ '}' :: rest).takeWhile isNameChar = name := by
        rw [List.takeWhile_append_of_pos hn.2, List.takeWhile_cons_of_neg (by simp [hstop]),
          List.append_nil]
      simp only [braced?, List.cons_append, hn.1, if_true, hdrop, htake]

theorem isNameChar_of_mem {name : List Char} (h : isNameChars name = true) {c : Char}
    (hc : c ∈ name) : isNameChar c = true := by
  have start : ∀ c, isNameStart c = true → isNameChar c = true := by
    intro c hc
    simp only [isNameStart, isNameChar, Char.isAlphanum, Bool.or_eq_true] at hc ⊢
    tauto
  cases name with
  | nil => cases hc
  | cons d name =>
    simp only [isNameChars, Bool.and_eq_true, List.all_eq_true] at h
    rcases List.mem_cons.1 hc with rfl | hc
    · exact start _ h.1
    · exact h.2 _ hc

theorem not_dollar_of_isNameChars {name : List Char} (h : isNameChars name = true) :
    ∀ c ∈ name, c ≠ '$' := by
  rintro c hc rfl
  have hd : isNameChar '$' = false := by decide
  rw [isNameChar_of_mem h hc] at hd
  cases hd

/-- A name in braces ends before a character that can neither be in a name nor close it. -/
theorem braced?_append {u rest : List Char} {c : Char} (hu : u ≠ []) (hc : isNameChar c = false)
    (hb : c ≠ '}') : braced? (u ++ c :: rest) = braced? u := by
  obtain ⟨d, u, rfl⟩ := List.exists_cons_of_ne_nil hu
  apply Option.ext
  intro name
  rw [braced?_eq_some, braced?_eq_some]
  refine and_congr_right fun hn => ?_
  constructor
  · rintro ⟨tail, h⟩
    rw [List.cons_append, List.cons.injEq] at h
    obtain ⟨rfl, h⟩ := h
    rcases List.append_eq_append_iff.1 h with ⟨more, rfl, behind⟩ | ⟨more, rfl, behind⟩
    · -- The name would reach the character or end right before it.
      cases more with
      | nil => exact absurd (List.cons.inj behind).1 hb
      | cons e more =>
        obtain ⟨rfl, -⟩ := List.cons.inj behind
        rw [isNameChar_of_mem hn (by simp)] at hc
        cases hc
    · cases more with
      | nil => exact absurd (List.cons.inj behind).1.symm hb
      | cons e more =>
        obtain ⟨rfl, -⟩ := List.cons.inj behind
        exact ⟨more, rfl⟩
  · rintro ⟨tail, h⟩
    exact ⟨tail ++ c :: rest, by rw [h]; simp⟩

/-- So does a reference, unless the dollar stands last and the character opens a brace. -/
theorem name?_append {u rest : List Char} {c : Char} (hu : u ≠ []) (hc : isNameChar c = false)
    (hb : c ≠ '}') (hd : c = '{' → u.getLast? ≠ some '$') : name? (u ++ c :: rest) = name? u := by
  obtain ⟨d, u, rfl⟩ := List.exists_cons_of_ne_nil hu
  by_cases hdollar : d = '$'
  · subst hdollar
    cases u with
    | nil =>
      change braced? (c :: rest) = none
      by_cases hopen : c = '{'
      · exact absurd rfl (hd hopen)
      · unfold braced?
        split
        · rename_i heq
          exact absurd (List.cons.inj heq).1 hopen
        · rfl
    | cons e u => exact braced?_append (List.cons_ne_nil e u) hc hb
  · have none_of : ∀ s, name? (d :: s) = none := by
      intro s
      unfold name?
      split
      · rename_i heq
        exact absurd (List.cons.inj heq).1 hdollar
      · rfl
    rw [List.cons_append, none_of, none_of]

theorem name?_eq_some {s name : List Char} :
    name? s = some name ↔
      isNameChars name = true ∧ ∃ rest, s = '$' :: '{' :: (name ++ '}' :: rest) := by
  cases s with
  | nil => simp [name?]
  | cons d s =>
    by_cases hd : d = '$'
    · subst hd
      simp [name?, braced?_eq_some]
    · simp [name?, hd]

theorem looksAhead_recognizer : recognizer.LooksAhead := fun _ _ => rfl

theorem within_recognizer : recognizer.Within := by
  intro s name n h
  obtain ⟨chars, hchars, hm⟩ := Option.map_eq_some_iff.1 h
  obtain ⟨-, rest, rfl⟩ := name?_eq_some.1 hchars
  cases hm
  simp

theorem recognizer_of_ne_dollar {c : Char} (hc : c ≠ '$') (s : List Char) :
    recognizer none (c :: s) = none := by
  unfold recognizer name?
  split
  · rename_i h; exact absurd (List.cons.inj h).1 hc
  · rfl

/-- No reference starts between two braces, for there is no dollar. -/
theorem cut_braced {name : List Char} (hn : isNameChars name = true) (rest : List Char) :
    recognizer.cut ('{' :: (name ++ '}' :: rest)) =
      ('{' :: name ++ ['}']).map .char ++ recognizer.cut rest := by
  have plain : ∀ c ∈ '{' :: name ++ ['}'], ∀ s, recognizer none (c :: s) = none := by
    intro c hc
    refine recognizer_of_ne_dollar ?_
    simp only [List.cons_append, List.mem_cons, List.mem_append, List.not_mem_nil, or_false] at hc
    rcases hc with rfl | hc | rfl
    · decide
    · exact not_dollar_of_isNameChars hn c hc
    · decide
  rw [← Recognizer.cut_chars looksAhead_recognizer plain rest]
  simp

end Reference
end Toolwire
