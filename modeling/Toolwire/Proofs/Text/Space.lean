import Mathlib
import Toolwire.Proofs.Text.Search
import Toolwire.Secret.Finding
/-!
# Texts with a space between them

A space is in no word, so a text next to one ends or begins there as it would on its own. What a
search finds in either of two texts it finds in the two with a space between them, as long as its
recogniser is `Spaced`.
-/
namespace Toolwire.Text

open Secret (runLength)

/-! ## Boundaries and words -/

theorem isWordAt_space : isWordAt (some ' ') = isWordAt none := by decide

theorem isBoundary_space (after : Option Char) :
    isBoundary (some ' ') after = isBoundary none after := by
  rw [isBoundary, isBoundary, isWordAt_space]

theorem isBoundary_head? (before : Option Char) (s t : List Char) :
    isBoundary before (s ++ ' ' :: t).head? = isBoundary before s.head? := by
  cases s with
  | nil => rw [isBoundary, isBoundary, List.nil_append, List.head?_cons, isWordAt_space,
      List.head?_nil]
  | cons c s => rfl

theorem dropLiteral?_append {literal s rest : List Char}
    (h : dropLiteral? literal s = some rest) (t : List Char) :
    dropLiteral? literal (s ++ t) = some (rest ++ t) := by
  fun_induction dropLiteral? literal s with
  | case1 s => cases h; rfl
  | case2 => cases h
  | case3 literal c s ih => rw [List.cons_append, dropLiteral?, if_pos rfl, ih h]
  | case4 => cases h

/-- A word without a space in it does not reach over one. -/
theorem dropWord?_space {word : List Char} (h : ' ' ∉ word) (s t : List Char) :
    dropWord? word (s ++ ' ' :: t) = (dropWord? word s).map (· ++ ' ' :: t) := by
  fun_induction dropWord? word s with
  | case1 s => rfl
  | case2 w word =>
    have hw : fold ' ' ≠ w := by
      rintro rfl
      exact h (List.mem_cons_self)
    rw [List.nil_append, dropWord?, if_neg hw]
    rfl
  | case3 word c s ih =>
    rw [List.cons_append, dropWord?, if_pos rfl, ih fun hmem => h (List.mem_cons_of_mem _ hmem)]
  | case4 w word c s hne =>
    rw [List.cons_append, dropWord?, if_neg hne]
    rfl

theorem dropAnyWord?_space {words : List String} (h : ∀ w ∈ words, ' ' ∉ w.toList)
    (s t : List Char) :
    dropAnyWord? words (s ++ ' ' :: t) = (dropAnyWord? words s).map (· ++ ' ' :: t) := by
  unfold dropAnyWord?
  induction words with
  | nil => rfl
  | cons w words ih =>
    rw [List.findSome?_cons, List.findSome?_cons, dropWord?_space (h w List.mem_cons_self)]
    cases dropWord? w.toList s with
    | some rest => rfl
    | none => exact ih fun v hv => h v (List.mem_cons_of_mem _ hv)

theorem trimStart_append {s : List Char} (h : trimStart s ≠ []) (t : List Char) :
    trimStart (s ++ t) = trimStart s ++ t := by
  unfold trimStart at h ⊢
  rw [List.dropWhile_append, if_neg (by simpa using h)]

/-! ## Runs -/

section
variable {p : Char → Bool}

theorem runLength_le_length (s : List Char) : runLength p s ≤ s.length :=
  (List.takeWhile_prefix p).length_le

theorem runLength_add_le_length (q : Char → Bool) (s : List Char) :
    runLength p s + runLength q (s.drop (runLength p s)) ≤ s.length := by
  have hrun : runLength p s ≤ s.length := runLength_le_length s
  have hrest := runLength_le_length (p := q) (s.drop (runLength p s))
  rw [List.length_drop] at hrest
  omega

theorem runLength_lt_length {s : List Char} (h : s.drop (runLength p s) ≠ []) :
    runLength p s < s.length :=
  Nat.lt_of_not_le fun hle => h (List.drop_eq_nil_of_le hle)

/-- A run that ends within the text ends there whatever follows the text. -/
theorem takeWhile_append_of_lt {s : List Char} (h : runLength p s < s.length) (t : List Char) :
    (s ++ t).takeWhile p = s.takeWhile p := by
  unfold runLength at h
  rw [List.takeWhile_append, if_neg (Nat.ne_of_lt h)]

theorem runLength_append_of_lt {s : List Char} (h : runLength p s < s.length) (t : List Char) :
    runLength p (s ++ t) = runLength p s :=
  congrArg List.length (takeWhile_append_of_lt h t)

theorem drop_run_append {s : List Char} (h : runLength p s < s.length) (t : List Char) :
    (s ++ t).drop (runLength p (s ++ t)) = s.drop (runLength p s) ++ t := by
  rw [runLength_append_of_lt h, List.drop_append_of_le_length (Nat.le_of_lt h)]

theorem runLength_space (hp : p ' ' = false) (s t : List Char) :
    runLength p (s ++ ' ' :: t) = runLength p s := by
  unfold runLength
  rw [List.takeWhile_append, List.takeWhile_cons_of_neg (by simp [hp])]
  split
  · rename_i hfull
    rw [List.append_nil, hfull]
  · rfl

theorem runLength_le_append (s t : List Char) : runLength p s ≤ runLength p (s ++ t) := by
  unfold runLength
  rw [List.takeWhile_append]
  split
  · rename_i hfull
    rw [hfull, List.length_append]
    exact Nat.le_add_right _ _
  · exact Nat.le_refl _

end

/-! ## Search -/

namespace Recognizer

variable {α : Type} {r : Recognizer α}

/-- What is recognised in a text is recognised with a space and more text behind it, and a text
behind a space is taken as one with nothing before it. -/
structure Spaced (r : Recognizer α) : Prop where
  stays : ∀ {before s} t, (r before s).isSome → (r before (s ++ ' ' :: t)).isSome
  starts : ∀ s, r (some ' ') s = r none s

theorem isSome_findAfter_cons {before : Option Char} {c : Char} {s : List Char} :
    (r.findAfter before (c :: s)).isSome ↔
      (r before (c :: s)).isSome ∨ (r.findAfter (some c) s).isSome := by
  rw [findAfter]
  cases r before (c :: s) <;> simp

theorem Spaced.findAfter_left (hr : r.Spaced) {s : List Char} (t : List Char) :
    ∀ {before}, (r.findAfter before s).isSome →
      (r.findAfter before (s ++ ' ' :: t)).isSome := by
  -- With more text behind it another match may come first, so it is only kept that there is one.
  induction s with
  | nil => exact fun h => absurd h (by simp [findAfter])
  | cons c s ih =>
    intro before h
    rw [List.cons_append]
    exact isSome_findAfter_cons.2 ((isSome_findAfter_cons.1 h).imp (hr.stays t) ih)

theorem Spaced.findAfter_right (hr : r.Spaced) (s : List Char) {t : List Char}
    (h : (r.find t).isSome) : ∀ before, (r.findAfter before (s ++ ' ' :: t)).isSome := by
  induction s with
  | nil =>
    intro before
    refine isSome_findAfter_cons.2 (.inr ?_)
    cases t with
    | nil => exact h
    | cons d t =>
      rw [find, isSome_findAfter_cons] at h
      rwa [isSome_findAfter_cons, hr.starts]
  | cons c s ih => exact fun before => isSome_findAfter_cons.2 (.inr (ih (some c)))

end Recognizer

/-- What one of two texts has, the two have with a space between them. -/
def Persists (P : List Char → Prop) : Prop := ∀ s t, P s ∨ P t → P (s ++ ' ' :: t)

theorem Persists.or {P Q : List Char → Prop} (hP : Persists P) (hQ : Persists Q) :
    Persists fun s => P s ∨ Q s := by
  rintro s t ((h | h) | (h | h))
  · exact .inl (hP s t (.inl h))
  · exact .inr (hQ s t (.inl h))
  · exact .inl (hP s t (.inr h))
  · exact .inr (hQ s t (.inr h))

theorem Persists.exists_mem {ι : Type} {l : List ι} {P : ι → List Char → Prop}
    (h : ∀ i ∈ l, Persists (P i)) : Persists fun s => ∃ i ∈ l, P i s := by
  rintro s t (⟨i, hi, hs⟩ | ⟨i, hi, ht⟩)
  · exact ⟨i, hi, h i hi s t (.inl hs)⟩
  · exact ⟨i, hi, h i hi s t (.inr ht)⟩

theorem Recognizer.Spaced.persists {α : Type} {r : Recognizer α} (hr : r.Spaced) :
    Persists fun s => (r.find s).isSome := by
  rintro s t (h | h)
  · exact hr.findAfter_left t h
  · exact hr.findAfter_right s h none

end Toolwire.Text
