import Mathlib
import Toolwire.Proofs.Substitution
import Toolwire.Secret.Finding
/-!
# Texts and their references

A text has a reference when one is spelled somewhere in it, and then it lists its name. Stripping
leaves no reference behind: what it puts in is a space, and no reference has one. So a name leaves
no trace in the text that is looked at for secrets: `Secret.detect_ignores_names`.
-/
namespace Toolwire

namespace Text.Recognizer

variable {α : Type} {r : Recognizer α}

/-- Something is recognised at a place of the text. -/
def Occurs (r : Recognizer α) (s : List Char) : Prop := ∃ u, u <:+ s ∧ r none u ≠ none

theorem occurs_cons {c : Char} {s : List Char} :
    r.Occurs (c :: s) ↔ r none (c :: s) ≠ none ∨ r.Occurs s := by
  unfold Occurs
  simp only [List.suffix_cons_iff, or_and_right, exists_or, exists_eq_left]

theorem isSome_find (hr : r.LooksAhead) (hnil : r none [] = none) (s : List Char) :
    (r.find s).isSome ↔ r.Occurs s := by
  have main : ∀ before, (r.findAfter before s).isSome ↔ r.Occurs s := by
    induction s with
    | nil =>
      intro before
      simp [findAfter, Occurs, hnil]
    | cons c s ih =>
      intro before
      rw [findAfter, hr before, occurs_cons]
      cases hm : r none (c :: s) with
      | some m => simp
      | none => simpa using ih (some c)
  exact main none

theorem findAll_ne_nil (hr : r.LooksAhead) (hnil : r none [] = none) (s : List Char) :
    r.findAll s ≠ [] ↔ r.Occurs s := by
  constructor
  · intro h
    obtain ⟨a, ha⟩ := List.exists_mem_of_ne_nil _ h
    obtain ⟨p, hp, hfound⟩ := List.mem_filterMap.1 ha
    cases p with
    | char c => cases hfound
    | found b =>
      obtain ⟨u, n, hu, hm⟩ := recognized_of_mem_cut hr hp
      exact ⟨u, hu, by simp [hm]⟩
  · intro h
    induction s with
    | nil => simp [Occurs, hnil] at h
    | cons c s ih =>
      cases hm : r none (c :: s) with
      | some m =>
        rw [findAll, cut_found hr hm]
        exact List.cons_ne_nil _ _
      | none =>
        rw [findAll, cut_char hr hm]
        exact ih ((occurs_cons.1 h).resolve_left (by simp [hm]))

/-! ## Replacing -/

theorem replaceAll_append (hr : r.LooksAhead) (hw : r.Within) {s t : List Char}
    (h : r.SettledBefore s t) (x : List Char) :
    r.replaceAll x (s ++ t) = r.replaceAll x s ++ r.replaceAll x t := by
  unfold replaceAll
  rw [cut_append hr hw h, List.flatMap_append]

theorem replaceAll_found (hr : r.LooksAhead) {c : Char} {s : List Char} {a : α} {n : Nat}
    (h : r none (c :: s) = some (a, n)) (x : List Char) :
    r.replaceAll x (c :: s) = x ++ r.replaceAll x (s.drop (n - 1)) := by
  unfold replaceAll
  rw [cut_found hr h, List.flatMap_cons]

theorem replaceAll_char (hr : r.LooksAhead) {c : Char} {s : List Char}
    (h : r none (c :: s) = none) (x : List Char) :
    r.replaceAll x (c :: s) = c :: r.replaceAll x s := by
  unfold replaceAll
  rw [cut_char hr h, List.flatMap_cons]
  rfl

theorem replaceAll_plain (hr : r.LooksAhead) {s : List Char} (h : ¬ r.Occurs s) (x : List Char) :
    r.replaceAll x s = s := by
  induction s with
  | nil => rfl
  | cons c s ih =>
    rw [occurs_cons, not_or, not_not] at h
    rw [replaceAll_char hr h.1, ih h.2]

end Text.Recognizer

namespace Reference

open Text

theorem occurs_iff (text : String) : recognizer.Occurs text.toList ↔ Mentions spell text := by
  constructor
  · rintro ⟨u, hu, hm⟩
    by_contra h
    rw [recognizer, reads_spell.eq_none h hu] at hm
    exact hm rfl
  · rintro ⟨before, name, behind, hn, rfl⟩
    refine ⟨(spell name).toList ++ behind.toList, ⟨before.toList, by simp⟩, ?_⟩
    simp [recognizer, reads_spell.read_spell hn]

/-- A text has a reference when one is spelled in it. -/
theorem containedIn_iff (text : String) : containedIn text = true ↔ Mentions spell text := by
  rw [containedIn, Recognizer.isSome_find looksAhead_recognizer rfl, occurs_iff]

/-- A text lists names when a reference is spelled in it. -/
theorem names_ne_nil (text : String) : names text ≠ [] ↔ Mentions spell text := by
  rw [names, Recognizer.findAll_ne_nil looksAhead_recognizer rfl, occurs_iff]

/-! ## Stripping -/

theorem stripChars_found {c : Char} {s : List Char} {name : String} {n : Nat}
    (h : recognizer none (c :: s) = some (name, n)) :
    stripChars (c :: s) = ' ' :: stripChars (s.drop (n - 1)) :=
  Recognizer.replaceAll_found looksAhead_recognizer h [' ']

theorem stripChars_char {c : Char} {s : List Char} (h : recognizer none (c :: s) = none) :
    stripChars (c :: s) = c :: stripChars s :=
  Recognizer.replaceAll_char looksAhead_recognizer h [' ']

theorem stripChars_spell {name : String} (hn : isName name = true) (t : List Char) :
    stripChars ((spell name).toList ++ t) = ' ' :: stripChars t := by
  have hm : recognizer none ((spell name).toList ++ t) = some (name, name.toList.length + 3) := by
    simp [recognizer, reads_spell.read_spell hn]
  rw [toList_spell, List.cons_append] at hm ⊢
  rw [stripChars_found hm]
  simp

/-- Text before a reference is stripped on its own. -/
theorem stripChars_append (s : List Char) (name : String) (t : List Char) :
    stripChars (s ++ ((spell name).toList ++ t)) =
      stripChars s ++ stripChars ((spell name).toList ++ t) :=
  Recognizer.replaceAll_append looksAhead_recognizer within_recognizer
    (settledBefore_spell s name t) [' ']

theorem strip_spell {name : String} (hn : isName name = true) (a b : String) :
    strip (a ++ spell name ++ b) = strip a ++ " " ++ strip b := by
  rw [← String.toList_inj]
  simp only [strip, String.toList_append, String.toList_ofList, List.append_assoc]
  rw [stripChars_append, stripChars_spell hn]
  rfl

/-- What is left without a space in it stood there from the start. -/
theorem prefix_of_stripChars {s t : List Char} (hspace : ' ' ∉ t) (h : t <+: stripChars s) :
    t <+: s := by
  induction t generalizing s with
  | nil => exact List.nil_prefix
  | cons c t ih =>
    rw [List.mem_cons, not_or] at hspace
    cases s with
    | nil => exact h
    | cons d s =>
      cases hm : recognizer none (d :: s) with
      | some m =>
        rw [stripChars_found hm] at h
        exact absurd (List.cons_prefix_cons.1 h).1 (Ne.symm hspace.1)
      | none =>
        rw [stripChars_char hm] at h
        obtain ⟨heq, htail⟩ := List.cons_prefix_cons.1 h
        exact List.cons_prefix_cons.2 ⟨heq, ih hspace.2 htail⟩

theorem name?_iff_prefix {s name : List Char} :
    name? s = some name ↔
      isNameChars name = true ∧ (spell (String.ofList name)).toList <+: s := by
  rw [reads_spell]
  simp only [List.IsPrefix, eq_comm]

theorem space_not_mem_spell {name : List Char} (hn : isNameChars name = true) :
    ' ' ∉ (spell (String.ofList name)).toList := by
  simp only [toList_spell, String.toList_ofList, List.mem_cons, List.mem_append, List.not_mem_nil,
    or_false, not_or]
  refine ⟨by decide, by decide, fun h => ?_, by decide⟩
  have := isNameChar_of_mem hn h
  simp [isNameChar] at this

theorem not_occurs_stripChars (s : List Char) : ¬ recognizer.Occurs (stripChars s) := by
  induction s using Recognizer.search_induction recognizer with
  | nil =>
    rintro ⟨u, hu, hm⟩
    rw [List.suffix_nil.1 hu] at hm
    exact hm rfl
  | found c rest name n hm ih =>
    rw [stripChars_found hm, Recognizer.occurs_cons, not_or]
    exact ⟨by simp [recognizer, name?], ih⟩
  | char c rest hm ih =>
    -- A reference left at the head would have stood there from the start.
    have here : name? (stripChars (c :: rest)) = none := by
      cases h : name? (stripChars (c :: rest)) with
      | none => rfl
      | some name =>
        obtain ⟨hn, hp⟩ := name?_iff_prefix.1 h
        have stood := name?_iff_prefix.2 ⟨hn, prefix_of_stripChars (space_not_mem_spell hn) hp⟩
        simp [recognizer, stood] at hm
    rw [stripChars_char hm] at here ⊢
    rw [Recognizer.occurs_cons, not_or]
    exact ⟨by simp [recognizer, here], ih⟩

theorem not_mentions_strip (text : String) : ¬ Mentions spell (strip text) := by
  rw [← occurs_iff, strip, String.toList_ofList]
  exact not_occurs_stripChars _

theorem strip_strip (text : String) : strip (strip text) = strip text := by
  simp only [strip, String.toList_ofList]
  exact congrArg _ (Recognizer.replaceAll_plain looksAhead_recognizer (not_occurs_stripChars _) _)

end Reference

namespace Secret

/-- What is found is found in the stripped text. -/
theorem detect_congr {s t : String} (h : Reference.strip s = Reference.strip t) :
    detect s = detect t := by
  have left : Reference.stripChars s.toList = Reference.stripChars t.toList :=
    String.ofList_injective h
  rw [detect, detect, detectChars, detectChars, left]

theorem detectField_congr {s t : String} (h : Reference.strip s = Reference.strip t)
    (key : String) : detectField key s = detectField key t := by
  have left : Reference.stripChars s.toList = Reference.stripChars t.toList :=
    String.ofList_injective h
  unfold detectField detectFieldChars detectChars literalRest
  rw [left]

/-- A reference is stripped to one space between what is left of the texts around it, so what is
found in a text, also as the value of a field, is the same whatever name the reference has. No text
has a reference left once it is stripped, and stripping it again changes nothing. -/
theorem detect_ignores_names {name other : String} (hn : Reference.isName name = true)
    (ho : Reference.isName other = true) (a b key : String) :
    Reference.strip (a ++ Reference.spell name ++ b) =
        Reference.strip a ++ " " ++ Reference.strip b
    ∧ detect (a ++ Reference.spell name ++ b) = detect (a ++ Reference.spell other ++ b)
    ∧ detectField key (a ++ Reference.spell name ++ b) =
        detectField key (a ++ Reference.spell other ++ b)
    ∧ ∀ text, ¬ Reference.Mentions Reference.spell (Reference.strip text)
        ∧ Reference.containedIn (Reference.strip text) = false
        ∧ Reference.strip (Reference.strip text) = Reference.strip text := by
  have same : Reference.strip (a ++ Reference.spell name ++ b) =
      Reference.strip (a ++ Reference.spell other ++ b) := by
    rw [Reference.strip_spell hn, Reference.strip_spell ho]
  refine ⟨Reference.strip_spell hn a b, detect_congr same, detectField_congr same key, ?_⟩
  intro text
  have clean := Reference.not_mentions_strip text
  refine ⟨clean, ?_, Reference.strip_strip text⟩
  rw [Bool.eq_false_iff, ne_eq, Reference.containedIn_iff]
  exact clean

/-- A token of a vendor as a name. -/
theorem detect_ignores_names_token :
    let token := "ghp_0123456789abcdefghij"
    Reference.isName token = true ∧ Reference.isName "A" = true
    ∧ (detect token).isSome
    ∧ Reference.strip ("$" ++ Reference.spell token ++ "\x7bA\x7d") = "$ \x7bA\x7d"
    ∧ detect ("Bearer " ++ Reference.spell token ++ "") = none
    ∧ detectField "Authorization" ("Bearer " ++ Reference.spell token ++ "") = none := by
  intro token
  have hn : Reference.isName token = true := by decide
  have ho : Reference.isName "A" = true := by decide
  obtain ⟨-, hdetect, hfield, -⟩ := detect_ignores_names hn ho "Bearer " "" "Authorization"
  refine ⟨hn, ho, by decide +kernel, ?_, ?_, ?_⟩
  · exact (detect_ignores_names hn ho "$" "\x7bA\x7d" "").1.trans (by decide +kernel)
  · exact hdetect.trans (by decide +kernel)
  · exact hfield.trans (by decide +kernel)

end Secret
end Toolwire
