import Mathlib
import Toolwire.Json5.Typed
import Toolwire.Proofs.Json.Reading
import Toolwire.Proofs.Json.Spelling
import Toolwire.Proofs.Json5.Written
import Toolwire.Proofs.Number.Whole
/-!
# What typed readers read

A natural number that is read from any literal is read again from its digits
(`natural_toDigits`), and a record is as its fields and its defaults make it
(`record_invariant`).
-/
namespace Toolwire.Json5

open Number Number.Binary64

/-! ## Numbers -/

theorem narrow_decimalValue? {negative : Bool} {body : List Char} {x : Binary64}
    (h : decimalValue? negative body = some x) : Narrow x := by
  unfold decimalValue? at h
  dsimp only at h
  split at h
  all_goals
    split at h
    · cases h
    · obtain ⟨exponent, -, rfl⟩ := Option.map_eq_some_iff.1 h
      exact narrow_ofDecimal _ _ _

theorem narrow_numberValue {literal : List Char} {x : Binary64}
    (h : numberValue literal = .ok x) : Narrow x := by
  unfold numberValue at h
  split at h
  · obtain ⟨n, -, rfl⟩ := map_eq_ok.1 h
    exact narrow_ofRatio false n one_pos
  · dsimp only at h
    split at h
    · obtain rfl := Except.ok.inj h
      split <;> nofun
    split at h
    · cases h
    split at h
    · cases h
    · rename_i y hy
      split at h
      · obtain rfl := Except.ok.inj h
        exact narrow_decimalValue? hy
      · cases h

section
variable (n : Nat)

theorem hexDigits?_toDigits : hexDigits? (Nat.toDigits 10 n) = none := by
  unfold hexDigits?
  split
  · rename_i hdigits
    obtain rfl := eq_zero_of_toDigits hdigits
    cases hdigits
  · rfl

theorem splitSign_toDigits : splitSign (Nat.toDigits 10 n) = (false, Nat.toDigits 10 n) := by
  unfold splitSign
  split
  · rename_i hdigits
    have hsign : '-' ∈ Nat.toDigits 10 n := hdigits ▸ List.mem_cons_self
    exact absurd hsign (Json.Path.not_mem_toDigits (by decide) n)
  · rename_i hdigits
    have hsign : '+' ∈ Nat.toDigits 10 n := hdigits ▸ List.mem_cons_self
    exact absurd hsign (Json.Path.not_mem_toDigits (by decide) n)
  · rfl

/-- Digits spell no word. -/
theorem toDigits_ne_word (word : String) {c : Char} (hc : c ∈ word.toList)
    (hd : c.isDigit = false) : Nat.toDigits 10 n ≠ word.toList := by
  intro h
  exact Json.Path.not_mem_toDigits hd n (h ▸ hc)

theorem isSpecial_toDigits : isSpecial (Nat.toDigits 10 n) = false := by
  have hne : ∀ word ∈ ["Infinity", "-Infinity", "NaN", "-NaN"],
      word ≠ String.ofList (Nat.toDigits 10 n) := by
    intro word hword h
    have hn : 'n' ∈ word.toList ∨ 'N' ∈ word.toList := by fin_cases hword <;> decide
    rw [← String.toList_inj, String.toList_ofList] at h
    rcases hn with hn | hn
    · exact toDigits_ne_word n word hn (by decide) h.symm
    · exact toDigits_ne_word n word hn (by decide) h.symm
  rw [isSpecial, List.contains_eq_mem, decide_eq_false_iff_not]
  exact fun hmem => hne _ hmem rfl

theorem decimalValue?_toDigits :
    decimalValue? false (Nat.toDigits 10 n) = some (.ofDecimal false n 0) := by
  have hdigits : digits (Nat.toDigits 10 n) = (Nat.toDigits 10 n, []) := by
    have hends : Ends [] := nofun
    have h := digits_append (fun _ => Json.Path.isDigit_toDigits (n := n)) hends
    rwa [List.append_nil] at h
  simp [decimalValue?, hdigits, exponentValue?]

/-- What digits are read as. -/
theorem numberValue_toDigits :
    numberValue (Nat.toDigits 10 n) =
      if (ofDecimal false n 0).isFinite then .ok (ofDecimal false n 0) else .error .tooLarge := by
  have hinfinity := toDigits_ne_word n "Infinity" (c := 'I') (by decide) (by decide)
  have hnan := toDigits_ne_word n "NaN" (c := 'N') (by decide) (by decide)
  simp only [numberValue, hexDigits?_toDigits, splitSign_toDigits, isSpecial_toDigits, hinfinity,
    hnan, decimalValue?_toDigits, decide_false, Bool.or_self, Bool.false_eq_true, if_false]

end

namespace Reader

/-- A natural number that stands for the integer part of a binary64 number. -/
def Loaded (n : Nat) : Prop := ∃ x : Binary64, Narrow x ∧ n = x.toNatSaturating maxWord

theorem loaded_of_natural {node : Node} {n : Nat} (h : natural node = .ok n) : Loaded n := by
  unfold natural at h
  split at h
  · split at h
    · rename_i x hx
      exact ⟨x, narrow_numberValue hx, (Except.ok.inj h).symm⟩
    · cases h
  · cases h

theorem loaded_of_lt {n : Nat} (h : n < 2 ^ 53) : Loaded n := by
  refine ⟨.finite false n 0, fun _ m _ heq => ?_, ?_⟩
  · cases heq
    exact h
  · have hmagnitude : magnitude n 0 = n := Nat.mul_one n
    have hle : n ≤ maxWord := h.le.trans (by decide)
    show n = min maxWord (magnitude n 0)
    rw [hmagnitude, Nat.min_eq_right hle]

theorem natural_toDigits {n : Nat} (h : Loaded n) :
    natural (.number (Nat.toDigits 10 n)) = .ok n := by
  obtain ⟨x, hx, rfl⟩ := h
  obtain ⟨hfinite, hagain⟩ := toNatSaturating_ofDecimal hx
  simp only [natural, numberValue_toDigits, hfinite, if_true]
  exact congrArg Except.ok hagain

/-! ## Records -/

section
variable {σ : Type} {P : σ → Prop} {fields : List (Field σ)}

/-- Setting a field keeps what a record has. -/
def Field.Keeps (f : Field σ) (P : σ → Prop) : Prop :=
  ∀ node s t, P s → f.set node s = .ok t → P t

theorem keeps_field {α : Type} {name : String} {r : Reader α} {put : α → σ → σ}
    (h : ∀ node a s, r node = .ok a → P s → P (put a s)) : (field name r put).Keeps P := by
  intro node s t hs hset
  obtain ⟨a, ha, rfl⟩ := map_eq_ok.1 hset
  exact h node a s ha hs

theorem readPairs_invariant (h : ∀ f ∈ fields, f.Keeps P)
    {pairs : List (Except String String × Node)} {seen : List String} {s t : σ} (hs : P s)
    (hread : readPairs fields seen s pairs = .ok t) : P t := by
  induction pairs generalizing seen s with
  | nil =>
    rw [readPairs] at hread
    split at hread
    · cases hread
    · exact Except.ok.inj hread ▸ hs
  | cons p pairs ih =>
    obtain ⟨key, x⟩ := p
    rw [readPairs] at hread
    split at hread
    · cases hread
    split at hread
    · rename_i f hf
      split at hread
      · cases hread
      split at hread
      · cases hread
      · rename_i u hu
        exact ih (h f (List.mem_of_find?_eq_some hf) x s u hs hu) hread
    · split at hread
      · cases hread
      · exact ih hs hread

theorem readFields_invariant (h : ∀ f ∈ fields, f.Keeps P)
    {expected : String} {index : Nat} {items : List Node} {s t : σ} (hs : P s)
    (hread : readFields expected index s fields items = .ok t) : P t := by
  induction fields generalizing index items s with
  | nil => exact Except.ok.inj hread ▸ hs
  | cons f fields ih =>
    have hrest := fun g hg => h g (List.mem_cons_of_mem f hg)
    cases items with
    | nil =>
      rw [readFields] at hread
      split at hread
      · cases hread
      · exact ih hrest hs hread
    | cons x items =>
      rw [readFields] at hread
      split at hread
      · cases hread
      · rename_i u hu
        exact ih hrest (h f List.mem_cons_self x s u hs hu) hread

/-- What the defaults have and every field keeps is had by the record. -/
theorem record_invariant (h : ∀ f ∈ fields, f.Keeps P) {typeName : String} {defaults s : σ}
    (hd : P defaults) {node : Node} (hread : record typeName fields defaults node = .ok s) :
    P s := by
  unfold record at hread
  split at hread
  · exact readPairs_invariant h hd hread
  · exact readFields_invariant h hd hread
  · unfold unexpected at hread
    split at hread <;> cases hread

/-- A pair for a field that is not set yet sets it. -/
theorem readPairs_field {α : Type} {seen : List String} {name : String} {r : Reader α}
    {put : α → σ → σ} (hf : (fields.find? fun f => f.name == name) = some (field name r put))
    (hseen : seen.contains name = false) {x : Node} {a : α} (hx : r x = .ok a) (s : σ)
    (rest : List (Except String String × Node)) :
    readPairs fields seen s ((.ok name, x) :: rest) =
      readPairs fields (name :: seen) (put a s) rest := by
  have hset : (field name r put).set x s = .ok (put a s) := by
    simp [field, hx, Except.map]
  simp only [readPairs, textValue, hf, hseen, hset, Bool.false_eq_true, if_false]

end

end Reader
end Toolwire.Json5
