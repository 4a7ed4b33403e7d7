import Mathlib
import Toolwire.Proofs.Secret.Beside
import Toolwire.Proofs.Secret.Scrub
/-!
# What a finding shows

A finding shows the first four characters of the text that gave the secret away. Every heuristic
takes more characters than that to apply, so some of them stay masked: `detect_previews`. The value
of a credential field is flagged whatever its length: `detectField_previews`.
-/
namespace Toolwire

namespace Text

variable {α : Type} {r : Recognizer α} {n : Nat}

theorem length_dropWord? {word s rest : List Char} (h : dropWord? word s = some rest) :
    s.length = word.length + rest.length := by
  fun_induction dropWord? word s with
  | case1 s =>
    cases h
    simp
  | case2 => cases h
  | case3 word c s ih =>
    have := ih h
    simp only [List.length_cons]
    omega
  | case4 => cases h

theorem length_dropAnyWord?_le {words : List String} {s rest : List Char}
    (h : dropAnyWord? words s = some rest) : rest.length ≤ s.length := by
  obtain ⟨w, -, hw⟩ := List.exists_of_findSome?_eq_some h
  have := length_dropWord? hw
  omega

theorem length_dropLiteral? {literal s rest : List Char} (h : dropLiteral? literal s = some rest) :
    s.length = literal.length + rest.length := by
  rw [dropLiteral?_eq_some.1 h, List.length_append]

namespace Recognizer

/-- Whatever is recognised has more than `n` characters. -/
def Exceeds (r : Recognizer α) (n : Nat) : Prop :=
  ∀ {before s a k}, r before s = some (a, k) → n < k ∧ n < s.length

theorem findAfter_eq_some {before : Option Char} {s t : List Char} {a : α}
    (h : r.findAfter before s = some (a, t)) :
    ∃ b u k, u <:+ s ∧ r b u = some (a, k) ∧ t = u.take k := by
  induction s generalizing before with
  | nil => cases h
  | cons c s ih =>
    rw [findAfter] at h
    split at h
    · rename_i b k hm
      cases h
      exact ⟨before, c :: s, k, List.suffix_rfl, hm, rfl⟩
    · obtain ⟨b, u, k, hu, hm, ht⟩ := ih h
      exact ⟨b, u, k, hu.trans (List.suffix_cons c s), hm, ht⟩

theorem Exceeds.find (hr : r.Exceeds n) {s t : List Char} {a : α} (h : r.find s = some (a, t)) :
    n < t.length ∧ t <:+: s := by
  obtain ⟨b, u, k, hu, hm, rfl⟩ := findAfter_eq_some h
  have := hr hm
  refine ⟨?_, (List.take_prefix k u).isInfix.trans hu.isInfix⟩
  rw [List.length_take]
  omega

end Recognizer
end Text

namespace Secret

open Text

/-! ## What the heuristics take -/

theorem exceeds_privateKey : privateKey.Exceeds previewLength := by
  intro before s a k h
  unfold privateKey at h
  split at h
  · cases h
  · rename_i rest hopen
    have := length_dropLiteral? hopen
    have opening : "-----BEGIN ".toList.length = 11 := by decide
    simp only [Option.ite_none_right_eq_some] at h
    obtain ⟨-, h⟩ := h
    split at h
    · cases h
      simp only [previewLength]
      omega
    · cases h

theorem exceeds_keyShape {k : KeyShape} (hk : previewLength < k.least) :
    k.recognizer.Exceeds previewLength := by
  intro before s a n h
  simp only [KeyShape.recognizer, Option.ite_none_right_eq_some] at h
  obtain ⟨-, h⟩ := h
  obtain ⟨head, -, h⟩ := List.exists_of_findSome?_eq_some h
  split at h
  · cases h
  · rename_i rest hhead
    have := length_dropLiteral? hhead
    have hrun : runLength k.body rest ≤ rest.length := runLength_le_length rest
    obtain ⟨m, hm, h⟩ := Option.map_eq_some_iff.1 h
    cases h
    simp only [KeyShape.bodyLength?, Option.ite_none_left_eq_some, Option.some.injEq] at hm
    obtain ⟨hlong, -, rfl⟩ := hm
    split <;> omega

theorem exceeds_schemeToken (scheme : String) (token : Char → Bool) :
    (schemeToken scheme token).Exceeds previewLength := by
  intro before s a k h
  simp only [schemeToken, Option.ite_none_right_eq_some] at h
  obtain ⟨-, h⟩ := h
  split at h
  · cases h
  · rename_i rest hscheme
    have := length_dropWord? hscheme
    have := runLength_add_le_length (p := isBlank) token rest
    split at h
    · cases h
    · rename_i hlong
      cases h
      simp only [Bool.or_eq_true, decide_eq_true_eq, not_or] at hlong
      simp only [previewLength]
      omega

/-- A quote before an assigned value is dropped. -/
theorem length_unquoted_le {s value : List Char}
    (h : value = match s with
      | c :: more => if (c == '"' || c == '\'') = true then more else s
      | [] => s) : value.length ≤ s.length := by
  subst h
  split
  · split
    · simp
    · exact le_rfl
  · exact le_rfl

theorem exceeds_assignment : assignment.Exceeds previewLength := by
  intro before s a k h
  simp only [assignment, Option.ite_none_right_eq_some] at h
  obtain ⟨-, h⟩ := h
  split at h
  · cases h
  · rename_i rest hname
    have := length_dropAnyWord?_le hname
    have := length_trimStart_le rest
    split at h
    · cases h
    · rename_i mark behind hmark
      have hbehind : (trimStart rest).length = behind.length + 1 := by rw [hmark]; rfl
      have := length_trimStart_le behind
      rw [Option.ite_none_right_eq_some] at h
      obtain ⟨-, h⟩ := h
      split at h
      · cases h
      · rename_i c more hvalue
        have := length_unquoted_le hvalue.symm
        have hrun : runLength isAssignedChar more ≤ more.length := runLength_le_length more
        simp only [Option.ite_none_right_eq_some, Bool.and_eq_true, decide_eq_true_eq] at h
        obtain ⟨⟨-, hlong⟩, h⟩ := h
        cases h
        simp only [previewLength, List.length_cons] at *
        omega

/-- The text is a piece of another one, longer than what a finding shows. -/
def Caught (s t : List Char) : Prop := previewLength < t.length ∧ t <:+: s

theorem caught_candidate {kind k : Kind} {r : Recognizer Unit} (hr : r.Exceeds previewLength)
    {s t : List Char} (h : candidate kind r s = some (k, t)) : Caught s t := by
  obtain ⟨⟨a, u⟩, hm, h⟩ := Option.map_eq_some_iff.1 h
  cases h
  exact hr.find hm

theorem userInfoLength?_bounds {s : List Char} {n : Nat} (h : userInfoLength? s = some n) :
    4 ≤ n ∧ n ≤ s.length := by
  unfold userInfoLength? at h
  dsimp only at h
  split at h
  · rename_i rest huser
    have huser := congrArg List.length huser
    split at h
    · rename_i behind hpassword
      have hpassword := congrArg List.length hpassword
      simp only [Option.ite_none_left_eq_some, Option.some.injEq, Bool.or_eq_true,
        decide_eq_true_eq] at h
      simp only [List.length_drop, List.length_cons] at huser hpassword
      omega
    · cases h
  · cases h

/-- The scheme, its mark and the user information behind it. -/
theorem caught_userInfo {whole start s authority : List Char} (hstart : start <:+ whole)
    (hs : s <:+ start) (hmark : dropLiteral? "://".toList s = some authority) {n : Nat}
    (hn : userInfoLength? authority = some n) :
    Caught whole (start.take (start.length - authority.length + n)) := by
  have hbounds := userInfoLength?_bounds hn
  have hlength := length_dropLiteral? hmark
  have hle := hs.length_le
  have three : "://".toList.length = 3 := by decide
  refine ⟨?_, (List.take_prefix _ start).isInfix.trans hstart.isInfix⟩
  rw [List.length_take, previewLength]
  omega

theorem caught_urlPassword {whole s t : List Char} {start : Option (List Char)}
    (hs : s <:+ whole) (hstart : ∀ u, start = some u → u <:+ whole ∧ s <:+ u)
    (h : findUrlPassword start s = some t) : Caught whole t := by
  induction s generalizing start with
  | nil => cases h
  | cons c rest ih =>
    have hrest : rest <:+ whole := (List.suffix_cons c rest).trans hs
    cases hc : isSchemeChar c with
    | true =>
      rw [findUrlPassword_scheme hc] at h
      refine ih hrest ?_ h
      intro u hu
      split at hu
      · cases hu
        exact ⟨hs, List.suffix_cons c rest⟩
      · obtain ⟨hwhole, hsuffix⟩ := hstart u hu
        exact ⟨hwhole, (List.suffix_cons c rest).trans hsuffix⟩
    | false =>
      rw [findUrlPassword.eq_def] at h
      simp only [hc, Bool.false_eq_true, if_false] at h
      split at h
      · rename_i text hfound
        cases h
        split at hfound
        · rename_i u authority hmark
          obtain ⟨n, hn, rfl⟩ := Option.map_eq_some_iff.1 hfound
          obtain ⟨hwhole, hsuffix⟩ := hstart u rfl
          exact caught_userInfo hwhole hsuffix hmark hn
        · cases hfound
      · exact ih hrest (by simp) h

theorem caught_blob {s t : List Char} (h : t ∈ blob.findAll s) : Caught s t := by
  obtain ⟨piece, hpiece, ht⟩ := List.mem_filterMap.1 h
  cases piece with
  | char c => cases ht
  | found value =>
    cases ht
    obtain ⟨u, n, hu, hm⟩ := Recognizer.recognized_of_mem_cut (fun _ _ => rfl) hpiece
    unfold blob at hm
    dsimp only at hm
    split at hm
    · cases hm
    · rename_i hlong
      cases hm
      have hrun : runLength (fun c => isKeyChar c || c == '+') u ≤ u.length := runLength_le_length u
      refine ⟨?_, (List.take_prefix _ u).isInfix.trans hu.isInfix⟩
      rw [List.length_take, previewLength]
      omega

/-- Whatever heuristic applies, it catches more than a finding shows. -/
theorem caught_of_detectLiteral {s t : List Char} {kind : Kind}
    (h : detectLiteral s = some (kind, t)) : Caught s t := by
  simp only [detectLiteral, Option.orElse_eq_orElse, Option.orElse_eq_or, Option.or_eq_some_iff] at h
  rcases h with h | ⟨-, h | ⟨-, h | ⟨-, h | ⟨-, h | ⟨-, h | ⟨-, h⟩⟩⟩⟩⟩⟩
  · exact caught_candidate exceeds_privateKey h
  · obtain ⟨k, hk, h⟩ := List.exists_of_findSome?_eq_some h
    have least : ∀ k ∈ knownKeys, previewLength < k.least := by decide
    exact caught_candidate (exceeds_keyShape (least k hk)) h
  · exact caught_candidate (exceeds_schemeToken _ _) h
  · exact caught_candidate (exceeds_schemeToken _ _) h
  · obtain ⟨u, hu, h⟩ := Option.map_eq_some_iff.1 h
    cases h
    exact caught_urlPassword List.suffix_rfl (by simp) hu
  · exact caught_candidate exceeds_assignment h
  · obtain ⟨u, hu, h⟩ := Option.map_eq_some_iff.1 h
    cases h
    exact caught_blob (List.mem_of_find?_eq_some hu)

/-! ## Previews -/

/-- A finding shows the beginning of a text, in its preview and in words. -/
structure Previews (f : Finding) (literal shown : List Char) : Prop where
  beginning : shown <+: literal
  preview : f.preview = String.ofList shown ++ "****"
  message : f.describe =
    f.kind.describe ++ " (" ++ (String.ofList shown ++ "****") ++
      "); use a $\x7bVAR\x7d reference instead"

theorem previews_mask (kind : Kind) (literal : List Char) :
    Previews (Finding.mask kind literal) literal (literal.take previewLength) := by
  have preview : (Finding.mask kind literal).preview =
      String.ofList (literal.take previewLength) ++ "****" := by
    rw [Finding.mask, String.ofList_append]
  exact ⟨List.take_prefix _ _, preview, by rw [Finding.describe, preview]⟩

/-- All of a text is shown when it is short. -/
theorem take_previewLength_ne {literal : List Char} :
    literal.take previewLength ≠ literal ↔ previewLength < literal.length := by
  rw [ne_eq, List.take_eq_self_iff, Nat.not_le]

/-- The text that a finding in a field is about: a piece of what is left of the value without its
references, or all that is literal in the value of a credential. -/
inductive About (key value : String) (kind : Kind) (literal : List Char) : Prop
  | piece (caught : detectChars value.toList = some (kind, literal))
      (within : literal <:+: Reference.stripChars value.toList)
      (long : previewLength < literal.length)
  | rest (quiet : detect value = none) (sensitive : isSensitiveKey key = true)
      (named : kind = .sensitiveField key) (all : literal = literalRest value.toList)
      (nonempty : literal ≠ [])

/-- A secret that is found in a text is longer than what is shown of it. -/
theorem detect_previews {text : String} {f : Finding} (h : detect text = some f) :
    ∃ literal shown, detectChars text.toList = some (f.kind, literal)
      ∧ literal <:+: Reference.stripChars text.toList
      ∧ previewLength < literal.length ∧ Previews f literal shown ∧ shown ≠ literal := by
  obtain ⟨⟨kind, literal⟩, hm, rfl⟩ := Option.map_eq_some_iff.1 h
  obtain ⟨hlong, hwithin⟩ := caught_of_detectLiteral hm
  exact ⟨literal, _, hm, hwithin, hlong, previews_mask kind literal, take_previewLength_ne.2 hlong⟩

/-- The value of a credential field is shown in full when what is literal in it is short. -/
theorem detectField_previews {key value : String} {f : Finding}
    (h : detectField key value = some f) :
    ∃ literal shown, About key value f.kind literal ∧ Previews f literal shown
      ∧ (shown ≠ literal ↔ previewLength < literal.length) := by
  obtain ⟨⟨kind, literal⟩, hm, rfl⟩ := Option.map_eq_some_iff.1 h
  refine ⟨literal, _, ?_, previews_mask kind literal, take_previewLength_ne⟩
  unfold detectFieldChars at hm
  cases hd : detectChars value.toList with
  | some m =>
    rw [hd, Option.some.injEq] at hm
    subst hm
    obtain ⟨hlong, hwithin⟩ := caught_of_detectLiteral hd
    exact .piece hd hwithin hlong
  | none =>
    rw [hd] at hm
    simp only [Option.ite_none_right_eq_some, Option.ite_none_left_eq_some, Option.some.injEq,
      Prod.mk.injEq, List.isEmpty_iff] at hm
    obtain ⟨hsensitive, hne, hkind, hrest⟩ := hm
    rw [hrest] at hne
    exact .rest (Option.map_eq_none_iff.2 hd) hsensitive hkind.symm hrest.symm hne

end Secret
end Toolwire
