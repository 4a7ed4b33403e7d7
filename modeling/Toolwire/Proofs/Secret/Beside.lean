import Mathlib
import Toolwire.Proofs.Secret.Reference
import Toolwire.Proofs.Text.Space
/-!
# Secrets beside a reference

A reference is stripped to a space, and every heuristic still applies to a text when a space and
another text come to stand before or behind it. So a secret is found whatever reference stands next
to it: `Secret.detect_beside`.
-/
namespace Toolwire.Secret

open Text

/-! ## Keys -/

/-- What a private key block opens with. -/
theorem isSome_privateKey {before : Option Char} {s : List Char} :
    (privateKey before s).isSome ↔
      ∃ rest, dropLiteral? "-----BEGIN ".toList s = some rest
        ∧ "PRIVATE KEY".toList.isSuffixOf (rest.takeWhile fun c => c.isUpper || c == ' ') = true
        ∧ (dropLiteral? "-----".toList
            (rest.drop (runLength (fun c => c.isUpper || c == ' ') rest))).isSome := by
  unfold privateKey runLength
  cases dropLiteral? "-----BEGIN ".toList s with
  | none => simp
  | some rest =>
    simp only [Option.some.injEq, exists_eq_left']
    split
    · rename_i hwords
      rw [and_iff_right hwords]
      split <;> simp only [*, Option.isSome_some, Option.isSome_none]
    · rename_i hwords
      simp only [hwords, false_and, Option.isSome_none, Bool.false_eq_true]

theorem spaced_privateKey : privateKey.Spaced where
  starts _ := rfl
  stays := by
    intro before s t h
    obtain ⟨rest, hopen, hwords, hclose⟩ := isSome_privateKey.1 h
    obtain ⟨behind, hbehind⟩ := Option.isSome_iff_exists.1 hclose
    -- The words end at the dashes, so they end within the text.
    have hrun : runLength (fun c => c.isUpper || c == ' ') rest < rest.length :=
      runLength_lt_length fun hnil => by
        rw [hnil] at hbehind
        cases hbehind
    refine isSome_privateKey.2 ⟨rest ++ ' ' :: t, dropLiteral?_append hopen _, ?_, ?_⟩
    · rwa [takeWhile_append_of_lt hrun]
    · rw [drop_run_append hrun, dropLiteral?_append hbehind]
      rfl

theorem bodyLength?_space {k : KeyShape} (hk : k.body ' ' = false) (s t : List Char) :
    k.bodyLength? (s ++ ' ' :: t) = k.bodyLength? s := by
  unfold KeyShape.bodyLength?
  rw [runLength_space hk]
  have hrun : runLength k.body s ≤ s.length := runLength_le_length s
  by_cases hshort : runLength k.body s < k.least
  · simp only [if_pos hshort]
  · simp only [if_neg hshort]
    have hn : (if k.exact then k.least else runLength k.body s) ≤ s.length := by
      split <;> omega
    rw [List.take_append_of_le_length hn, List.drop_append_of_le_length hn, isBoundary_head?]

theorem isSome_keyShape {k : KeyShape} {before : Option Char} {s : List Char} :
    (k.recognizer before s).isSome ↔
      isBoundary before s.head? = true
        ∧ ∃ head ∈ k.heads, ∃ rest, dropLiteral? head.toList s = some rest
          ∧ (k.bodyLength? rest).isSome := by
  unfold KeyShape.recognizer
  by_cases hb : isBoundary before s.head? = true
  · simp only [hb, if_true, List.findSome?_isSome_iff, true_and]
    refine exists_congr fun head => and_congr_right fun _ => ?_
    cases dropLiteral? head.toList s <;> simp
  · simp [hb]

theorem spaced_keyShape {k : KeyShape} (hk : k.body ' ' = false) : k.recognizer.Spaced where
  starts s := by
    unfold KeyShape.recognizer
    rw [isBoundary_space]
  stays := by
    intro before s t h
    obtain ⟨hb, head, hhead, rest, hrest, hbody⟩ := isSome_keyShape.1 h
    refine isSome_keyShape.2 ⟨?_, head, hhead, rest ++ ' ' :: t, dropLiteral?_append hrest _, ?_⟩
    · rwa [isBoundary_head?]
    · rwa [bodyLength?_space hk]

/-! ## Authorization schemes -/

theorem isSome_schemeToken {scheme : String} {token : Char → Bool} {before : Option Char}
    {s : List Char} :
    (schemeToken scheme token before s).isSome ↔
      isBoundary before s.head? = true
        ∧ ∃ rest, dropWord? scheme.toList s = some rest
          ∧ 0 < runLength isBlank rest
          ∧ 8 ≤ runLength token (rest.drop (runLength isBlank rest)) := by
  unfold schemeToken
  by_cases hb : isBoundary before s.head? = true
  · rw [if_pos hb]
    cases dropWord? scheme.toList s with
    | none => simp
    | some rest =>
      simp only [Option.some.injEq, exists_eq_left', hb, true_and]
      split
      · rename_i hshort
        simp only [Bool.or_eq_true, decide_eq_true_eq] at hshort
        exact iff_of_false nofun (by omega)
      · rename_i hlong
        simp only [Bool.or_eq_true, decide_eq_true_eq] at hlong
        exact iff_of_true rfl (by omega)
  · simp [hb]

theorem spaced_schemeToken {scheme : String} (hs : ' ' ∉ scheme.toList) (token : Char → Bool) :
    (schemeToken scheme token).Spaced where
  starts s := by
    unfold schemeToken
    rw [isBoundary_space]
  stays := by
    intro before s t h
    obtain ⟨hb, rest, hrest, hblank, htoken⟩ := isSome_schemeToken.1 h
    -- The token stands behind the blanks, so they end within the text.
    have hlong : runLength isBlank rest < rest.length := by
      have := runLength_add_le_length (p := isBlank) token rest
      omega
    refine isSome_schemeToken.2 ⟨?_, rest ++ ' ' :: t, ?_, ?_, ?_⟩
    · rwa [isBoundary_head?]
    · rw [dropWord?_space hs, hrest]
      rfl
    · rwa [runLength_append_of_lt hlong]
    · rw [drop_run_append hlong]
      exact htoken.trans (runLength_le_append _ _)

/-! ## Passwords in URLs -/

theorem userInfoLength?_append {s : List Char} {n : Nat} (h : userInfoLength? s = some n)
    (t : List Char) : userInfoLength? (s ++ t) = some n := by
  unfold userInfoLength? at h ⊢
  dsimp only at h ⊢
  split at h
  · rename_i rest huser
    have hshort := runLength_lt_length (huser ▸ List.cons_ne_nil ':' rest)
    rw [drop_run_append hshort, runLength_append_of_lt hshort, huser]
    split at h
    · rename_i behind hpassword
      have hshort := runLength_lt_length (hpassword ▸ List.cons_ne_nil '@' behind)
      simp only [List.cons_append]
      rw [drop_run_append hshort, runLength_append_of_lt hshort, hpassword]
      exact h
    · cases h
  · cases h

/-- The mark between the scheme of a URL and what follows it, with a password there. -/
def OpensPassword (s : List Char) : Prop :=
  ∃ authority, dropLiteral? "://".toList s = some authority ∧ (userInfoLength? authority).isSome

theorem OpensPassword.append {s : List Char} (h : OpensPassword s) (t : List Char) :
    OpensPassword (s ++ t) := by
  obtain ⟨authority, hmark, hinfo⟩ := h
  obtain ⟨n, hn⟩ := Option.isSome_iff_exists.1 hinfo
  exact ⟨authority ++ t, dropLiteral?_append hmark t, by rw [userInfoLength?_append hn]; rfl⟩

theorem findUrlPassword_scheme {c : Char} (hc : isSchemeChar c = true)
    (start : Option (List Char)) (s : List Char) :
    findUrlPassword start (c :: s) =
      findUrlPassword (if start.isNone && c.isAlpha then some (c :: s) else start) s := by
  rw [findUrlPassword.eq_def]
  exact if_pos hc

/-- Of the scheme before a mark it only counts that there is one. -/
theorem isSome_findUrlPassword_mark {c : Char} (hc : isSchemeChar c = false)
    {start : Option (List Char)} {s : List Char} :
    (findUrlPassword start (c :: s)).isSome ↔
      (start.isSome ∧ OpensPassword (c :: s)) ∨ (findUrlPassword none s).isSome := by
  rw [findUrlPassword.eq_def]
  simp only [hc, OpensPassword, Bool.false_eq_true, if_false]
  cases start with
  | none => simp
  | some scheme =>
    cases dropLiteral? "://".toList (c :: s) with
    | none => simp
    | some authority => cases hinfo : userInfoLength? authority <;> simp [hinfo]

theorem findUrlPassword_left {s : List Char} (t : List Char) :
    ∀ {start more}, start.isSome = more.isSome → (findUrlPassword start s).isSome →
      (findUrlPassword more (s ++ t)).isSome := by
  induction s with
  | nil => exact fun _ h => absurd h (by simp [findUrlPassword])
  | cons c s ih =>
    intro start more hsame h
    rw [List.cons_append]
    cases hc : isSchemeChar c with
    | true =>
      rw [findUrlPassword_scheme hc] at h ⊢
      have carried (start : Option (List Char)) (u : List Char) :
          (if start.isNone && c.isAlpha then some u else start).isSome =
            (start.isSome || c.isAlpha) := by
        cases start <;> cases c.isAlpha <;> rfl
      refine ih ?_ h
      rw [carried, carried, hsame]
    | false =>
      -- A mark opens no less with more text behind it.
      rw [isSome_findUrlPassword_mark hc] at h ⊢
      exact h.imp (fun ⟨hstart, hopens⟩ => ⟨hsame ▸ hstart, hopens.append t⟩) (ih rfl)

/-- A space is in no scheme. -/
theorem findUrlPassword_right (s : List Char) {t : List Char} (h : (findUrlPassword none t).isSome) :
    ∀ start, (findUrlPassword start (s ++ ' ' :: t)).isSome := by
  induction s with
  | nil => exact fun start => (isSome_findUrlPassword_mark (by decide)).2 (.inr h)
  | cons c s ih =>
    intro start
    rw [List.cons_append]
    cases hc : isSchemeChar c with
    | true =>
      rw [findUrlPassword_scheme hc]
      exact ih _
    | false => exact (isSome_findUrlPassword_mark hc).2 (.inr (ih none))

theorem persists_urlPassword : Persists fun s => (findUrlPassword none s).isSome := by
  rintro s t (h | h)
  · exact findUrlPassword_left _ rfl h
  · exact findUrlPassword_right s h none

/-! ## Assignments -/

/-- A value that something is assigned, perhaps with a quote before it. -/
def OpensValue (s : List Char) : Prop :=
  ∃ c more, (s = c :: more ∨ ∃ quote, (quote = '"' ∨ quote = '\'') ∧ s = quote :: c :: more)
    ∧ isAssignedStart c = true ∧ 3 ≤ runLength isAssignedChar more

theorem OpensValue.append {s : List Char} (h : OpensValue s) (t : List Char) :
    OpensValue (s ++ t) := by
  obtain ⟨c, more, hs, hc, hmore⟩ := h
  refine ⟨c, more ++ t, ?_, hc, hmore.trans (runLength_le_append more t)⟩
  rcases hs with rfl | ⟨quote, hquote, rfl⟩
  · exact .inl rfl
  · exact .inr ⟨quote, hquote, rfl⟩

theorem not_opensValue_nil : ¬ OpensValue [] := by
  rintro ⟨c, more, hs | ⟨quote, -, hs⟩, -⟩ <;> cases hs

theorem opensValue_cons {c : Char} {more : List Char} (hc : ¬ (c = '"' ∨ c = '\'')) :
    OpensValue (c :: more) ↔
      isAssignedStart c = true ∧ 3 ≤ runLength isAssignedChar more := by
  constructor
  · rintro ⟨d, tail, hs | ⟨quote, hquote, hs⟩, hd⟩
    · obtain ⟨rfl, rfl⟩ := List.cons.inj hs
      exact hd
    · obtain ⟨rfl, -⟩ := List.cons.inj hs
      exact absurd hquote hc
  · exact fun h => ⟨c, more, .inl rfl, h⟩

/-- No value starts with a quote. -/
theorem opensValue_quote {quote : Char} (hquote : quote = '"' ∨ quote = '\'') {s : List Char} :
    OpensValue (quote :: s) ↔
      ∃ c more, s = c :: more ∧ isAssignedStart c = true
        ∧ 3 ≤ runLength isAssignedChar more := by
  constructor
  · rintro ⟨c, more, hs | ⟨q, -, hs⟩, hc⟩
    · obtain ⟨rfl, rfl⟩ := List.cons.inj hs
      rcases hquote with rfl | rfl <;> exact absurd hc.1 (by decide)
    · exact ⟨c, more, (List.cons.inj hs).2, hc⟩
  · rintro ⟨c, more, rfl, hc⟩
    exact ⟨c, more, .inr ⟨quote, hquote, rfl⟩, hc⟩

theorem isSome_assignment {before : Option Char} {s : List Char} :
    (assignment before s).isSome ↔
      isBoundary before s.head? = true
        ∧ ∃ rest mark value, dropAnyWord? assignedNames s = some rest
          ∧ trimStart rest = mark :: value ∧ (mark = '=' ∨ mark = ':')
          ∧ OpensValue (trimStart value) := by
  unfold assignment
  by_cases hb : isBoundary before s.head? = true
  · simp only [hb, if_true, true_and]
    cases dropAnyWord? assignedNames s with
    | none => simp
    | some rest =>
      dsimp only
      cases hrest : trimStart rest with
      | nil => simp [hrest]
      | cons mark value =>
        simp only [Option.some.injEq, exists_and_left, exists_eq_left', hrest, List.cons.injEq,
          and_assoc]
        simp only [Bool.or_eq_true, beq_iff_eq]
        split
        · rename_i hmark
          rw [and_iff_right hmark]
          cases trimStart value with
          | nil => simp [not_opensValue_nil]
          | cons c more =>
            by_cases hc : c = '"' ∨ c = '\''
            · rw [opensValue_quote hc]
              cases more <;> simp [hc]
            · rw [opensValue_cons hc]
              simp [hc]
        · rename_i hmark
          simp [hmark]
  · simp [hb]

theorem spaced_assignment : assignment.Spaced where
  starts s := by
    unfold assignment
    rw [isBoundary_space]
  stays := by
    intro before s t h
    obtain ⟨hb, rest, mark, value, hname, hrest, hmark, hvalue⟩ := isSome_assignment.1 h
    have hlong : trimStart value ≠ [] := fun hnil => not_opensValue_nil (hnil ▸ hvalue)
    refine isSome_assignment.2 ⟨?_, rest ++ ' ' :: t, mark, value ++ ' ' :: t, ?_, ?_, hmark, ?_⟩
    · rwa [isBoundary_head?]
    · rw [dropAnyWord?_space (by decide), hname]
      rfl
    · rw [trimStart_append (by simp [hrest]), hrest]
      rfl
    · rw [trimStart_append hlong]
      exact hvalue.append _

/-! ## Encodings -/

theorem blob_space (before : Option Char) (s t : List Char) :
    blob before (s ++ ' ' :: t) = blob before s := by
  unfold blob
  dsimp only
  have hlength := runLength_add_le_length (p := fun c => isKeyChar c || c == '+') (· == '=') s
  rw [runLength_space (by decide), List.drop_append_of_le_length (by omega),
    runLength_space (by decide), List.take_append_of_le_length (by omega)]

theorem within_blob : blob.Within := by
  intro s a n h
  have hlength := runLength_add_le_length (p := fun c => isKeyChar c || c == '+') (· == '=') s
  unfold blob at h
  dsimp only at h
  split at h
  · cases h
  · cases h
    omega

theorem findAll_blob (s t : List Char) :
    blob.findAll (s ++ ' ' :: t) = blob.findAll s ++ blob.findAll t := by
  have ahead : blob.LooksAhead := fun _ _ => rfl
  have space : blob none (' ' :: t) = none := blob_space none [] t
  unfold Recognizer.findAll
  rw [Recognizer.cut_append ahead within_blob fun u _ _ => blob_space none u t,
    Recognizer.cut_char ahead space, List.filterMap_append, List.filterMap_cons]
  rfl

theorem persists_blob : Persists fun s => ∃ m ∈ blob.findAll s, looksEncoded m = true := by
  intro s t h
  simp only [findAll_blob, List.mem_append, or_and_right, exists_or]
  exact h

/-! ## All heuristics -/

theorem isSome_detectLiteral {s : List Char} :
    (detectLiteral s).isSome ↔
      (privateKey.find s).isSome
        ∨ (∃ k ∈ knownKeys, (k.recognizer.find s).isSome)
        ∨ (bearer.find s).isSome
        ∨ (basic.find s).isSome
        ∨ (findUrlPassword none s).isSome
        ∨ (assignment.find s).isSome
        ∨ ∃ m ∈ blob.findAll s, looksEncoded m = true := by
  unfold detectLiteral candidate
  simp only [Option.orElse_eq_orElse, Option.orElse_eq_or, Option.isSome_or, Option.isSome_map,
    List.findSome?_isSome_iff, List.find?_isSome, Bool.or_eq_true]

theorem persists_detectLiteral : Persists fun s => (detectLiteral s).isSome := by
  simp only [isSome_detectLiteral]
  have body : ∀ k ∈ knownKeys, k.body ' ' = false := by decide
  have keys := Persists.exists_mem fun k hk => (spaced_keyShape (body k hk)).persists
  exact spaced_privateKey.persists.or <| keys.or <|
    (spaced_schemeToken (by decide) _).persists.or <|
    (spaced_schemeToken (by decide) _).persists.or <|
    persists_urlPassword.or <| spaced_assignment.persists.or persists_blob

/-- A reference hides no secret beside it. What is found in either of two texts, as they are, makes
for a finding in the two with a reference between them. -/
theorem detect_beside {name : String} (hn : Reference.isName name = true) {a b : String}
    (h : (detect a).isSome ∨ (detect b).isSome) :
    (detect (a ++ Reference.spell name ++ b)).isSome := by
  simp only [detect, detectChars, Option.isSome_map, String.toList_append, List.append_assoc] at h ⊢
  rw [Reference.stripChars_append, Reference.stripChars_spell hn]
  exact persists_detectLiteral _ _ h

/-- The host of a URL as a reference, behind the password. -/
theorem detect_beside_password :
    Reference.isName "HOST" = true ∧ detect "/orders" = none
    ∧ (detect "postgres://app:s3cret@").isSome
    ∧ (detect ("postgres://app:s3cret@" ++ Reference.spell "HOST" ++ "/orders")).isSome := by
  have hn : Reference.isName "HOST" = true := by decide
  have found : (detect "postgres://app:s3cret@").isSome := by decide +kernel
  exact ⟨hn, by decide +kernel, found, detect_beside hn (.inl found)⟩

end Toolwire.Secret
