import Mathlib
import Toolwire.Proofs.Secret.Scrub
/-!
# What scrubbed texts tell

A separator that is in no pattern parts a text: what stands on either side of it is scrubbed on its
own. So a value without separators leaves nothing behind, `scrub_bare`, and a value between quotes
is scrubbed like a text of its own, whatever announces it, `scrub_quoted`.
-/
namespace Toolwire.Secret

variable {p k s t z : List Char} {c : Char} {patterns : List String}

instance (s : List Char) : Decidable (Bare s) :=
  decidable_of_iff (s.all (fun c => !isSeparator c) = true) (by simp [Bare])

theorem Bare.append (hs : Bare s) (ht : Bare t) : Bare (s ++ t) := by
  intro c hc
  rcases List.mem_append.1 hc with hc | hc
  · exact hs c hc
  · exact ht c hc

theorem Bare.not_mem (hs : Bare s) (hc : isSeparator c = true) : c ∉ s := by
  intro hm
  rw [hs c hm] at hc
  cases hc

/-! ## Parts of a text -/

theorem scrubAll_nil (h : ∀ q ∈ patterns, q.toList ≠ []) : scrubAll patterns [] = [] := by
  induction patterns with
  | nil => rfl
  | cons q patterns ih =>
    obtain ⟨hq, hrest⟩ := List.forall_mem_cons.1 h
    rw [scrubAll_cons hq, scrubChars_nil, ih hrest]

theorem scrubAll_split (h : ∀ q ∈ patterns, q.toList ≠ []) (hc : isSeparator c = true)
    (hmem : ∀ q ∈ patterns, c ∉ q.toList) (s t : List Char) :
    scrubAll patterns (s ++ c :: t) = scrubAll patterns s ++ c :: scrubAll patterns t := by
  induction patterns generalizing s t with
  | nil => rfl
  | cons q patterns ih =>
    obtain ⟨hq, hrest⟩ := List.forall_mem_cons.1 h
    obtain ⟨hcq, hcrest⟩ := List.forall_mem_cons.1 hmem
    rw [scrubAll_cons hq, scrubAll_cons hq, scrubAll_cons hq, scrubChars_split hq hc hcq,
      ih hrest hcrest]

theorem scrubAll_parted (h : ∀ q ∈ patterns, q.toList ≠ []) (hb : ∀ q ∈ patterns, Bare q.toList)
    (s : List Char) (ht : Parted t) :
    scrubAll patterns (s ++ t) = scrubAll patterns s ++ scrubAll patterns t := by
  cases t with
  | nil => rw [List.append_nil, scrubAll_nil h, List.append_nil]
  | cons c t =>
    have hc : isSeparator c = true := ht c rfl
    have hmem : ∀ q ∈ patterns, c ∉ q.toList := fun q hq => (hb q hq).not_mem hc
    have head := scrubAll_split h hc hmem [] t
    rw [List.nil_append, scrubAll_nil h, List.nil_append] at head
    rw [scrubAll_split h hc hmem, head]

/-- The last word of a text begins behind its last separator. -/
theorem exists_lastWord (s : List Char) :
    Bare s ∨ ∃ l c u, s = l ++ c :: u ∧ isSeparator c = true ∧ Bare u := by
  induction s with
  | nil => exact .inl (by simp [Bare])
  | cons d s ih =>
    rcases ih with hs | ⟨l, c, u, rfl, hc, hu⟩
    · by_cases hd : isSeparator d = true
      · exact .inr ⟨[], d, s, rfl, hd, hs⟩
      · left
        intro c hc
        rcases List.mem_cons.1 hc with rfl | hc
        · simpa using hd
        · exact hs c hc
    · exact .inr ⟨d :: l, c, u, rfl, hc, hu⟩

/-! ## One word -/

theorem Bare.scrubChars (hp : p ≠ []) (hs : Bare s) : Bare (scrubChars p s) := by
  induction s using scrub_induction hp with
  | nil => exact hs
  | pattern s ih =>
    have hpattern : Bare p := fun c hc => hs c (List.mem_append_left s hc)
    have hrest : Bare (afterValue s) := fun c hc =>
      hs c (List.mem_append_right p ((afterValue_suffix s).subset hc))
    rw [scrubChars_pattern hp]
    exact hpattern.append (.append bare_mark (ih hrest))
  | char c s hc ih =>
    rw [scrubChars_cons hc]
    intro d hd
    rcases List.mem_cons.1 hd with rfl | hd
    · exact hs d List.mem_cons_self
    · exact ih (fun e he => hs e (List.mem_cons_of_mem c he)) d hd

/-- A pattern takes away all of the word behind it. -/
theorem scrubChars_swallow (hp : p ≠ []) (hk : Bare k) (hz : Bare z) (h : p <:+: k) :
    scrubChars p (k ++ z) = scrubChars p k := by
  induction k using scrub_induction hp with
  | nil => exact absurd (List.eq_nil_of_infix_nil h) hp
  | pattern k ih =>
    have gone : ∀ {v}, Bare v → afterValue v = [] := fun hv => by
      simpa using afterValue_value hv (t := []) (by simp [Parted])
    have hk : Bare k := fun c hc => hk c (List.mem_append_right p hc)
    rw [List.append_assoc, scrubChars_pattern hp, scrubChars_pattern hp, gone hk,
      gone (hk.append hz)]
  | char c k hc ih =>
    have hin : p <:+: k := (List.infix_cons_iff.1 h).resolve_left hc
    have hlen : p.length ≤ (c :: k).length := hin.length_le.trans (Nat.le_succ _)
    have here : ¬ p <+: c :: (k ++ z) := by
      intro hprefix
      exact hc (List.prefix_of_prefix_length_le hprefix (List.prefix_append (c :: k) z) hlen)
    rw [List.cons_append, scrubChars_cons here, scrubChars_cons hc,
      ih (fun d hd => hk d (List.mem_cons_of_mem c hd)) hin]

/-- A pattern that is not in front of a value leaves what is in front of it. -/
theorem prefix_scrubChars (hp : p ≠ []) (h : ¬ p <:+: k) (z : List Char) :
    k <+: scrubChars p (k ++ z) := by
  induction k with
  | nil => exact List.nil_prefix
  | cons c k ih =>
    rw [List.infix_cons_iff, not_or] at h
    rw [List.cons_append]
    by_cases hm : p <+: c :: (k ++ z)
    · have hk : c :: k <+: p := by
        rcases List.prefix_or_prefix_of_prefix hm (List.prefix_append (c :: k) z) with hpk | hkp
        · exact absurd hpk h.1
        · exact hkp
      obtain ⟨rest, hrest⟩ := hm
      rw [← hrest, scrubChars_pattern hp]
      exact hk.trans (List.prefix_append p _)
    · rw [scrubChars_cons hm]
      exact List.cons_prefix_cons.2 ⟨rfl, ih h.2⟩

/-- Two values behind one pattern are scrubbed to one text, if not by this pattern then by an earlier
one, and until then the pattern stays in front of them. -/
theorem scrubAll_word (h : ∀ q ∈ patterns, q.toList ≠ []) (hk : Bare k) {pattern : String}
    (hp : pattern ∈ patterns) (hin : pattern.toList <:+: k) {v w : List Char} (hv : Bare v)
    (hw : Bare w) : scrubAll patterns (k ++ v) = scrubAll patterns (k ++ w) := by
  induction patterns generalizing v w with
  | nil => cases hp
  | cons q patterns ih =>
    obtain ⟨hq, hrest⟩ := List.forall_mem_cons.1 h
    rw [scrubAll_cons hq, scrubAll_cons hq]
    by_cases hqk : q.toList <:+: k
    · rw [scrubChars_swallow hq hk hv hqk, scrubChars_swallow hq hk hw hqk]
    · have later : pattern ∈ patterns := by
        rcases List.mem_cons.1 hp with rfl | hp
        · exact absurd hin hqk
        · exact hp
      have grown : ∀ {z}, Bare z → ∃ y, Secret.scrubChars q.toList (k ++ z) = k ++ y ∧ Bare y := by
        intro z hz
        obtain ⟨y, hy⟩ := prefix_scrubChars hq hqk z
        refine ⟨y, hy.symm, fun c hc => ?_⟩
        exact (hk.append hz).scrubChars hq c (hy ▸ List.mem_append_right k hc)
      obtain ⟨v', hv', hbv⟩ := grown hv
      obtain ⟨w', hw', hbw⟩ := grown hw
      rw [hv', hw', ih hrest later hbv hbw]

/-! ## Values -/

theorem isSeparator_quote {q : Char} (hq : q = '"' ∨ q = '\'') : isSeparator q = true := by
  rcases hq with rfl | rfl <;> rfl

/-- A value without separators, up to one or to the end, leaves nothing behind when a pattern of the
list is in front of it: in its place any other would come to the same. -/
theorem scrub_bare (hps : ∀ q ∈ patterns, q ≠ "" ∧ Bare q.toList) {pattern : String}
    (hp : pattern ∈ patterns) (a t : String) (ht : Parted t.toList) {v w : String}
    (hv : Bare v.toList) (hw : Bare w.toList) :
    scrub (a ++ pattern ++ v ++ t) patterns = scrub (a ++ pattern ++ w ++ t) patterns := by
  have hne : ∀ q ∈ patterns, q.toList ≠ [] := fun q hq => by simpa using (hps q hq).1
  have hbare : ∀ q ∈ patterns, Bare q.toList := fun q hq => (hps q hq).2
  have word : ∀ {u}, Bare u → scrubAll patterns (u ++ pattern.toList ++ v.toList) =
      scrubAll patterns (u ++ pattern.toList ++ w.toList) := fun hu =>
    scrubAll_word hne (hu.append (hbare pattern hp)) hp (List.suffix_append _ _).isInfix hv hw
  rw [← String.toList_inj, toList_scrub, toList_scrub]
  simp only [String.toList_append]
  rw [scrubAll_parted hne hbare _ ht, scrubAll_parted hne hbare _ ht]
  refine congrArg (· ++ _) ?_
  -- What is in front of the last word is scrubbed on its own.
  rcases exists_lastWord a.toList with ha | ⟨l, c, u, ha, hc, hu⟩
  · exact word ha
  · have hmem : ∀ q ∈ patterns, c ∉ q.toList := fun q hq => (hbare q hq).not_mem hc
    simp only [ha, List.append_assoc, List.cons_append]
    rw [scrubAll_split hne hc hmem, scrubAll_split hne hc hmem]
    simpa using word hu

/-- A value in which a pattern ends that begins in front of it, and one in which another stands. -/
theorem scrub_bare_overlapping :
    let patterns := ["ss=x", "hunter", "pass="]
    (∀ q ∈ patterns, q ≠ "" ∧ Bare q.toList) ∧ "pass=" ∈ patterns ∧ Parted " ok".toList
    ∧ Bare "x1".toList ∧ Bare "hunter2".toList
    ∧ scrub ("my-" ++ "pass=" ++ "x1" ++ " ok") patterns = "my-pass=[REDACTED] ok"
    ∧ scrub ("my-" ++ "pass=" ++ "hunter2" ++ " ok") patterns = "my-pass=[REDACTED] ok" := by
  intro patterns
  have hps : ∀ q ∈ patterns, q ≠ "" ∧ Bare q.toList := by decide
  have hp : "pass=" ∈ patterns := by decide
  have ht : Parted " ok".toList := by simp [Parted, isSeparator, Text.isBlank]
  have hv : Bare "x1".toList := by decide
  have hw : Bare "hunter2".toList := by decide
  have out : scrub ("my-" ++ "pass=" ++ "x1" ++ " ok") patterns = "my-pass=[REDACTED] ok" := by
    decide +kernel
  exact ⟨hps, hp, ht, hv, hw, out, (scrub_bare hps hp "my-" " ok" ht hw hv).trans out⟩

theorem scrub_split {c : Char} (hc : isSeparator c = true)
    (h : ∀ q ∈ patterns, q ≠ "" ∧ c ∉ q.toList) (s t : String) :
    scrub (s ++ String.singleton c ++ t) patterns =
      scrub s patterns ++ String.singleton c ++ scrub t patterns := by
  have hne : ∀ q ∈ patterns, q.toList ≠ [] := fun q hq => by simpa using (h q hq).1
  have split := scrubAll_split hne hc (fun q hq => (h q hq).2) s.toList t.toList
  rw [← String.toList_inj]
  simpa [toList_scrub] using split

/-- Quotes part a text. So a value between quotes is scrubbed like a text of its own, whatever is in
front of them: two values come to the same only where they do so by themselves, and a value in which
no pattern stands is left as it is. -/
theorem scrub_quoted {q : Char} (hq : q = '"' ∨ q = '\'')
    (h : ∀ r ∈ patterns, r ≠ "" ∧ q ∉ r.toList) (a v w t : String) :
    let quote := String.singleton q
    let quoted := fun value => scrub (a ++ quote ++ value ++ quote ++ t) patterns
    quoted v = scrub a patterns ++ quote ++ scrub v patterns ++ quote ++ scrub t patterns
    ∧ (quoted v = quoted w ↔ scrub v patterns = scrub w patterns)
    ∧ ((∀ r ∈ patterns, ¬ r.toList <:+: v.toList) → scrub v patterns = v) := by
  intro quote quoted
  have parts : ∀ value, quoted value =
      scrub a patterns ++ quote ++ scrub value patterns ++ quote ++ scrub t patterns := by
    intro value
    simp only [quoted, quote]
    rw [scrub_split (isSeparator_quote hq) h, scrub_split (isSeparator_quote hq) h]
  refine ⟨parts v, ?_, fun hv => ?_⟩
  · rw [parts, parts]
    simp
  · rw [← String.toList_inj, toList_scrub]
    refine scrubAll_eq_self fun r hr => ⟨by simpa using (h r hr).1, ?_⟩
    exact scrubChars_of_not_infix (hv r hr)

/-- A password in quotes, as it is written out behind the mark. -/
theorem scrub_quoted_password :
    (∀ r ∈ commonPatterns, r ≠ "" ∧ '"' ∉ r.toList)
    ∧ (∀ r ∈ commonPatterns, ¬ r.toList <:+: "hunter2".toList)
    ∧ scrub "login: password=\"hunter2\"" commonPatterns
      = "login: password=[REDACTED]\"hunter2\"" := by
  have h : ∀ r ∈ commonPatterns, r ≠ "" ∧ '"' ∉ r.toList := by decide +kernel
  have hv : ∀ r ∈ commonPatterns, ¬ r.toList <:+: "hunter2".toList := by decide +kernel
  obtain ⟨parts, -, same⟩ := scrub_quoted (.inl rfl) h "login: password=" "hunter2" "" ""
  refine ⟨h, hv, parts.trans ?_⟩
  rw [same hv]
  decide +kernel

/-- Two passwords in quotes are told apart, though a pattern is in front of them. -/
theorem scrub_quoted_discloses :
    ¬ ∀ pattern ∈ commonPatterns, ∀ (a t : String) (q : Char), (q = '"' ∨ q = '\'') →
      ∀ v w : String, Bare v.toList → Bare w.toList →
        scrub (a ++ pattern ++ String.singleton q ++ v ++ String.singleton q ++ t) commonPatterns =
          scrub (a ++ pattern ++ String.singleton q ++ w ++ String.singleton q ++ t)
            commonPatterns := by
  intro h
  have same := h "password=" (by decide) "login: " "" '"' (.inl rfl) "hunter2" "swordfish"
    (by decide) (by decide)
  exact absurd same (by decide +kernel)

end Toolwire.Secret
