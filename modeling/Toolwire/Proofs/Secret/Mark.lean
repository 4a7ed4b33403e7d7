import Mathlib
import Toolwire.Proofs.Secret.Scrub
/-!
# Marks in scrubbed texts

No pattern without brackets reaches into a mark, so what stands behind a pattern in a scrubbed text
is a mark and then a separator, and it stays so while other patterns are scrubbed.
-/
namespace Toolwire.Secret

/-- A pattern that no part of a mark can belong to. -/
structure Apart (p : List Char) : Prop where
  ne_nil : p ≠ []
  opening : '[' ∉ p
  closing : ']' ∉ p
  word : ¬ p <:+: word

instance (p : List Char) : Decidable (Apart p) :=
  decidable_of_iff (p ≠ [] ∧ '[' ∉ p ∧ ']' ∉ p ∧ ¬ p <:+: word)
    ⟨fun ⟨hn, ho, hc, hw⟩ => ⟨hn, ho, hc, hw⟩, fun h => ⟨h.ne_nil, h.opening, h.closing, h.word⟩⟩

/-- A mark stands at the head of a text, and no more of a value behind it. -/
def Masked (s : List Char) : Prop := ∃ t, s = mark ++ t ∧ Parted t

/-- Behind every occurrence of a pattern stands a mark. -/
def Marked (p s : List Char) : Prop := ∀ x y, s = x ++ (p ++ y) → Masked y

variable {p q s t x y l r : List Char} {c : Char}

theorem Marked.of_suffix (h : Marked p s) (ht : t <:+ s) : Marked p t := by
  obtain ⟨u, rfl⟩ := ht
  intro x y hxy
  exact h (u ++ x) y (by rw [hxy, List.append_assoc])

/-! ## Where a pattern can stand -/

theorem Apart.not_around (hp : Apart p) : x ++ (p ++ y) ≠ [] := by
  intro h
  obtain ⟨-, h⟩ := List.append_eq_nil_iff.1 h
  exact hp.ne_nil (List.append_eq_nil_iff.1 h).1

/-- A pattern without a character stands on one side of it. -/
theorem beside (hc : c ∉ p) (h : x ++ (p ++ y) = l ++ c :: r) :
    (∃ z, l = x ++ (p ++ z) ∧ y = z ++ c :: r) ∨ ∃ z, x = l ++ c :: z ∧ r = z ++ (p ++ y) := by
  rcases List.append_eq_append_iff.1 h with ⟨z, rfl, hz⟩ | ⟨z, rfl, hz⟩
  · left
    rcases List.append_eq_append_iff.1 hz with ⟨w, rfl, hw⟩ | ⟨w, rfl, hw⟩
    · exact ⟨w, rfl, hw⟩
    · cases w with
      | nil => exact ⟨[], by simp, hw.symm⟩
      | cons d w =>
        obtain ⟨rfl, -⟩ := List.cons.inj hw
        exact absurd (by simp) hc
  · cases z with
    | nil =>
      cases p with
      | nil => exact .inl ⟨[], by simp, hz.symm⟩
      | cons d p =>
        obtain ⟨rfl, -⟩ := List.cons.inj hz
        exact absurd List.mem_cons_self hc
    | cons d z =>
      obtain ⟨rfl, htail⟩ := List.cons.inj hz
      exact .inr ⟨z, rfl, htail⟩

theorem Apart.beside_mark (hp : Apart p) (h : x ++ (p ++ y) = l ++ (mark ++ r)) :
    (∃ z, l = x ++ (p ++ z) ∧ y = z ++ (mark ++ r)) ∨
      ∃ z, x = l ++ (mark ++ z) ∧ r = z ++ (p ++ y) := by
  rw [mark_append] at h
  rcases beside hp.opening h with ⟨z, rfl, hy⟩ | ⟨z, rfl, hr⟩
  · exact .inl ⟨z, rfl, hy⟩
  · rcases beside hp.closing hr.symm with ⟨w, hw, -⟩ | ⟨w, rfl, hr⟩
    · exact absurd ⟨z, w, by rw [hw, List.append_assoc]⟩ hp.word
    · rw [List.append_assoc, List.append_cancel_left_eq] at hr
      exact .inr ⟨w, rfl, (List.cons.inj hr).2⟩

/-! ## What scrubbing leaves in front -/

/-- What is left without an opening bracket in it stood there from the start. -/
theorem prefix_of_scrubChars (hp : p ≠ []) (hl : '[' ∉ l) (h : l <+: scrubChars p s) : l <+: s := by
  induction s using scrub_induction hp generalizing l with
  | nil => exact h
  | pattern s ih =>
    rw [scrubChars_pattern hp, mark_append] at h
    obtain ⟨y, hy⟩ := h
    rcases beside hl (show [] ++ (l ++ y) = _ from hy) with ⟨z, rfl, -⟩ | ⟨z, hz, -⟩
    · exact ⟨z ++ s, by simp⟩
    · exact absurd hz.symm (by simp)
  | char c s hc ih =>
    rw [scrubChars_cons hc] at h
    cases l with
    | nil => exact List.nil_prefix
    | cons d l =>
      obtain ⟨rfl, htail⟩ := List.cons_prefix_cons.1 h
      exact List.cons_prefix_cons.2 ⟨rfl, ih (fun hm => hl (List.mem_cons_of_mem _ hm)) htail⟩

/-- A mark is left as it is by a pattern apart from it. -/
theorem scrubChars_mark (hq : Apart q) (s : List Char) :
    scrubChars q (mark ++ s) = mark ++ scrubChars q s := by
  refine scrubChars_pass fun u hu hsuffix hprefix => ?_
  obtain ⟨w, hw⟩ := hsuffix
  obtain ⟨y, hy⟩ := hprefix
  have h : w ++ (q ++ y) = [] ++ (mark ++ s) := by rw [hy, ← List.append_assoc, hw]; rfl
  rcases hq.beside_mark h with ⟨z, hz, -⟩ | ⟨z, rfl, -⟩
  · exact hq.not_around hz.symm
  · have hlen := congrArg List.length hw
    simp only [List.length_append] at hlen
    exact hu (List.eq_nil_of_length_eq_zero (by omega))

/-! ## Own and other patterns -/

theorem marked_scrubChars (hp : Apart p) (s : List Char) : Marked p (scrubChars p s) := by
  induction s using scrub_induction hp.ne_nil with
  | nil =>
    intro x y h
    exact absurd h.symm hp.not_around
  | pattern s ih =>
    have parted := (parted_afterValue s).scrubChars hp.ne_nil
    rw [scrubChars_pattern hp.ne_nil]
    intro x y h
    rcases hp.beside_mark h.symm with ⟨z, hz, rfl⟩ | ⟨z, -, hr⟩
    · -- The pattern is as long as the part before the mark.
      have hlen := congrArg List.length hz
      simp only [List.length_append] at hlen
      obtain rfl : z = [] := List.eq_nil_of_length_eq_zero (by omega)
      exact ⟨_, rfl, parted⟩
    · exact ih z y hr
  | char c s hc ih =>
    rw [scrubChars_cons hc]
    intro x y h
    cases x with
    | nil =>
      -- A pattern at the head would have stood there before.
      rw [← scrubChars_cons hc] at h
      exact absurd (prefix_of_scrubChars hp.ne_nil hp.opening ⟨y, h.symm⟩) hc
    | cons d x => exact ih x y (List.cons.inj h).2

/-- The mark behind a pattern stays where it is while another pattern is scrubbed. -/
theorem masked_of_scrubChars (hq : Apart q) (hl : '[' ∉ l) (hr : Parted r)
    (h : scrubChars q (l ++ (mark ++ r)) = l ++ y) : Masked y := by
  generalize hs : l ++ (mark ++ r) = s at h
  induction s using scrub_induction hq.ne_nil generalizing l with
  | nil => exact absurd hs (by simp [mark_append])
  | pattern s ih =>
    rw [scrubChars_pattern hq.ne_nil] at h
    rcases beside hl (show [] ++ (l ++ y) = q ++ '[' :: _ from h.symm) with ⟨z, rfl, hy⟩ | ⟨z, hz, -⟩
    · cases z with
      | nil => exact ⟨_, hy, (parted_afterValue s).scrubChars hq.ne_nil⟩
      | cons d z =>
        -- The other pattern would reach into the mark.
        rw [List.nil_append, List.append_assoc, List.append_cancel_left_eq] at hs
        have hd : '[' = d := (List.cons.inj hs).1
        exact absurd (by simp [← hd]) hq.opening
    · exact absurd hz.symm (by simp)
  | char c s hc ih =>
    cases l with
    | nil =>
      rw [← hs] at h
      rw [List.nil_append, scrubChars_mark hq] at h
      exact ⟨_, h.symm, hr.scrubChars hq.ne_nil⟩
    | cons d l =>
      obtain ⟨rfl, htail⟩ := List.cons.inj hs
      rw [scrubChars_cons hc] at h
      exact ih (fun hm => hl (List.mem_cons_of_mem _ hm)) htail (List.cons.inj h).2

theorem Marked.of_other (hp : Apart p) (hq : Apart q) (h : Marked p s) :
    Marked p (scrubChars q s) := by
  induction s using scrub_induction hq.ne_nil with
  | nil => exact h
  | pattern s ih =>
    have parted := (parted_afterValue s).scrubChars hq.ne_nil
    have behind : Marked p (scrubChars q (afterValue s)) :=
      ih (h.of_suffix ((afterValue_suffix s).trans (List.suffix_append q s)))
    rw [scrubChars_pattern hq.ne_nil]
    intro x y hxy
    rcases hp.beside_mark hxy.symm with ⟨z, hz, rfl⟩ | ⟨z, -, hr⟩
    · cases z with
      | nil => exact ⟨_, rfl, parted⟩
      | cons d z =>
        -- A mark behind the pattern would begin inside the other one.
        obtain ⟨t, ht, -⟩ := h x (d :: z ++ s) (by rw [hz]; simp)
        have hd : d = '[' := (List.cons.inj ht).1
        exact absurd (by simp [hz, hd]) hq.opening
    · exact behind z y hr
  | char c s hc ih =>
    rw [scrubChars_cons hc]
    intro x y hxy
    cases x with
    | nil =>
      rw [← scrubChars_cons hc] at hxy
      obtain ⟨z, hz⟩ := prefix_of_scrubChars hq.ne_nil hp.opening ⟨y, hxy.symm⟩
      obtain ⟨r, rfl, hr⟩ := h [] z hz.symm
      rw [← hz] at hxy
      exact masked_of_scrubChars hq hp.opening hr hxy
    | cons d x =>
      exact ih (h.of_suffix (List.suffix_cons c s)) x y (List.cons.inj hxy).2

/-- A text with a mark behind every occurrence of a pattern is not changed. -/
theorem Marked.scrubChars_eq (hp : p ≠ []) (h : Marked p s) : Secret.scrubChars p s = s := by
  induction s using scrub_induction hp with
  | nil => rfl
  | pattern s ih =>
    obtain ⟨t, rfl, ht⟩ := h [] s rfl
    have hafter : afterValue (mark ++ t) = t := afterValue_value bare_mark ht
    rw [hafter] at ih
    rw [scrubChars_pattern hp, hafter, ih (h.of_suffix ⟨p ++ mark, by simp⟩)]
  | char c s hc ih =>
    rw [scrubChars_cons hc, ih (h.of_suffix (List.suffix_cons c s))]

/-! ## All patterns -/

variable {patterns : List String}

theorem Marked.scrubAll (h : ∀ r ∈ patterns, Apart r.toList) (hp : Apart p) (hm : Marked p s) :
    Marked p (scrubAll patterns s) := by
  induction patterns generalizing s with
  | nil => exact hm
  | cons q patterns ih =>
    have hq : Apart q.toList := h q List.mem_cons_self
    rw [scrubAll_cons hq.ne_nil]
    exact ih (fun r hr => h r (List.mem_cons_of_mem q hr)) (hm.of_other hp hq)

theorem marked_scrubAll (h : ∀ r ∈ patterns, Apart r.toList) (s : List Char) :
    ∀ r ∈ patterns, Marked r.toList (scrubAll patterns s) := by
  induction patterns generalizing s with
  | nil => simp
  | cons q patterns ih =>
    obtain ⟨hq, hrest⟩ := List.forall_mem_cons.1 h
    rw [scrubAll_cons hq.ne_nil, List.forall_mem_cons]
    exact ⟨(marked_scrubChars hq s).scrubAll hrest hq, ih hrest _⟩

/-- The searches for patterns that are apart from the mark, as the common ones are, come to an end
with the scrubbed text. Behind every occurrence of every pattern in it stands the mark, and scrubbing
it again changes nothing. -/
theorem scrub_settles :
    (∀ p ∈ commonPatterns, Apart p.toList)
    ∧ ∀ patterns : List String, (∀ p ∈ patterns, Apart p.toList) → ∀ text : String,
        (∀ out, Searches patterns text.toList out ↔ out = (scrub text patterns).toList)
        ∧ (∀ p ∈ patterns, ∀ a b, scrub text patterns = a ++ p ++ b → ∃ c, b = redacted ++ c)
        ∧ scrub (scrub text patterns) patterns = scrub text patterns := by
  refine ⟨by decide +kernel, fun patterns h text => ⟨fun out => ?_, ?_, ?_⟩⟩
  · rw [toList_scrub]
    exact searches_iff fun p hp => (h p hp).ne_nil
  · intro p hp a b hab
    have hlist := congrArg String.toList hab
    rw [toList_scrub, String.toList_append, String.toList_append, List.append_assoc] at hlist
    obtain ⟨t, ht, -⟩ := marked_scrubAll h text.toList p hp _ _ hlist
    refine ⟨String.ofList t, String.toList_inj.1 ?_⟩
    rw [String.toList_append, String.toList_ofList, toList_redacted, ht]
  · rw [← String.toList_inj, toList_scrub, toList_scrub]
    have marked := marked_scrubAll h text.toList
    exact scrubAll_eq_self fun p hp =>
      ⟨(h p hp).ne_nil, (marked p hp).scrubChars_eq (h p hp).ne_nil⟩

/-- A pattern that stands in another one, whose value is replaced first. -/
theorem scrub_settles_nested :
    let patterns := ["Authorization: Bearer ", "Bearer"]
    let text := "Authorization: Bearer abc"
    (∀ p ∈ patterns, Apart p.toList)
    ∧ scrub text patterns = "Authorization: Bearer[REDACTED] [REDACTED]"
    ∧ scrub (scrub text patterns) patterns = scrub text patterns := by
  intro patterns text
  have h : ∀ p ∈ patterns, Apart p.toList := by decide +kernel
  obtain ⟨-, -, again⟩ := scrub_settles.2 patterns h text
  exact ⟨h, by decide +kernel, again⟩

end Toolwire.Secret
