import Mathlib
import Toolwire.Secret.Scrub
/-!
# Scrubbing, pattern by pattern

Scrubbing reads a text once for each pattern. Where the pattern stands it goes on behind the value
that follows, and anywhere else behind one character: `scrub_induction`. It comes to what a search
comes to that replaces one value after the other in the text itself, and such a search always ends
unless the pattern is empty: `searches_iff`.
-/
namespace Toolwire

namespace Text

theorem dropLiteral?_eq_some {literal s rest : List Char} :
    dropLiteral? literal s = some rest ↔ s = literal ++ rest := by
  fun_induction dropLiteral? literal s with
  | case1 s => simp
  | case2 => simp
  | case3 literal c s ih => simpa using ih
  | case4 l literal c s hne => simp [hne]

theorem dropLiteral?_eq_none {literal s : List Char} :
    dropLiteral? literal s = none ↔ ¬ literal <+: s := by
  cases h : dropLiteral? literal s with
  | some rest => simp [dropLiteral?_eq_some.1 h]
  | none =>
    refine iff_of_true rfl ?_
    rintro ⟨rest, hs⟩
    rw [dropLiteral?_eq_some.2 hs.symm] at h
    cases h

end Text

namespace Secret

open Text

/-- A text with the values that one pattern announces replaced. -/
def scrubChars (p s : List Char) : List Char := scrubFrom p [] 0 false s

/-- What stands between the brackets of the mark. -/
def word : List Char := ['R', 'E', 'D', 'A', 'C', 'T', 'E', 'D']

/-- The mark in the place of a value. -/
def mark : List Char := '[' :: (word ++ [']'])

/-- What is left of a text behind the value at its head. -/
def afterValue (s : List Char) : List Char := s.dropWhile fun c => !isSeparator c

/-- No separator stands in a text. -/
def Bare (s : List Char) : Prop := ∀ c ∈ s, isSeparator c = false

/-- No value stands at the head of a text. -/
def Parted (s : List Char) : Prop := ∀ c ∈ s.head?, isSeparator c = true

variable {p s t : List Char} {c : Char}

theorem toList_redacted : redacted.toList = mark := by decide

theorem mark_append (s : List Char) : mark ++ s = '[' :: (word ++ ']' :: s) := rfl

theorem bare_mark : Bare mark := by
  simp [Bare, mark, word, isSeparator, isBlank]

theorem afterValue_suffix (s : List Char) : afterValue s <:+ s := List.dropWhile_suffix _

theorem scrubFrom_eq (p done : List Char) (skip : Nat) (inValue : Bool) (s : List Char) :
    scrubFrom p done skip inValue s = done.reverse ++ scrubFrom p [] skip inValue s := by
  induction s generalizing done skip inValue with
  | nil => cases inValue <;> simp [scrubFrom]
  | cons c s ih =>
    cases skip with
    | succ k =>
      simp only [scrubFrom]
      rw [ih (c :: done), ih [c]]
      simp
    | zero =>
      simp only [scrubFrom]
      split
      · exact ih done 0 true
      · split
        · rw [ih, ih (c :: _)]
          cases inValue <;> simp
        · rw [ih, ih (c :: _)]
          cases inValue <;> simp

theorem scrubFrom_value (p s : List Char) :
    scrubFrom p [] 0 true s = mark ++ scrubChars p (afterValue s) := by
  induction s with
  | nil => simp [scrubFrom, scrubChars, afterValue, toList_redacted]
  | cons c s ih =>
    by_cases hc : isSeparator c = true
    · have h : afterValue (c :: s) = c :: s := by simp [afterValue, hc]
      rw [h]
      simp only [scrubFrom, hc, scrubChars, toList_redacted]
      simp only [Bool.not_true, Bool.and_false, Bool.false_eq_true, if_false, if_true]
      split
      · rw [scrubFrom_eq, scrubFrom_eq _ [c]]
        simp
      · rw [scrubFrom_eq, scrubFrom_eq _ [c]]
        simp
    · have h : afterValue (c :: s) = afterValue s := by simp [afterValue, hc]
      rw [h, ← ih]
      simp [scrubFrom, hc]

theorem scrubFrom_pattern (p u s : List Char) :
    scrubFrom p [] u.length (u.length == 0) (u ++ s) = u ++ scrubFrom p [] 0 true s := by
  have skip : ∀ inValue, u ≠ [] →
      scrubFrom p [] u.length inValue (u ++ s) = u ++ scrubFrom p [] 0 true s := by
    induction u with
    | nil => exact fun _ h => absurd rfl h
    | cons c u ih =>
      intro inValue _
      rw [List.length_cons, List.cons_append, scrubFrom, scrubFrom_eq]
      cases u with
      | nil => rfl
      | cons d u => rw [ih _ (List.cons_ne_nil d u)]; rfl
  cases u with
  | nil => rfl
  | cons c u => exact skip _ (List.cons_ne_nil c u)

theorem scrubChars_nil (p : List Char) : scrubChars p [] = [] := rfl

theorem scrubChars_pattern (hp : p ≠ []) (s : List Char) :
    scrubChars p (p ++ s) = p ++ (mark ++ scrubChars p (afterValue s)) := by
  obtain ⟨c, u, rfl⟩ := List.exists_cons_of_ne_nil hp
  have hm : dropLiteral? (c :: u) (c :: (u ++ s)) = some s := dropLiteral?_eq_some.2 rfl
  have step : scrubChars (c :: u) (c :: (u ++ s)) =
      scrubFrom (c :: u) [c] u.length (u.length == 0) (u ++ s) := by
    simp [scrubChars, scrubFrom, hm]
  rw [List.cons_append, step, scrubFrom_eq, scrubFrom_pattern, scrubFrom_value]
  rfl

theorem scrubChars_cons (h : ¬ p <+: c :: s) : scrubChars p (c :: s) = c :: scrubChars p s := by
  have hm : dropLiteral? p (c :: s) = none := dropLiteral?_eq_none.2 h
  have step : scrubChars p (c :: s) = scrubFrom p [c] 0 false s := by
    simp [scrubChars, scrubFrom, hm]
  rw [step, scrubFrom_eq]
  rfl

/-- Scrubbing goes on behind the value that a pattern announces, and behind a character at which
no pattern stands. -/
@[elab_as_elim]
theorem scrub_induction (hp : p ≠ []) {P : List Char → Prop} (nil : P [])
    (pattern : ∀ s, P (afterValue s) → P (p ++ s))
    (char : ∀ c s, ¬ p <+: c :: s → P s → P (c :: s)) (s : List Char) : P s := by
  -- A value is skipped as a whole, so the induction is on the length of what is left.
  induction hlen : s.length using Nat.strong_induction_on generalizing s with
  | _ n ih =>
  cases s with
  | nil => exact nil
  | cons c s =>
    by_cases h : p <+: c :: s
    · obtain ⟨rest, hrest⟩ := h
      rw [← hrest] at hlen ⊢
      refine pattern rest (ih _ ?_ _ rfl)
      have hle := (afterValue_suffix rest).length_le
      have hpos := List.length_pos_of_ne_nil hp
      rw [List.length_append] at hlen
      omega
    · rw [List.length_cons] at hlen
      exact char c s h (ih _ (by omega) s rfl)

/-- Where a pattern stands nowhere, a text is left as it is. -/
theorem scrubChars_pass (h : ∀ v, v ≠ [] → v <:+ s → ¬ p <+: v ++ t) :
    scrubChars p (s ++ t) = s ++ scrubChars p t := by
  induction s with
  | nil => rfl
  | cons c s ih =>
    have here : ¬ p <+: c :: (s ++ t) := h (c :: s) (List.cons_ne_nil c s) List.suffix_rfl
    rw [List.cons_append, scrubChars_cons here,
      ih fun v hv hs => h v hv (hs.trans (List.suffix_cons c s))]
    rfl

theorem scrubChars_of_not_infix (h : ¬ p <:+: s) : scrubChars p s = s := by
  have pass : scrubChars p (s ++ []) = s ++ scrubChars p [] := by
    refine scrubChars_pass fun v _ hv hp => h ?_
    rw [List.append_nil] at hp
    exact hp.isInfix.trans hv.isInfix
  rwa [List.append_nil, scrubChars_nil, List.append_nil] at pass

theorem parted_afterValue (s : List Char) : Parted (afterValue s) := by
  intro c hc
  have h := List.head?_dropWhile_not (fun c => !isSeparator c) s
  rw [← afterValue, Option.mem_def.1 hc] at h
  simpa using h

theorem afterValue_value {v : List Char} (hv : Bare v) (ht : Parted t) :
    afterValue (v ++ t) = t := by
  unfold afterValue
  rw [List.dropWhile_append_of_pos (by simpa [Bare] using hv)]
  cases t with
  | nil => rfl
  | cons c t => rw [List.dropWhile_cons_of_neg (by simp [ht c rfl])]

theorem Parted.scrubChars (hp : p ≠ []) (h : Parted s) : Parted (scrubChars p s) := by
  cases s with
  | nil => exact h
  | cons c s =>
    have hc : isSeparator c = true := h c rfl
    by_cases hm : p <+: c :: s
    · obtain ⟨rest, hrest⟩ := hm
      obtain ⟨d, u, rfl⟩ := List.exists_cons_of_ne_nil hp
      obtain ⟨rfl, -⟩ := List.cons.inj hrest
      rw [← hrest, scrubChars_pattern hp]
      rintro _ ⟨⟩
      exact hc
    · rw [scrubChars_cons hm]
      rintro _ ⟨⟩
      exact hc

/-! ## The search as it rewrites the text -/

/-- The first occurrence of a pattern in a text stands behind `before`. -/
structure First (p before rest s : List Char) : Prop where
  here : s = before ++ (p ++ rest)
  least : ∀ x y, s = x ++ (p ++ y) → before.length ≤ x.length

/-- A search that has passed `done` and has `ahead` before it is over after `n` replacements and
leaves `out`. Each turn replaces the value behind the next occurrence of the pattern, and the search
goes on behind the mark. -/
inductive Search (p : List Char) : Nat → List Char → List Char → List Char → Prop
  | ends {passed ahead} (h : ¬ p <:+: ahead) : Search p 0 passed ahead (passed ++ ahead)
  | turn {n passed ahead before rest out} (h : First p before rest ahead)
      (next : Search p n (passed ++ (before ++ (p ++ mark))) (afterValue rest) out) :
      Search p (n + 1) passed ahead out

theorem First.unique {before before' rest rest' : List Char} (h : First p before rest s)
    (h' : First p before' rest' s) : before = before' ∧ rest = rest' := by
  have hlen : before.length = before'.length :=
    Nat.le_antisymm (h.least _ _ h'.here) (h'.least _ _ h.here)
  have heq := h.here.symm.trans h'.here
  obtain ⟨rfl, htail⟩ := List.append_inj heq hlen
  exact ⟨rfl, List.append_cancel_left htail⟩

theorem Search.unique {n m : Nat} {passed ahead out out' : List Char}
    (h : Search p n passed ahead out) (h' : Search p m passed ahead out') :
    n = m ∧ out = out' := by
  induction h generalizing m with
  | ends hno =>
    cases h' with
    | ends => exact ⟨rfl, rfl⟩
    | turn hf => exact absurd ⟨_, _, by rw [hf.here, List.append_assoc]⟩ hno
  | turn hf next ih =>
    cases h' with
    | ends hno => exact absurd ⟨_, _, by rw [hf.here, List.append_assoc]⟩ hno
    | turn hf' next' =>
      obtain ⟨rfl, rfl⟩ := hf.unique hf'
      obtain ⟨rfl, rfl⟩ := ih next'
      exact ⟨rfl, rfl⟩

theorem First.pattern (p s : List Char) : First p [] s (p ++ s) where
  here := rfl
  least _ _ _ := Nat.zero_le _

theorem First.cons {before rest : List Char} (h : First p before rest s)
    (hc : ¬ p <+: c :: s) : First p (c :: before) rest (c :: s) where
  here := by rw [h.here]; rfl
  least := by
    intro x y hs
    cases x with
    | nil => exact absurd ⟨y, hs.symm⟩ hc
    | cons d x => exact Nat.succ_le_succ (h.least x y (List.cons.inj hs).2)

/-- A search meets what a character is put before as it would without it. -/
theorem Search.cons {n : Nat} {passed ahead out : List Char} (hc : ¬ p <+: c :: ahead)
    (h : Search p n (passed ++ [c]) ahead out) : Search p n passed (c :: ahead) out := by
  cases h with
  | ends hno =>
    rw [List.append_assoc]
    exact .ends (by rw [List.infix_cons_iff, not_or]; exact ⟨hc, hno⟩)
  | turn hf next =>
    refine .turn (hf.cons hc) ?_
    simpa using next

/-- The search ends, after at most one replacement for each length of the pattern, and leaves the
scrubbed text behind what it had passed. -/
theorem search_scrubChars (hp : p ≠ []) (s : List Char) :
    ∀ passed, ∃ n, n * p.length ≤ s.length ∧ Search p n passed s (passed ++ scrubChars p s) := by
  induction s using scrub_induction hp with
  | nil =>
    intro passed
    refine ⟨0, by simp, .ends fun h => hp (List.eq_nil_of_infix_nil h)⟩
  | pattern s ih =>
    intro passed
    obtain ⟨n, hn, hs⟩ := ih (passed ++ ([] ++ (p ++ mark)))
    refine ⟨n + 1, ?_, ?_⟩
    · have hle := (afterValue_suffix s).length_le
      rw [List.length_append, Nat.succ_mul]
      omega
    · refine .turn (First.pattern p s) ?_
      rw [scrubChars_pattern hp]
      simpa using hs
  | char c s hc ih =>
    intro passed
    obtain ⟨n, hn, hs⟩ := ih (passed ++ [c])
    refine ⟨n, hn.trans (Nat.le_succ _), ?_⟩
    rw [scrubChars_cons hc]
    exact Search.cons hc (by simpa using hs)

/-! ## Splitting at a separator -/

theorem afterValue_append (s : List Char) {c : Char} (hc : isSeparator c = true) (t : List Char) :
    afterValue (s ++ c :: t) = afterValue s ++ c :: t := by
  unfold afterValue
  rw [List.dropWhile_append, List.dropWhile_cons_of_neg (by simp [hc])]
  split
  · rename_i h
    rw [List.isEmpty_iff.1 h, List.nil_append]
  · rfl

theorem scrubChars_split (hp : p ≠ []) (hc : isSeparator c = true) (hmem : c ∉ p) (s t : List Char) :
    scrubChars p (s ++ c :: t) = scrubChars p s ++ c :: scrubChars p t := by
  have stop : ∀ u, p <+: u ++ c :: t → p <+: u := by
    intro u h
    have whole : u ++ [c] <+: u ++ c :: t := ⟨t, by simp⟩
    rcases List.prefix_or_prefix_of_prefix h whole with h | h
    · rcases List.prefix_concat_iff.1 h with rfl | h
      · exact absurd (by simp) hmem
      · exact h
    · exact absurd (h.subset (by simp)) hmem
  induction s using scrub_induction hp with
  | nil =>
    have h : ¬ p <+: c :: t := fun h => hp (List.prefix_nil.1 (stop [] h))
    rw [List.nil_append, scrubChars_cons h, scrubChars_nil, List.nil_append]
  | pattern s ih =>
    rw [List.append_assoc, scrubChars_pattern hp, scrubChars_pattern hp, afterValue_append s hc, ih]
    simp
  | char d s hd ih =>
    have h : ¬ p <+: d :: (s ++ c :: t) := fun h => hd (stop (d :: s) h)
    rw [List.cons_append, scrubChars_cons h, scrubChars_cons hd, ih]
    rfl

/-! ## All patterns -/

/-- The patterns of a list are searched for one after the other, each in what the one before it
left. -/
inductive Searches : List String → List Char → List Char → Prop
  | nil (s : List Char) : Searches [] s s
  | cons {pattern : String} {patterns : List String} {n : Nat} {s t out : List Char}
      (h : Search pattern.toList n [] s t) (rest : Searches patterns t out) :
      Searches (pattern :: patterns) s out

/-- The characters of a text with the values that any of the patterns announces replaced. -/
def scrubAll (patterns : List String) (s : List Char) : List Char :=
  patterns.foldl (fun s p => scrubPattern p s) s

theorem toList_scrub (text : String) (patterns : List String) :
    (scrub text patterns).toList = scrubAll patterns text.toList :=
  String.toList_ofList

variable {pattern : String} {patterns : List String}

theorem scrubAll_cons (h : pattern.toList ≠ []) (patterns : List String) (s : List Char) :
    scrubAll (pattern :: patterns) s = scrubAll patterns (scrubChars pattern.toList s) := by
  have hne : pattern.isEmpty = false := by simpa using h
  rw [scrubAll, List.foldl_cons, scrubPattern, hne]
  rfl

theorem scrubAll_eq_self {s : List Char}
    (h : ∀ p ∈ patterns, p.toList ≠ [] ∧ scrubChars p.toList s = s) :
    scrubAll patterns s = s := by
  induction patterns with
  | nil => rfl
  | cons p patterns ih =>
    obtain ⟨⟨hp, hs⟩, hrest⟩ := List.forall_mem_cons.1 h
    rw [scrubAll_cons hp, hs, ih hrest]

/-- The searches end, and what they leave is the scrubbed text. -/
theorem searches_iff (h : ∀ p ∈ patterns, p.toList ≠ []) {s out : List Char} :
    Searches patterns s out ↔ out = scrubAll patterns s := by
  induction patterns generalizing s with
  | nil =>
    constructor
    · rintro ⟨⟩
      rfl
    · rintro rfl
      exact .nil _
  | cons p patterns ih =>
    obtain ⟨hp, hpatterns⟩ := List.forall_mem_cons.1 h
    obtain ⟨n, -, hs⟩ := search_scrubChars hp s []
    rw [scrubAll_cons hp, ← ih hpatterns]
    constructor
    · rintro (_ | ⟨hs', rest⟩)
      obtain ⟨-, rfl⟩ := hs.unique hs'
      exact rest
    · exact fun rest => .cons hs rest

end Secret
end Toolwire
