import Mathlib
import Toolwire.Retry.Run
/-!
# The course of a retried run

A run makes its attempts one after another, waits between two of them for as long as the policy
says, and comes to what its last attempt has come to. Which attempt is the last one is settled by
the outcomes of the attempts and by how many are allowed: `run_course`.
-/
namespace Toolwire.Retry

variable {α : Type}

/-- Whether an outcome ends a run, however many attempts are left. -/
def isFinal : Except Failure α → Bool
  | .ok _ => true
  | .error failure => !failure.isRetryable

/-- How many attempts a policy allows: one at least. -/
def allowed (policy : RetryPolicy) : Nat := max 1 policy.maxAttempts

/-- The last of `count` attempts from `index` on that is made: the first one with a final outcome,
or the last of them all when there is none. -/
def lastFrom (timeoutMs : Nat) (attempts : Nat → Attempt α) (index count : Nat) : Nat :=
  ((List.range' index count).find? fun i => isFinal ((attempts i).within timeoutMs)).getD
    (index + count - 1)

/-- The last attempt of a run. -/
def last (policy : RetryPolicy) (timeoutMs : Nat) (attempts : Nat → Attempt α) : Nat :=
  lastFrom timeoutMs attempts 0 (allowed policy)

/-- What a run does about an attempt that is not its last one. -/
def again (policy : RetryPolicy) (timeoutMs : Nat) (attempts : Nat → Attempt α) (index : Nat) :
    List Step :=
  match (attempts index).within timeoutMs with
  | .ok _ => [.attempt index]
  | .error failure =>
    [.attempt index, .retrying index (policy.delay index) failure, .wait (policy.delay index)]

section
variable {policy : RetryPolicy} {timeoutMs : Nat} {attempts : Nat → Attempt α}
  {index left count k : Nat}

/-! ## The last attempt -/

theorem isFinal_eq_false {outcome : Except Failure α} :
    isFinal outcome = false ↔ ∃ failure, outcome = .error failure ∧ failure.isRetryable = true := by
  cases outcome <;> simp [isFinal]

theorem lastFrom_of_final (h : isFinal ((attempts index).within timeoutMs) = true) :
    lastFrom timeoutMs attempts index (count + 1) = index := by
  simp [lastFrom, List.range'_succ, h]

theorem lastFrom_one : lastFrom timeoutMs attempts index 1 = index := by
  cases h : isFinal ((attempts index).within timeoutMs) with
  | true => exact lastFrom_of_final h
  | false => simp [lastFrom, h]

theorem lastFrom_of_not_final (h : isFinal ((attempts index).within timeoutMs) = false) :
    lastFrom timeoutMs attempts index (count + 2) =
      lastFrom timeoutMs attempts (index + 1) (count + 1) := by
  have hsum : index + (count + 2) - 1 = index + 1 + (count + 1) - 1 := by omega
  simp only [lastFrom, List.range'_succ (n := count + 1), List.find?_cons, h, hsum]

/-- The last attempt is one of those allowed, none before it has a final outcome, and it has one
itself unless no further attempt is allowed. -/
theorem lastFrom_spec (h : lastFrom timeoutMs attempts index (count + 1) = k) :
    index ≤ k ∧ k ≤ index + count
      ∧ (∀ i, index ≤ i → i < k → isFinal ((attempts i).within timeoutMs) = false)
      ∧ (isFinal ((attempts k).within timeoutMs) = true ∨ k = index + count) := by
  induction count generalizing index with
  | zero =>
    obtain rfl : index = k := lastFrom_one.symm.trans h
    exact ⟨le_rfl, le_rfl, fun i hi hk => absurd hk (by omega), .inr rfl⟩
  | succ count ih =>
    cases hf : isFinal ((attempts index).within timeoutMs) with
    | true =>
      obtain rfl : index = k := (lastFrom_of_final hf).symm.trans h
      exact ⟨le_rfl, by omega, fun i hi hk => absurd hk (by omega), .inl hf⟩
    | false =>
      obtain ⟨hlow, hhigh, before, ends⟩ := ih ((lastFrom_of_not_final hf).symm.trans h)
      refine ⟨by omega, by omega, fun i hi hk => ?_, ends.imp_right fun he => by omega⟩
      rcases Nat.eq_or_lt_of_le hi with rfl | hi
      · exact hf
      · exact before i hi hk

/-! ## One attempt and all of them -/

/-- Behind a final outcome nothing follows, nor behind the last attempt that is allowed. -/
theorem runFrom_of_final (h : isFinal ((attempts index).within timeoutMs) = true ∨ left = 0) :
    runFrom policy timeoutMs attempts index left =
      ⟨[.attempt index], (attempts index).within timeoutMs⟩ := by
  cases left with
  | zero => rfl
  | succ left =>
    have hf := h.resolve_right (Nat.succ_ne_zero left)
    unfold runFrom
    cases hw : (attempts index).within timeoutMs with
    | ok value => rfl
    | error failure =>
      have hr : failure.isRetryable = false := by simpa [hw, isFinal] using hf
      simp only [hr, Bool.false_eq_true, if_false]

/-- Otherwise the delay follows, and then the attempts from the next one on. -/
theorem runFrom_of_not_final (h : isFinal ((attempts index).within timeoutMs) = false) :
    runFrom policy timeoutMs attempts index (left + 1) =
      ⟨again policy timeoutMs attempts index
          ++ (runFrom policy timeoutMs attempts (index + 1) left).steps,
        (runFrom policy timeoutMs attempts (index + 1) left).outcome⟩ := by
  obtain ⟨failure, hw, hr⟩ := isFinal_eq_false.1 h
  simp only [runFrom, again, hw, hr, if_true]
  rfl

/-- Every attempt before the last one is made again. -/
theorem runFrom_steps (h : lastFrom timeoutMs attempts index (left + 1) = k) :
    runFrom policy timeoutMs attempts index left =
      ⟨(List.range' index (k - index)).flatMap (again policy timeoutMs attempts) ++ [.attempt k],
        (attempts k).within timeoutMs⟩ := by
  induction left generalizing index with
  | zero =>
    obtain rfl : index = k := lastFrom_one.symm.trans h
    rw [runFrom_of_final (.inr rfl), Nat.sub_self]
    rfl
  | succ left ih =>
    cases hf : isFinal ((attempts index).within timeoutMs) with
    | true =>
      obtain rfl : index = k := (lastFrom_of_final hf).symm.trans h
      rw [runFrom_of_final (.inl hf), Nat.sub_self]
      rfl
    | false =>
      have hk : lastFrom timeoutMs attempts (index + 1) (left + 1) = k :=
        (lastFrom_of_not_final hf).symm.trans h
      have hlow : index + 1 ≤ k := (lastFrom_spec hk).1
      have hsub : k - index = k - (index + 1) + 1 := by omega
      rw [runFrom_of_not_final hf, ih hk, hsub, List.range'_succ, List.flatMap_cons,
        List.append_assoc]

theorem run_steps (policy : RetryPolicy) (timeoutMs : Nat) (attempts : Nat → Attempt α) :
    run policy timeoutMs attempts =
      let k := last policy timeoutMs attempts
      ⟨(List.range k).flatMap (again policy timeoutMs attempts) ++ [.attempt k],
        (attempts k).within timeoutMs⟩ := by
  have hcount : policy.maxAttempts - 1 + 1 = allowed policy := by
    unfold allowed
    omega
  have hlast : lastFrom timeoutMs attempts 0 (policy.maxAttempts - 1 + 1) =
      last policy timeoutMs attempts := by
    rw [hcount]
    rfl
  unfold run
  rw [runFrom_steps hlast, Nat.sub_zero, ← List.range_eq_range']

end

/-! ## The whole run -/

section
variable (policy : RetryPolicy) (timeoutMs : Nat) (attempts : Nat → Attempt α)

theorem outcome_run : (run policy timeoutMs attempts).outcome =
    (attempts (last policy timeoutMs attempts)).within timeoutMs := by
  rw [run_steps]

theorem attempted_run : (run policy timeoutMs attempts).attempted =
    List.range (last policy timeoutMs attempts + 1) := by
  have one : ∀ i, (Run.mk (again policy timeoutMs attempts i)
      ((attempts i).within timeoutMs)).attempted = [i] := by
    intro i
    unfold again
    split <;> rfl
  simp only [Run.attempted] at one ⊢
  rw [run_steps, List.filterMap_append, List.filterMap_flatMap, List.range_succ]
  simp only [one, List.flatMap_singleton']
  rfl

theorem last_spec :
    last policy timeoutMs attempts < allowed policy
      ∧ (∀ i < last policy timeoutMs attempts, isFinal ((attempts i).within timeoutMs) = false)
      ∧ (isFinal ((attempts (last policy timeoutMs attempts)).within timeoutMs) = true
        ∨ last policy timeoutMs attempts + 1 = allowed policy) := by
  have hcount : allowed policy = allowed policy - 1 + 1 := by
    unfold allowed
    omega
  generalize hk : last policy timeoutMs attempts = k
  unfold last at hk
  rw [hcount] at hk ⊢
  obtain ⟨-, below, before, ends⟩ := lastFrom_spec hk
  exact ⟨by omega, fun i => before i (Nat.zero_le i), ends.imp_right fun he => by omega⟩

theorem delays_run : (run policy timeoutMs attempts).delays =
    (List.range (last policy timeoutMs attempts)).map policy.delay := by
  obtain ⟨-, before, -⟩ := last_spec policy timeoutMs attempts
  have one : ∀ i ∈ List.range (last policy timeoutMs attempts),
      (Run.mk (again policy timeoutMs attempts i)
        ((attempts i).within timeoutMs)).delays = [policy.delay i] := by
    intro i hi
    obtain ⟨failure, hw, -⟩ := isFinal_eq_false.1 (before i (List.mem_range.1 hi))
    simp only [again, hw]
    rfl
  simp only [Run.delays] at one ⊢
  rw [run_steps, List.filterMap_append, List.filterMap_flatMap, List.map_eq_flatMap,
    List.flatMap_congr one]
  exact List.append_nil _

end

/-- What the outcomes of attempts make of a run whose last attempt is `k`. -/
structure Course (policy : RetryPolicy) (timeoutMs : Nat) (attempts : Nat → Attempt α) (k : Nat)
    (r : Run α) : Prop where
  /-- The last attempt is one of those allowed. -/
  below : k < allowed policy
  /-- Each one before it failed so that another attempt may succeed. -/
  before : ∀ i < k, ∃ failure, (attempts i).within timeoutMs = .error failure
    ∧ failure.isRetryable = true
  /-- It did not, or no further one is allowed. -/
  ends : isFinal ((attempts k).within timeoutMs) = true ∨ k + 1 = allowed policy
  /-- The attempts are made in order, each of them once. -/
  attempted : r.attempted = List.range (k + 1)
  /-- The delays of the policy are waited for in order. -/
  delays : r.delays = (List.range k).map policy.delay
  /-- Every attempt but the last is followed by its delay, and the last by nothing. -/
  steps : r.steps = (List.range k).flatMap (again policy timeoutMs attempts) ++ [.attempt k]
  /-- The run comes to what its last attempt has answered, -/
  answered : (attempts k).afterMs ≤ timeoutMs → r.outcome = (attempts k).outcome
  /-- or to a timeout when it has not answered in time. -/
  unanswered : timeoutMs < (attempts k).afterMs → r.outcome = .error (.timeout timeoutMs)
  /-- The number of an attempt and the number after it fit 32 bits if the number of the attempts
  allowed does. -/
  counter : policy.maxAttempts < UInt32.size → ∀ i ∈ r.attempted, i + 1 < UInt32.size

/-- A run makes the attempts up to the first one that comes to a value or to a failure for good, or
all that are allowed, waits between them only, and comes to what the last one has come to. Failures
of transport and timeouts are those that another attempt may mend. -/
theorem run_course (policy : RetryPolicy) (timeoutMs : Nat) (attempts : Nat → Attempt α) :
    Course policy timeoutMs attempts (last policy timeoutMs attempts)
        (run policy timeoutMs attempts)
      ∧ ∀ failure : Failure, failure.isRetryable = true ↔
        (∃ message, failure = .transport message) ∨ ∃ ms, failure = .timeout ms := by
  obtain ⟨below, before, ends⟩ := last_spec policy timeoutMs attempts
  have houtcome := outcome_run policy timeoutMs attempts
  have hattempted := attempted_run policy timeoutMs attempts
  unfold Attempt.within at houtcome
  refine ⟨⟨below, fun i hi => isFinal_eq_false.1 (before i hi), ends, hattempted,
    delays_run policy timeoutMs attempts, by rw [run_steps], ?_, ?_, ?_⟩, ?_⟩
  · intro h
    rw [houtcome, if_neg (Nat.not_lt.2 h)]
  · intro h
    rw [houtcome, if_pos h]
  · intro hsize i hi
    rw [hattempted, List.mem_range] at hi
    unfold allowed at below
    have hone : 1 < UInt32.size := by decide
    omega
  · intro failure
    cases failure <;> simp [Failure.isRetryable]

/-- Two attempts take too long and the third does not. -/
example :
    last { maxAttempts := 5 } 50 (fun i => { afterMs := 100 - 30 * i, outcome := .ok i }) = 2 := by
  decide

end Toolwire.Retry
