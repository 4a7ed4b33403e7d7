import Mathlib
import Toolwire.Proofs.Execution.Trace
/-!
# The calls of a run

A retried call is the same call over and over: it is made at least once, and what comes out
is what the last attempt has come to.
-/
namespace Toolwire

variable {α β : Type}

/-! ## Attempts -/

namespace Retry

variable {policy : RetryPolicy} {timeoutMs : Nat} {attempts : Nat → Attempt α}

theorem within_ok {a : Attempt α} {value : α} (h : a.within timeoutMs = .ok value) :
    a.outcome = .ok value := by
  unfold Attempt.within at h
  split at h
  · cases h
  · exact h

theorem run_head (policy : RetryPolicy) (timeoutMs : Nat) (attempts : Nat → Attempt α) :
    ∃ steps, (run policy timeoutMs attempts).steps = .attempt 0 :: steps := by
  unfold run
  cases policy.maxAttempts - 1 with
  | zero => exact ⟨[], rfl⟩
  | succ left =>
    unfold runFrom
    split
    · exact ⟨[], rfl⟩
    · split
      · exact ⟨_, rfl⟩
      · exact ⟨[], rfl⟩

end Retry

/-! ## Calls -/

namespace Trace

/-- The calls of outside systems in a trace, in order. -/
def calls (t : Trace α) : List Event := t.events.filter Event.isExternal

theorem mem_calls {t : Trace α} {e : Event} :
    e ∈ t.calls ↔ e ∈ t.events ∧ e.isExternal = true :=
  List.mem_filter

theorem eq_of_calls {t : Trace α} {n : Nat} {call e : Event} (h : t.calls = List.replicate n call)
    (he : e ∈ t.events) (hx : e.isExternal = true) : e = call := by
  have hmem : e ∈ t.calls := mem_calls.2 ⟨he, hx⟩
  rw [h] at hmem
  exact List.eq_of_mem_replicate hmem

theorem bind_of_ok {t : Trace α} {f : α → Trace β} {a : α} (h : t.outcome = .ok a) :
    t >>= f = ⟨t.events ++ (f a).events, (f a).outcome⟩ := by
  change Trace.bind t f = _
  simp only [Trace.bind, h]

theorem bind_of_error {t : Trace α} {f : α → Trace β} {e : Failure} (h : t.outcome = .error e) :
    t >>= f = ⟨t.events, .error e⟩ := by
  change Trace.bind t f = _
  simp only [Trace.bind, h]

/-- What is done with the value of a trace and leaves no events changes its outcome only. -/
theorem bind_ofExcept (t : Trace α) (f : α → Except Failure β) :
    (do
      let a ← t
      ofExcept (f a)) = ⟨t.events, t.outcome >>= f⟩ := by
  cases h : t.outcome with
  | error e =>
    rw [bind_of_error h]
    rfl
  | ok a => rw [bind_of_ok h, ofExcept, List.append_nil]; rfl

/-- What follows a trace comes behind its events. -/
theorem bind_extends (t : Trace α) (f : α → Trace β) :
    ∃ more outcome, t >>= f = ⟨t.events ++ more, outcome⟩ := by
  cases h : t.outcome with
  | error e => exact ⟨[], .error e, by rw [bind_of_error h, List.append_nil]⟩
  | ok a => exact ⟨_, _, bind_of_ok h⟩

/-- Between the calls of a run there are warnings and delays only. -/
theorem filter_ofRun {p : Event → Bool} (hlog : ∀ entry, p (.log entry) = false)
    (hsleep : ∀ delay, p (.sleep delay) = false) (operation : String) (call : Event)
    (run : Retry.Run α) :
    (ofRun operation call run).events.filter p =
      (List.replicate run.attempted.length call).filter p := by
  obtain ⟨steps, outcome⟩ := run
  simp only [ofRun, Retry.Run.attempted]
  -- Of the three kinds of steps an attempt alone leaves something.
  induction steps with
  | nil => rfl
  | cons step steps ih =>
    rw [List.flatMap_cons, List.filter_append, ih]
    cases step with
    | attempt index => exact (List.filter_append [call] _).symm
    | retrying index delay failure => simp [stepEvents, hlog]
    | wait delay => simp [stepEvents, hsleep]

theorem retried_head (b : Binding) (operation : String) (call : Event)
    (attempts : Nat → Attempt α) :
    ∃ more outcome, retried b operation call attempts = ⟨call :: more, outcome⟩ := by
  obtain ⟨steps, hs⟩ := Retry.run_head b.retry b.timeoutMs attempts
  refine ⟨steps.flatMap (stepEvents operation call),
    (Retry.run b.retry b.timeoutMs attempts).outcome, ?_⟩
  unfold retried ofRun
  rw [hs]
  rfl

/-- A retried call is made once for every attempt, and nothing else is called. -/
theorem calls_retried {call : Event} (hc : call.isExternal = true) (b : Binding)
    (operation : String) (attempts : Nat → Attempt α) :
    (retried b operation call attempts).calls =
      List.replicate (Retry.last b.retry b.timeoutMs attempts + 1) call := by
  unfold calls retried
  rw [filter_ofRun (fun _ => rfl) (fun _ => rfl), Retry.attempted_run, List.length_range,
    List.filter_replicate, if_pos hc]

/-- A retried call is made at least once and nothing else is called; the last time decides. -/
theorem retried_last {call : Event} (hc : call.isExternal = true) (b : Binding)
    (operation : String) (attempts : Nat → Attempt α) :
    ∃ n, (retried b operation call attempts).calls = List.replicate (n + 1) call
      ∧ (retried b operation call attempts).outcome = (attempts n).within b.timeoutMs :=
  ⟨Retry.last b.retry b.timeoutMs attempts, calls_retried hc b operation attempts,
    Retry.outcome_run b.retry b.timeoutMs attempts⟩

section
variable {connection : Except CredentialError String} {b : Binding} {operation : String}
  {call : String → Event} {attempts : Nat → Attempt α} {result : α → β}

/-- Without its connection a call is not made. -/
theorem connected_of_error {err : CredentialError} (h : connection = .error err) :
    (do
      let c ← ofCredential connection
      let a ← retried b operation (call c) attempts
      return result a) = fail (.credential err) := by
  rw [h]
  rfl

theorem connected_of_ok {c : String} (h : connection = .ok c) :
    (do
      let c ← ofCredential connection
      let a ← retried b operation (call c) attempts
      return result a) =
      ⟨(retried b operation (call c) attempts).events,
        (retried b operation (call c) attempts).outcome.map result⟩ := by
  rw [h]
  refine (bind_of_ok rfl).trans ?_
  exact (bind_ofExcept _ fun a => .ok (result a)).trans (congrArg _ (bind_pure_comp result _))

end

end Trace
end Toolwire
