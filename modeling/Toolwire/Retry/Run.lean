import Toolwire.Failure
/-!
# Retrying

An operation is tried until it gives a value, fails for a reason that another attempt will
not mend, or has been tried as often as the policy allows. The outcomes of the attempts are
given as a function, so a run is a pure trace: the attempts in order, and between two of
them a warning and a delay.
-/
namespace Toolwire

/-- What an attempt comes to after `afterMs` milliseconds. -/
structure Attempt (α : Type) where
  afterMs : Nat := 0
  outcome : Except Failure α

/-- The outcome of an attempt that is given up after `timeoutMs` milliseconds. -/
def Attempt.within (a : Attempt α) (timeoutMs : Nat) : Except Failure α :=
  if timeoutMs < a.afterMs then .error (.timeout timeoutMs) else a.outcome

/-- How long an attempt takes if it is given up after `timeoutMs` milliseconds. -/
def Attempt.duration (a : Attempt α) (timeoutMs : Nat) : Nat := min a.afterMs timeoutMs

namespace Retry

/-- What happens in a run. -/
inductive Step where
  /-- Attempt `index`, counted from zero, is made. -/
  | attempt (index : Nat)
  /-- Attempt `index` failed and another one follows after a delay in nanoseconds. -/
  | retrying (index : Nat) (delay : Nat) (failure : Failure)
  /-- The delay passes. -/
  | wait (delay : Nat)
  deriving DecidableEq, Repr

/-- A run: what happened in it, and what came out. -/
structure Run (α : Type) where
  steps : List Step
  outcome : Except Failure α

/-- Runs from attempt `index` on with `left` retries left. -/
def runFrom (policy : RetryPolicy) (timeoutMs : Nat) (attempts : Nat → Attempt α) (index : Nat) :
    Nat → Run α
  | 0 => ⟨[.attempt index], (attempts index).within timeoutMs⟩
  | left + 1 =>
    match (attempts index).within timeoutMs with
    | .ok value => ⟨[.attempt index], .ok value⟩
    | .error failure =>
      if failure.isRetryable then
        let delay := policy.delay index
        let rest := runFrom policy timeoutMs attempts (index + 1) left
        ⟨.attempt index :: .retrying index delay failure :: .wait delay :: rest.steps,
          rest.outcome⟩
      else ⟨[.attempt index], .error failure⟩

/-- Runs an operation under a policy. -/
def run (policy : RetryPolicy) (timeoutMs : Nat) (attempts : Nat → Attempt α) : Run α :=
  runFrom policy timeoutMs attempts 0 (policy.maxAttempts - 1)

/-- The attempts of a run. -/
def Run.attempted (r : Run α) : List Nat := r.steps.filterMap fun
  | .attempt index => some index
  | _ => none

/-- The delays of a run. -/
def Run.delays (r : Run α) : List Nat := r.steps.filterMap fun
  | .wait delay => some delay
  | _ => none

/-- A delay in whole milliseconds, not below it. -/
def wholeMs (delay : Nat) : Nat := (delay + 999999) / 1000000

/-- The milliseconds that the attempts of a run take. -/
def Run.attemptMs (r : Run α) (timeoutMs : Nat) (attempts : Nat → Attempt α) : Nat :=
  (r.attempted.map fun index => (attempts index).duration timeoutMs).foldl (· + ·) 0

end Retry
end Toolwire
