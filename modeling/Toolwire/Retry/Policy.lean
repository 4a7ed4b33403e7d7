import Toolwire.Json.Typed
/-!
# Retry policies

How often an operation is tried and how long to wait in between: the delay before retry
`n`, counted from zero, is `backoffMs * multiplier ^ n` milliseconds.
-/
namespace Toolwire

open Number

/-- How an operation is retried. -/
structure RetryPolicy where
  /-- Attempts in all; zero counts as one. -/
  maxAttempts : Nat := 3
  /-- The delay before the first retry, in milliseconds. -/
  backoffMs : Nat := 1000
  /-- The growth of the delay from one retry to the next. -/
  multiplier : Binary64 := .finite false 0x10000000000000 (-51)
  deriving DecidableEq, Repr, Inhabited

namespace RetryPolicy

/-- The policy that never retries. -/
def none : RetryPolicy := { maxAttempts := 1 }

/-- The longest delay, in nanoseconds. -/
def maxDelay : Nat := 0xFFFFFFFFFFFFFFFF * 1000000000 + 999999999

/-- Seconds as a delay in nanoseconds, rounded to the nearest with ties to even; the
longest delay for what is negative, too long or no number. -/
def delayOfSeconds : Binary64 → Nat
  | .finite negative m e =>
    if negative && m != 0 then maxDelay
    else if 0x10000000000000000 ≤ Binary64.magnitude m e then maxDelay
    else scaleTwo (m * 1000000000) e
  | _ => maxDelay

/-- The delay before retry `n`, in nanoseconds. -/
def delay (p : RetryPolicy) (n : Nat) : Nat :=
  let millis := (Binary64.ofNat p.backoffMs).mul (p.multiplier.powSquaring (min n 0x7FFFFFFF))
  delayOfSeconds (millis.div (.ofNat 1000))

/-- Whether a number is finite and at least one. -/
def isGrowth : Binary64 → Bool
  | .finite negative m e =>
    !negative && (if 0 ≤ e then 1 ≤ m else Nat.pow 2 (-e).toNat ≤ m)
  | _ => false

open Json Json.Reader

/-- What errors call a policy. -/
def typeName : String := "struct RetryConfig"

/-- Reads a policy; an absent field has its default. -/
def read : Reader RetryPolicy
  | .obj ms => do
    let backoff ← field? ms "backoff_ms" (unsigned 64 "u64")
    let growth ← field? ms "backoff_multiplier" binary64
    let attempts ← field? ms "max_attempts" (unsigned 32 "u32")
    let growth ← alias? ms "multiplier" "backoff_multiplier" binary64 growth
    return make attempts backoff growth
  | .arr items => do
    let attempts ← item? items 0 (unsigned 32 "u32")
    let backoff ← item? items 1 (unsigned 64 "u64")
    let growth ← item? items 2 binary64
    endItems .plain items 3
    return make attempts backoff growth
  | v => unexpected v typeName
where
  /-- The policy with the given fields and defaults for the others. -/
  make (attempts backoff : Option Nat) (growth : Option Binary64) : RetryPolicy :=
    let base : RetryPolicy := {}
    ⟨attempts.getD base.maxAttempts, backoff.getD base.backoffMs, growth.getD base.multiplier⟩

/-- A number as a JSON value; one that is not finite is null. -/
def numberJson (x : Binary64) : Json := if x.isFinite then .float x else .null

/-- A policy as a JSON value. -/
def toJson (p : RetryPolicy) : Json :=
  .obj [("backoff_ms", .ofNat p.backoffMs), ("backoff_multiplier", numberJson p.multiplier),
    ("max_attempts", .ofNat p.maxAttempts)]

end RetryPolicy
end Toolwire
