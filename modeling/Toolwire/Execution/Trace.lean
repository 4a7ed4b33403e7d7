import Toolwire.Http.Request
import Toolwire.Queue.Message
import Toolwire.Retry.Run
import Toolwire.Sql.Statement
/-!
# Traces

An execution is described by what it does to the outside, in order, and by what comes out.
Nothing else happens in it: the answers of the outside are given beforehand as functions of
the number of the call.
-/
namespace Toolwire

/-- How important a log entry is. -/
inductive Level where
  | info
  | warn
  | error
  deriving DecidableEq, Repr

/-- The name of a level. -/
def Level.name : Level → String
  | .info => "INFO"
  | .warn => "WARN"
  | .error => "ERROR"

/-- An entry of the log. -/
structure LogEntry where
  level : Level
  message : String
  fields : List (String × String) := []
  deriving DecidableEq, Repr

/-- What is done to the outside. -/
inductive Event where
  /-- A request is handed to the web client. -/
  | send (request : Http.Request)
  /-- A message is handed to the adapter of a provider. -/
  | publish (provider : Provider) (connection : String) (message : Queue.Message)
  /-- A read is handed to the database. -/
  | fetch (connection : String) (statement : Sql.Statement) (maxRows : Nat)
  /-- A write is handed to the database. -/
  | write (connection : String) (statement : Sql.Statement)
  /-- A write is put before the gate. -/
  | ask (statement : Sql.Statement) (shadow : Bool)
  /-- Arguments are handed to an executor of another kind. -/
  | custom (arguments : Members)
  /-- A delay in nanoseconds passes. -/
  | sleep (delay : Nat)
  /-- An entry is written to the log. -/
  | log (entry : LogEntry)
  deriving Repr, BEq

/-- Whether an event is a call of an outside system that a binding reaches. -/
def Event.isExternal : Event → Bool
  | .send _ | .publish .. | .fetch .. | .write .. => true
  | _ => false

/-- What an execution did, and what came out. -/
structure Trace (α : Type) where
  events : List Event
  outcome : Except Failure α

namespace Trace

/-- The trace that does nothing and gives a value. -/
def pure (a : α) : Trace α := ⟨[], .ok a⟩

/-- The trace that does nothing and fails. -/
def fail (f : Failure) : Trace α := ⟨[], .error f⟩

/-- The trace of one event. -/
def emit (e : Event) : Trace Unit := ⟨[e], .ok ()⟩

/-- A trace followed by another that depends on its value. -/
def bind (t : Trace α) (f : α → Trace β) : Trace β :=
  match t.outcome with
  | .ok a =>
    let next := f a
    ⟨t.events ++ next.events, next.outcome⟩
  | .error e => ⟨t.events, .error e⟩

/-- The trace that does nothing and has an outcome. -/
def ofExcept (r : Except Failure α) : Trace α := ⟨[], r⟩

/-- The trace of a credential that is looked up. -/
def ofCredential (r : Except CredentialError α) : Trace α :=
  match r with
  | .ok a => pure a
  | .error e => fail (.credential e)

instance : Monad Trace where
  pure := pure
  bind := bind

/-- The events of a step of a run whose attempts are all the same call. -/
def stepEvents (operation : String) (call : Event) : Retry.Step → List Event
  | .attempt _ => [call]
  | .retrying index delay failure =>
    [.log { level := .warn, message := "Attempt failed, retrying",
            fields := [("operation", operation), ("attempt", toString (index + 1)),
              ("delay_ms", toString (min (delay / 1000000) 0xFFFFFFFFFFFFFFFF)),
              ("error", failure.message)] }]
  | .wait delay => [.sleep delay]

/-- The trace of a run whose attempts are all the same call. -/
def ofRun (operation : String) (call : Event) (r : Retry.Run α) : Trace α :=
  ⟨r.steps.flatMap (stepEvents operation call), r.outcome⟩

/-- The trace of a call that is retried as a binding says. -/
def retried (b : Binding) (operation : String) (call : Event) (attempts : Nat → Attempt α) :
    Trace α :=
  ofRun operation call (Retry.run b.retry b.timeoutMs attempts)

end Trace
end Toolwire
