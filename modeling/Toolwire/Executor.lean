import Toolwire.Execution.Http
import Toolwire.Execution.Queue
import Toolwire.Execution.Sql
import Toolwire.Text.Quoted
/-!
# Executors

An executor runs the bindings of one type. A registry keeps executors under their types;
registering a type again replaces its executor.
-/
namespace Toolwire

/-- What runs the bindings of a type. -/
inductive Executor where
  | http (client : Http.Client)
  | queue (adapters : Queue.Adapters)
  | sql (backend : Sql.Backend) (gate : Sql.Gate)
  /-- An executor for any type, known only by what its runs come to. -/
  | custom (type : String) (answers : Nat → Except Failure Outcome)

namespace Executor

/-- The type that an executor handles. -/
def type : Executor → String
  | .http _ => "http"
  | .queue _ => "queue"
  | .sql .. => "sql"
  | .custom type _ => type

/-- The problems that an executor of a type finds in a declaration. -/
def checkDeclaration (type : String) (raw : Json) : List String :=
  match (raw.get? "type").bind Json.asStr? with
  | some declared =>
    if declared != type then
      ["executor '" ++ type ++ "' cannot run binding type '" ++ declared ++ "'"]
    else (Binding.check raw .strict).errors
  | none => (Binding.check raw .strict).errors

/-- Runs a binding with arguments. -/
def execute (e : Executor) (b : Binding) (args : Members) (r : Resolver) : Trace Outcome :=
  match e, b.protocol with
  | .http client, .http h => Http.execute client b h args r
  | .queue adapters, .queue q => Queue.execute adapters b q args r
  | .sql backend gate, .sql q => Sql.execute backend gate b q args r
  | .custom _ answers, _ => do
    Trace.emit (.custom args)
    Trace.ofExcept (answers 0)
  | e, _ => Trace.fail (Failure.mismatched e.type b)

/-- Leaves out the first `n` answers. -/
def skip (n : Nat) (answers : Nat → α) : Nat → α := fun i => answers (i + n)

/-- How many events have a property. -/
def count (p : Event → Bool) (events : List Event) : Nat := (events.filter p).length

/-- The executor behind the calls among events: the answers that it gave are used up. -/
def after (e : Executor) (events : List Event) : Executor :=
  match e with
  | .http client =>
    let n := count (fun | .send r => r.isAcceptable | _ => false) events
    .http ⟨skip n client.send⟩
  | .queue adapters =>
    .queue (adapters.map fun (p, adapter) =>
      (p, skip (count (fun | .publish q _ _ => q == p | _ => false) events) adapter))
  | .sql backend gate =>
    let n := count (fun | .fetch .. | .write .. => true | _ => false) events
    .sql ⟨skip n backend.fetch, skip n backend.write⟩ gate
  | .custom type answers =>
    .custom type (skip (count (fun | .custom _ => true | _ => false) events) answers)

end Executor

/-- Executors under their types. -/
abbrev Registry := List (String × Executor)

namespace Registry

/-- The registry without executors. -/
def empty : Registry := []

/-- Puts an executor under its type. -/
def register (r : Registry) (e : Executor) : Registry := Members.insert r e.type e

/-- The executor of a type. -/
def get? (r : Registry) (type : String) : Option Executor := Members.get? r type

/-- The types that have an executor, sorted. -/
def types (r : Registry) : List String := Members.keys r

/-- Whether a type has an executor. -/
def has (r : Registry) (type : String) : Bool := Members.has r type

/-- The executor of a type, or the failure that there is none. -/
def get (r : Registry) (type : String) : Except Failure Executor :=
  match r.get? type with
  | some e => .ok e
  | none => .error (.noExecutor type r.types)

/-- The registry as diagnostics show it. -/
def describe (r : Registry) : String :=
  "ExecutorRegistry \x7b types: " ++ Text.quotedList r.types ++ " \x7d"

/-- The registry behind the calls among events. -/
def after (r : Registry) (events : List Event) : Registry :=
  r.map fun (type, e) => (type, e.after events)

end Registry
end Toolwire
