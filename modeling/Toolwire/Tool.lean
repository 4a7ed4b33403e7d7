import Toolwire.Executor
import Toolwire.Record.Basic
import Toolwire.Schema
/-!
# Tools

A tool runs one binding. An invocation passes the stages in order and ends at the first
that fails: the binding is checked once more, the arguments are checked against the schema,
every credential must resolve, the type must have an executor, and only then the executor
runs. Exactly one record is made of every invocation, and it has no part in the outcome.
-/
namespace Toolwire

/-- The stage of an invocation. -/
inductive Stage where
  | validating
  | resolving
  | dispatching
  | executing
  | recordingOnly
  | completed
  | failed
  deriving DecidableEq, Repr

/-- The name of a stage. -/
def Stage.name : Stage → String
  | .validating => "VALIDATING"
  | .resolving => "RESOLVING"
  | .dispatching => "DISPATCHING"
  | .executing => "EXECUTING"
  | .recordingOnly => "RECORDING_ONLY"
  | .completed => "COMPLETED"
  | .failed => "FAILED"

/-- A tool. -/
structure Tool where
  name : String
  description : String
  schema : Json
  binding : Binding
  /-- The most characters of a summary. -/
  summaryMax : Nat := 500
  validation : Validation := .strict
  deriving Repr, Inhabited

/-- What is told of a tool to its callers. -/
structure ToolDefinition where
  name : String
  description : String
  inputSchema : Json
  deriving Repr, BEq

/-- Where records go. -/
inductive Recorder where
  | none
  | memory
  /-- Every record is refused with a message. -/
  | failing (message : String)
  /-- Records are written to the audit log. -/
  | audit
  deriving DecidableEq, Repr

/-- What keeps records: what it holds behind a record, and why if it refuses the record. -/
abbrev Keeper (σ : Type) := σ → Record → σ × Except String Unit

/-- What recorders hold. -/
structure Books where
  /-- The records in memory, in the order in which they came. -/
  memory : List Record := []
  /-- The records in the audit log. -/
  audit : List Record := []

/-- The keeper that a recorder is. -/
def Recorder.keeper? : Recorder → Option (Keeper Books)
  | .none => Option.none
  | .memory => some fun books r => ({ books with memory := books.memory ++ [r] }, .ok ())
  | .failing message => some fun books _ => (books, .error message)
  | .audit => some fun books r => ({ books with audit := books.audit ++ [r] }, .ok ())

/-- An invocation: the stages it passed, what it did, and what came out. -/
structure Invocation where
  stages : List (Stage × String)
  events : List Event
  outcome : Except Failure Outcome

/-- When an invocation ended and how long it took. -/
structure Stamp where
  elapsedMs : Nat := 0
  timestamp : Timestamp := ⟨0, 0⟩

/-- What stands behind a text that was cut. -/
def truncationMark : String := "...[truncated]"

/-- The first `max` characters of a text, with a mark if there are more. -/
def truncate (text : String) (max : Nat) : String :=
  let s := text.toList
  match s.drop max with
  | [] => text
  | _ => String.ofList (s.take max ++ truncationMark.toList)

/-- The truncated compact text of a value. -/
def summarize (v : Json) (max : Nat) : String := truncate v.compress max

namespace Tool

/-- What is told of a tool. -/
def definition (t : Tool) : ToolDefinition := ⟨t.name, t.description, t.schema⟩

/-- Arguments as members; null counts as none. -/
def arguments : Json → Except Failure Members
  | .obj ms => .ok ms
  | .null => .ok []
  | _ => .error (.invalidParameters "arguments must be a JSON object")

/-- The check of the binding and the arguments. -/
def validate (t : Tool) (args : Json) : Except Failure Members := do
  let report := t.binding.report t.validation
  if !report.isValid then .error (.configuration ⟨report.errors⟩)
  else
    let ms ← arguments args
    match Schema.check (.obj ms) t.schema with
    | .ok () => .ok ms
    | .error e => .error (.invalidParameters e.message)

/-- The check that every credential of the binding resolves. -/
def resolve (t : Tool) (r : Resolver) : Except Failure Unit :=
  match r.ensure t.binding.credentialReferences with
  | .ok () => .ok ()
  | .error e => .error (.credential e)

/-- The stage in which the executor of a tool runs. -/
def runStage (t : Tool) : Stage :=
  if t.binding.isShadow && t.binding.isMutating then .recordingOnly else .executing

/-- The last stage of an invocation and its detail. -/
def lastStage (outcome : Except Failure Outcome) : Stage × String :=
  match outcome with
  | .ok o => (.completed, o.status.text)
  | .error f => (.failed, f.kind)

/-- The stages before the executor runs, and what they come to. -/
def prepare (t : Tool) (registry : Registry) (r : Resolver) (args : Json) :
    List (Stage × String) × Except Failure (Executor × Members) :=
  let one : List (Stage × String) := [(.validating, "")]
  match t.validate args with
  | .error e => (one, .error e)
  | .ok ms =>
    let two := one ++ [(.resolving, "")]
    match t.resolve r with
    | .error e => (two, .error e)
    | .ok () =>
      let three := two ++ [(.dispatching, t.binding.typeName)]
      match registry.get t.binding.typeName with
      | .error e => (three, .error e)
      | .ok executor => (three ++ [(t.runStage, "")], .ok (executor, ms))

/-- What the log says of a secret that lenient validation lets pass. -/
def findingEntry (finding : String) : LogEntry :=
  { level := .warn, message := "Possible secret in binding declaration",
    fields := [("finding", finding)] }

/-- What the check of the binding leaves in the log. -/
def checkEvents (t : Tool) : List Event :=
  (t.binding.report t.validation).warnings.map fun finding => .log (findingEntry finding)

/-- Invokes a tool. -/
def invoke (t : Tool) (registry : Registry) (r : Resolver) (args : Json) : Invocation :=
  match t.prepare registry r args with
  | (stages, .error e) => ⟨stages ++ [lastStage (.error e)], t.checkEvents, .error e⟩
  | (stages, .ok (executor, ms)) =>
    let trace := executor.execute t.binding ms r
    ⟨stages ++ [lastStage trace.outcome], t.checkEvents ++ trace.events, trace.outcome⟩

/-- The record of an invocation. -/
def record (t : Tool) (args : Json) (outcome : Except Failure Outcome) (stamp : Stamp) : Record :=
  match outcome with
  | .ok o =>
    { toolName := t.name, bindingType := t.binding.typeName, mode := t.binding.mode,
      parameters := args, resultSummary := summarize o.toJson t.summaryMax,
      resultStatus := some o.status.text, elapsedMs := stamp.elapsedMs,
      verdict := if o.isError then .error else .success,
      errorMessage := if o.isError then o.error.map (truncate · t.summaryMax) else none,
      timestamp := stamp.timestamp }
  | .error f =>
    let message := truncate f.message t.summaryMax
    { toolName := t.name, bindingType := t.binding.typeName, mode := t.binding.mode,
      parameters := args, resultSummary := message, elapsedMs := stamp.elapsedMs,
      verdict := .error, errorMessage := some message, timestamp := stamp.timestamp }

/-- What the log says of a record that is refused. -/
def refusalEntry (t : Tool) (reason : String) : LogEntry :=
  { level := .error, message := "Failed to record binding invocation",
    fields := [("tool", t.name), ("error", "Recorder failed: " ++ reason)] }

/-- Hands a record to a keeper, if there is one: what it holds then, and what is logged. -/
def file (t : Tool) (keeper : Option (Keeper σ)) (held : σ) (record : Record) :
    σ × List LogEntry :=
  match keeper with
  | none => (held, [])
  | some keep =>
    match keep held record with
    | (held, .ok ()) => (held, [])
    | (held, .error reason) => (held, [t.refusalEntry reason])

/-- What a recorder does with a record: what is logged, what is kept in memory, and what is
written to the audit log. -/
def deliver (t : Tool) (recorder : Recorder) (record : Record) :
    List LogEntry × List Record × List Record :=
  let (books, entries) := t.file recorder.keeper? {} record
  (entries, books.memory, books.audit)

end Tool
end Toolwire
