import Toolwire.Binding.Encoding
import Toolwire.Record.Timestamp
/-!
# Invocation records

What is kept of an invocation: the tool, its binding, the arguments as received, a summary
of the result or the error, and when it happened.
-/
namespace Toolwire

open Json Json.Reader

/-- Whether an invocation gave a result that is no error. -/
inductive Verdict where
  | success
  | error
  deriving DecidableEq, Repr, Inhabited

/-- The name of a verdict. -/
def Verdict.name : Verdict → String
  | .success => "success"
  | .error => "error"

/-- The record of one invocation. -/
structure Record where
  toolName : String
  bindingType : String
  mode : Mode
  parameters : Json
  resultSummary : String
  resultStatus : Option String := none
  elapsedMs : Nat
  verdict : Verdict
  errorMessage : Option String := none
  timestamp : Timestamp
  deriving Repr, Inhabited, BEq

namespace Record

/-- The verdicts by name. -/
def verdicts : List (String × Verdict) := [("success", .success), ("error", .error)]

/-- Reads a timestamp. -/
def readTimestamp : Reader Timestamp
  | .str s =>
    match Timestamp.parse s with
    | .ok t => .ok t
    | .error e => .error (.custom e.message)
  | v => unexpected v "an RFC 3339 formatted date and time string"

/-- A field that must be there. -/
def require (name : String) (value : Option α) : Except ReadError α :=
  match value with
  | some a => .ok a
  | none => .error (.missingField name)

/-- An item that must be there. -/
def requireItem (index : Nat) (value : Option α) : Except ReadError α :=
  match value with
  | some a => .ok a
  | none => .error (.invalidLength index "struct InvocationRecord with 10 elements")

/-- Reads a record. -/
def read : Reader Record
  | .obj ms => do
    let bindingType ← field? ms "binding_type" Reader.string
    let elapsed ← field? ms "elapsed_ms" (unsigned 64 "u64")
    let errorMessage ← field? ms "error_message" (option Reader.string)
    let mode ← field? ms "mode" (variant .plain Binding.modes)
    let parameters ← field? ms "parameters" Reader.any
    let resultStatus ← field? ms "result_status" (option Reader.string)
    let summary ← field? ms "result_summary" Reader.string
    let verdict ← field? ms "status" (variant .plain verdicts)
    let timestamp ← field? ms "timestamp" readTimestamp
    let toolName ← field? ms "tool_name" Reader.string
    return {
      toolName := ← require "tool_name" toolName
      bindingType := ← require "binding_type" bindingType
      mode := ← require "mode" mode
      parameters := ← require "parameters" parameters
      resultSummary := ← require "result_summary" summary
      resultStatus := resultStatus.join
      elapsedMs := ← require "elapsed_ms" elapsed
      verdict := ← require "status" verdict
      errorMessage := errorMessage.join
      timestamp := ← require "timestamp" timestamp }
  | .arr items => do
    let toolName ← requireItem 0 (← item? items 0 Reader.string)
    let bindingType ← requireItem 1 (← item? items 1 Reader.string)
    let mode ← requireItem 2 (← item? items 2 (variant .plain Binding.modes))
    let parameters ← requireItem 3 (← item? items 3 Reader.any)
    let summary ← requireItem 4 (← item? items 4 Reader.string)
    let resultStatus ← item? items 5 (option Reader.string)
    let elapsed ← requireItem 6 (← item? items 6 (unsigned 64 "u64"))
    let verdict ← requireItem 7 (← item? items 7 (variant .plain verdicts))
    let errorMessage ← item? items 8 (option Reader.string)
    let timestamp ← requireItem 9 (← item? items 9 readTimestamp)
    endItems .plain items 10
    return ⟨toolName, bindingType, mode, parameters, summary, resultStatus.join, elapsed,
      verdict, errorMessage.join, timestamp⟩
  | v => unexpected v "struct InvocationRecord"

/-- The fields of a record in the order in which they are written. -/
def fields (r : Record) : List (String × Json) :=
  [("tool_name", .str r.toolName), ("binding_type", .str r.bindingType),
    ("mode", .str r.mode.name), ("parameters", r.parameters),
    ("result_summary", .str r.resultSummary)]
    ++ (r.resultStatus.map fun s => ("result_status", .str s)).toList
    ++ [("elapsed_ms", .ofNat r.elapsedMs), ("status", .str r.verdict.name)]
    ++ (r.errorMessage.map fun m => ("error_message", .str m)).toList
    ++ [("timestamp", .str r.timestamp.text)]

/-- A record as a JSON value. -/
def toJson (r : Record) : Json := .ofPairs r.fields

end Record
end Toolwire
