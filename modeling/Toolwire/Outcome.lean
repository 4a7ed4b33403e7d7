import Toolwire.Json.Typed
/-!
# Outcomes

What an execution gives back: a status, perhaps data, an error text and a status code, a
mark when a side effect was intercepted, and further fields of the protocol. Outcomes are
written as one flat object in which the fixed fields win over further ones of their names.
-/
namespace Toolwire

open Json Json.Reader

/-- How an execution ended. -/
inductive Status where
  | success
  | error
  | label (text : String)
  deriving DecidableEq, Repr, Inhabited

namespace Status

/-- The text of a status. -/
def text : Status → String
  | .success => "success"
  | .error => "error"
  | .label t => t

/-- The status of a text. -/
def ofText (s : String) : Status :=
  if s = "success" then .success else if s = "error" then .error else .label s

end Status

/-- What an execution gives back. -/
structure Outcome where
  status : Status
  data : Option Json := none
  error : Option String := none
  statusCode : Option Nat := none
  /-- A side effect was intercepted. -/
  shadow : Bool := false
  /-- Further fields, sorted by name. -/
  extras : List (String × Json) := []
  deriving Repr, Inhabited, BEq

namespace Outcome

/-- A success with data. -/
def success (data : Json) : Outcome := { status := .success, data := some data }

/-- A failure with a text. -/
def failure (error : String) : Outcome := { status := .error, error := some error }

/-- An intercepted side effect. -/
def intercepted : Outcome := { status := .success, shadow := true }

/-- Adds a further field. -/
def withExtra (o : Outcome) (key : String) (value : Json) : Outcome :=
  { o with extras := Members.insert o.extras key value }

/-- Whether the status is an error. -/
def isError (o : Outcome) : Bool := o.status == .error

/-- The fixed fields that are present. -/
def fixedFields (o : Outcome) : List (String × Json) :=
  [("status", .str o.status.text)]
    ++ (o.data.map fun d => ("data", d)).toList
    ++ (o.error.map fun e => ("error", .str e)).toList
    ++ (o.statusCode.map fun c => ("status_code", .ofNat c)).toList
    ++ (if o.shadow then [("_shadow", .bool true)] else [])

/-- The flat object of an outcome; a fixed field wins over a further one of its name. -/
def toJson (o : Outcome) : Json := .ofPairs (o.extras ++ o.fixedFields)

/-- The object that a serializer writes; a further field wins over a fixed one of its name. -/
def serialized (o : Outcome) : Json := .ofPairs (o.fixedFields ++ o.extras)

/-- The names of the fixed fields. -/
def fixedNames : List String := ["_shadow", "data", "error", "status", "status_code"]

/-- Reads an outcome; what is no fixed field is a further one. -/
def read : Reader Outcome
  | .obj ms => do
    let shadow ← field? ms "_shadow" Reader.bool
    let data ← field? ms "data" (option Reader.any)
    let error ← field? ms "error" (option Reader.string)
    let status ← field? ms "status" Reader.string
    let code ← field? ms "status_code" (option (unsigned 16 "u16"))
    match status with
    | none => .error (.missingField "status")
    | some status =>
      return { status := .ofText status, data := data.join, error := error.join,
               statusCode := code.join, shadow := shadow.getD false,
               extras := ms.filter fun m => !fixedNames.contains m.1 }
  | v => unexpected v "struct ExecutionResult"

end Outcome
end Toolwire
