import Toolwire.Json.Printer
/-!
# Tool arguments against their schema

Arguments are limited in size and depth and are checked against the part of JSON Schema
that tools use: `type`, `required` and the types of `properties`. Every other keyword is
ignored, and a property whose value is null counts as absent.
-/
namespace Toolwire

/-- Why arguments are refused. -/
inductive ArgumentError where
  | tooLong (max actual : Nat)
  | tooDeep (max : Nat)
  | missing (field : String)
  | unexpected (at_ : String) (expected : String)
  deriving DecidableEq, Repr

/-- The refusal in words. -/
def ArgumentError.message : ArgumentError → String
  | .tooLong max actual =>
    s!"Input exceeds maximum length ({max} bytes, got {actual})"
  | .tooDeep max =>
    s!"Input failed schema validation: JSON nesting depth exceeds maximum ({max})"
  | .missing field => "Input failed schema validation: Missing required field: " ++ field
  | .unexpected at_ expected =>
    "Input failed schema validation: " ++ at_ ++ ": expected " ++ expected

namespace Schema

/-- The greatest size of arguments, in bytes of compact text. -/
def maxSize : Nat := 1024 * 1024

/-- The greatest number of containers around a value. -/
def maxDepth : Nat := 32

mutual

/-- Refuses a value at a depth if any value in it lies deeper than `max`. -/
def checkDepth (max depth : Nat) : Json → Except ArgumentError Unit
  | .arr items => if max < depth then .error (.tooDeep max) else checkDepthItems max (depth + 1) items
  | .obj ms => if max < depth then .error (.tooDeep max) else checkDepthMembers max (depth + 1) ms
  | _ => if max < depth then .error (.tooDeep max) else .ok ()

/-- Checks the depth of every item. -/
def checkDepthItems (max depth : Nat) : List Json → Except ArgumentError Unit
  | [] => .ok ()
  | x :: xs =>
    match checkDepth max depth x with
    | .ok () => checkDepthItems max depth xs
    | .error e => .error e

/-- Checks the depth of every member. -/
def checkDepthMembers (max depth : Nat) : List (String × Json) → Except ArgumentError Unit
  | [] => .ok ()
  | (_, x) :: ms =>
    match checkDepth max depth x with
    | .ok () => checkDepthMembers max depth ms
    | .error e => .error e

end

/-- The first required name that the members lack. -/
def missing? (ms : Members) (required : List Json) : Option String :=
  (required.filterMap Json.asStr?).find? fun name => !Members.has ms name

/-- Whether a value has the kind that a type name asks for; a name that is no type asks
for nothing. -/
def hasType (type : String) : Json → Bool
  | .arr _ => !(["object", "string", "integer", "number", "boolean"].contains type)
  | .str _ => !(["object", "array", "integer", "number", "boolean"].contains type)
  | .int _ => !(["object", "array", "string", "boolean"].contains type)
  | .float _ => !(["object", "array", "string", "integer", "boolean"].contains type)
  | .bool _ => !(["object", "array", "string", "integer", "number"].contains type)
  | .obj _ => !(["array", "string", "integer", "number", "boolean"].contains type)
  | .null => !(["object", "array", "string", "integer", "number", "boolean"].contains type)

/-- The names that a schema requires. -/
def required (schema : Json) : List Json := ((schema.get? "required").bind Json.asArr?).getD []

mutual

/-- Checks a value that is reported under the name `at_`. -/
def checkValue (at_ : String) (value : Json) : Json → Except ArgumentError Unit
  | .obj keywords =>
    match (Members.get? keywords "type").bind Json.asStr? with
    | none => .ok ()
    | some type =>
      if !hasType type value then .error (.unexpected at_ type)
      else if type = "object" then
        match value with
        | .obj ms =>
          match missing? ms (required (.obj keywords)) with
          | some field => .error (.missing field)
          | none => checkProperties ms keywords
        | _ => .ok ()
      else .ok ()
  | _ => .ok ()

/-- Checks members against the properties among the keywords of a schema. -/
def checkProperties (ms : Members) : List (String × Json) → Except ArgumentError Unit
  | [] => .ok ()
  | (keyword, v) :: rest =>
    if keyword = "properties" then
      match v with
      | .obj properties => checkEach ms properties
      | _ => .ok ()
    else checkProperties ms rest

/-- Checks members against properties, in the order of the properties. -/
def checkEach (ms : Members) : List (String × Json) → Except ArgumentError Unit
  | [] => .ok ()
  | (name, schema) :: rest =>
    match Members.get? ms name with
    | none | some .null => checkEach ms rest
    | some value =>
      match checkValue name value schema with
      | .ok () => checkEach ms rest
      | .error e => .error e

end

/-- Checks the arguments of a tool against its schema. -/
def check (arguments schema : Json) : Except ArgumentError Unit :=
  let size := arguments.compress.utf8ByteSize
  if maxSize < size then .error (.tooLong maxSize size)
  else
    match checkDepth maxDepth 0 arguments with
    | .error e => .error e
    | .ok () => checkValue "arguments" arguments schema

end Schema
end Toolwire
