import Toolwire.Settings
/-!
# Manifests

A manifest lists tools, each with a name, a description, a schema for its arguments and the
declaration of its binding. It is read from JSON5, and declarations stay untyped until they
are checked.
-/
namespace Toolwire

/-- The declaration of a tool. -/
structure ToolDeclaration where
  name : String := ""
  description : String := ""
  parameters : Json := .obj [("properties", .obj []), ("type", .str "object")]
  binding : Json := .null
  deriving Repr, Inhabited, BEq

/-- The tools of a manifest, in the order of the file. -/
structure Manifest where
  tools : List ToolDeclaration := []
  deriving Repr, Inhabited, BEq

/-- Why a manifest cannot be used. -/
inductive ManifestError where
  /-- The file cannot be read. -/
  | unreadable (reason : String)
  /-- The text does not follow the grammar. -/
  | malformed
  /-- A field is of the wrong type. -/
  | mistyped (e : ReadError)
  | tooLarge (max actual : Nat)
  | duplicateTool (name : String)
  | invalidTool (tool : String) (reason : ConfigurationError)
  | noExecutor (tool type : String) (available : List String)
  deriving DecidableEq, Repr

/-- The error in words. -/
def ManifestError.message : ManifestError → String
  | .unreadable reason => "IO error: " ++ reason
  | .malformed => "Parse error: " ++ malformedText
  | .mistyped e => "Parse error: " ++ e.message
  | .tooLarge max actual => s!"Manifest exceeds maximum size ({max} bytes, got {actual})"
  | .duplicateTool name => "Duplicate tool name: " ++ name
  | .invalidTool tool reason => "Tool '" ++ tool ++ "' is invalid: " ++ reason.message
  | .noExecutor tool type available =>
    "Tool '" ++ tool ++ "' uses binding type '" ++ type ++ "' but only ["
      ++ ", ".intercalate available ++ "] are registered"

namespace ToolDeclaration

/-- What errors call a declaration. -/
def typeName : String := "struct ToolDeclaration"

open Json5.Reader in
/-- Reads a declaration. -/
def read : Json5.Reader ToolDeclaration :=
  record typeName
    [requiredField "name" string fun t d => { d with name := t },
     field "description" string fun t d => { d with description := t },
     field "parameters" Json5.readAny fun v d => { d with parameters := v },
     requiredField "binding" Json5.readAny fun v d => { d with binding := v }] {}

open Json.Reader in
/-- Reads a declaration from a JSON value. -/
def readJson : Json.Reader ToolDeclaration
  | .obj ms => do
    let binding ← field? ms "binding" any
    let description ← field? ms "description" string
    let name ← field? ms "name" string
    let parameters ← field? ms "parameters" any
    match name, binding with
    | none, _ => .error (.missingField "name")
    | _, none => .error (.missingField "binding")
    | some name, some binding => return make name description parameters binding
  | .arr items => do
    let name ← item? items 0 string
    let some name := name | .error (tooShort 0)
    let description ← item? items 1 string
    let parameters ← item? items 2 any
    let binding ← item? items 3 any
    let some binding := binding | .error (tooShort 3)
    endItems .plain items 4
    return make name description parameters binding
  | v => Json.unexpected v typeName
where
  /-- The error of an array that lacks a required field. -/
  tooShort (index : Nat) : ReadError := .invalidLength index (typeName ++ " with 4 elements")
  /-- The declaration with the given fields and defaults for the others. -/
  make (name : String) (description : Option String) (parameters : Option Json)
      (binding : Json) : ToolDeclaration :=
    let base : ToolDeclaration := {}
    ⟨name, description.getD base.description, parameters.getD base.parameters, binding⟩

/-- A declaration as a JSON value. -/
def toJson (d : ToolDeclaration) : Json :=
  .ofPairs [("name", .str d.name), ("description", .str d.description),
    ("parameters", d.parameters), ("binding", d.binding)]

/-- The greatest size of a name, in bytes. -/
def maxNameSize : Nat := 64

/-- A character of a tool name. -/
def isNameChar (c : Char) : Bool := c.isAlphanum || c == '_' || c == '-'

/-- What is wrong with a tool name. -/
def nameProblem? (name : String) : Option String :=
  if name.isEmpty then some "tool name is empty"
  else if maxNameSize < name.utf8ByteSize || !name.toList.all isNameChar then
    some ("tool name '" ++ name
      ++ "' must be 1-64 characters of letters, digits, '_' or '-'")
  else none

/-- What is said of parameters that are no object. -/
def parametersProblem : String := "parameters must be a JSON Schema object"

end ToolDeclaration

namespace Manifest

open Json5.Reader in
/-- Reads a manifest. -/
def read : Json5.Reader Manifest :=
  record "struct ToolManifest"
    [field "tools" (list ToolDeclaration.read) fun ts m => { m with tools := ts }] {}

/-- A manifest as a JSON value. -/
def toJson (m : Manifest) : Json := .obj [("tools", .arr (m.tools.map (·.toJson)))]

/-- The greatest size of a manifest, in bytes. -/
def maxSize : Nat := 1024 * 1024

/-- The manifest in a text. -/
def parse (text : String) : Except ManifestError Manifest :=
  if maxSize < text.utf8ByteSize then .error (.tooLarge maxSize text.utf8ByteSize)
  else
    match Json5.parse text with
    | none => .error .malformed
    | some node =>
      match read node with
      | .ok m => .ok m
      | .error e => .error (.mistyped e)

/-- The manifest in the bytes of a file. -/
def ofBytes (bytes : ByteArray) : Except ManifestError Manifest :=
  match String.fromUTF8? bytes with
  | some text => parse text
  | none => .error (.unreadable Settings.notText)

/-- The declaration of a name; the first of several. -/
def find? (m : Manifest) (name : String) : Option ToolDeclaration :=
  m.tools.find? fun d => d.name == name

end Manifest
end Toolwire
