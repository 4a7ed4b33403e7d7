import Toolwire.Credential.Resolver
import Toolwire.Failure
import Toolwire.Json.Printer
/-!
# Templates

A template holds the names of arguments in braces and references to credentials. Both are
found in one pass and replaced, so what is put in is never scanned again. A string of a
JSON template that is nothing but an argument becomes the argument itself.
-/
namespace Toolwire.Template

open Text

/-- The text that an argument is put in as: a string itself, all else as JSON. -/
def textOf : Json → String
  | .str s => s
  | v => v.compress

/-- What a template refers to. -/
inductive Token where
  | credential (name : String)
  | argument (name : String)
  deriving DecidableEq, Repr

/-- Recognises a reference to a credential or an argument. -/
def recognizer : Recognizer Token := fun _ s =>
  match Reference.name? s with
  | some name => some (.credential (String.ofList name), name.length + 3)
  | none => (Reference.braced? s).map fun name =>
      (.argument (String.ofList name), name.length + 2)

/-- What is done with references to credentials. -/
inductive Credentials where
  /-- They are replaced by their values. -/
  | resolve (r : Resolver)
  /-- They stay as written. -/
  | redact

/-- The text that a credential is put in as. -/
def Credentials.substitute (c : Credentials) (name : String) : Except Failure String :=
  match c with
  | .resolve r =>
    match r.lookup name with
    | .ok value => .ok value
    | .error e => .error (.credential e)
  | .redact => .ok (Reference.spell name)

/-- The argument of a name. -/
def argument (args : Members) (name : String) : Except Failure Json :=
  match Members.get? args name with
  | some v => .ok v
  | none => .error (.invalidParameters ("missing argument '" ++ name ++ "' required by template"))

/-- The text that a token is replaced by. -/
def Token.text (args : Members) (credentials : Credentials) : Token → Except Failure String
  | .credential name => credentials.substitute name
  | .argument name => (Template.argument args name).map textOf

/-- The text of pieces with their tokens replaced, put behind what is `done`, which is in
reverse. -/
def renderPieces (args : Members) (credentials : Credentials) (done : List Char) :
    List (Piece Token) → Except Failure (List Char)
  | [] => .ok done.reverse
  | .char c :: rest => renderPieces args credentials (c :: done) rest
  | .found token :: rest =>
    match token.text args credentials with
    | .error e => .error e
    | .ok text => renderPieces args credentials (text.toList.reverse ++ done) rest

/-- A template with its tokens replaced. -/
def render (template : String) (args : Members) (credentials : Credentials) :
    Except Failure String :=
  (renderPieces args credentials [] (recognizer.cut template.toList)).map String.ofList

/-- The name of the argument that a text is nothing but. -/
def wholeArgument? (s : String) : Option String :=
  match Reference.braced? s.toList with
  | some name => if s.length = name.length + 2 then some (String.ofList name) else none
  | none => none

mutual

/-- A JSON template with its strings rendered. -/
def renderJson (args : Members) (credentials : Credentials) : Json → Except Failure Json
  | .str s =>
    match wholeArgument? s with
    | some name => argument args name
    | none => (render s args credentials).map .str
  | .arr items => (renderItems args credentials items).map .arr
  | .obj ms => (renderMembers args credentials ms).map .obj
  | v => .ok v

/-- Items with their strings rendered. -/
def renderItems (args : Members) (credentials : Credentials) :
    List Json → Except Failure (List Json)
  | [] => .ok []
  | x :: xs =>
    match renderJson args credentials x with
    | .error e => .error e
    | .ok y => (renderItems args credentials xs).map (y :: ·)

/-- Members with the strings in their values rendered. -/
def renderMembers (args : Members) (credentials : Credentials) :
    List (String × Json) → Except Failure (List (String × Json))
  | [] => .ok []
  | (k, x) :: ms =>
    match renderJson args credentials x with
    | .error e => .error e
    | .ok y => (renderMembers args credentials ms).map ((k, y) :: ·)

end

/-- Headers with their values rendered. -/
def renderHeaders (args : Members) (credentials : Credentials) :
    List (String × String) → Except Failure (List (String × String))
  | [] => .ok []
  | (name, value) :: rest =>
    match render value args credentials with
    | .error e => .error e
    | .ok text => (renderHeaders args credentials rest).map ((name, text) :: ·)

end Toolwire.Template
