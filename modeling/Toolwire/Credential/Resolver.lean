import Toolwire.Credential.Error
import Toolwire.Json.Basic
import Toolwire.Secret.Finding
import Toolwire.Text.Quoted
/-!
# Resolving credentials

A name is looked up in explicit overrides, then in the environment, then in a store if
there is one; the first that knows the name answers. References in a text are replaced in
one pass, so a value is never scanned again.
-/
namespace Toolwire

/-- Where credentials are looked up: a value, nothing, or a failure of the source. -/
abbrev Source := String → Except CredentialError (Option String)

/-- A chain of sources. -/
structure Resolver where
  /-- Consulted first. -/
  overrides : List (String × String) := []
  /-- Consulted second. -/
  environment : Source := fun _ => .ok none
  /-- Consulted last. -/
  store : Option Source := none

/-- The source that a map is. -/
def Source.ofMap (values : List (String × String)) : Source := fun name =>
  .ok (values.lookup name)

/-- A map of credentials as diagnostics show it: names only. -/
def Source.describeMap (values : List (String × String)) : String :=
  "MapSource \x7b names: " ++ Text.quotedList (values.map (·.1)) ++ " \x7d"

namespace Resolver

/-- The sources in order. -/
def chain (r : Resolver) : List Source :=
  [Source.ofMap r.overrides, r.environment] ++ r.store.toList

/-- The answer of the first source that knows a name. -/
def firstOf (name : String) : List Source → Except CredentialError String
  | [] => .error (.unresolved name)
  | source :: rest =>
    match source name with
    | .error e => .error e
    | .ok (some value) => .ok value
    | .ok none => firstOf name rest

/-- The value of a name. -/
def lookup (r : Resolver) (name : String) : Except CredentialError String :=
  if Reference.isName name then firstOf name r.chain else .error (.invalidName name)

open Text in
/-- The text of pieces with references replaced by their values, put behind what is `done`,
which is in reverse. -/
def resolvePieces (r : Resolver) (done : List Char) :
    List (Piece String) → Except CredentialError (List Char)
  | [] => .ok done.reverse
  | .char c :: rest => resolvePieces r (c :: done) rest
  | .found name :: rest =>
    match r.lookup name with
    | .error e => .error e
    | .ok value => resolvePieces r (value.toList.reverse ++ done) rest

/-- A text with every reference replaced by its value. -/
def resolve (r : Resolver) (text : String) : Except CredentialError String :=
  (resolvePieces r [] (Reference.cut text.toList)).map String.ofList

mutual

/-- A value with every string in it resolved. -/
def resolveJson (r : Resolver) : Json → Except CredentialError Json
  | .str s => (r.resolve s).map .str
  | .arr items => (resolveItems r items).map .arr
  | .obj ms => (resolveMembers r ms).map .obj
  | v => .ok v

/-- Items with every string in them resolved. -/
def resolveItems (r : Resolver) : List Json → Except CredentialError (List Json)
  | [] => .ok []
  | x :: xs =>
    match resolveJson r x with
    | .error e => .error e
    | .ok y => (resolveItems r xs).map (y :: ·)

/-- Members with every string in their values resolved. -/
def resolveMembers (r : Resolver) :
    List (String × Json) → Except CredentialError (List (String × Json))
  | [] => .ok []
  | (k, x) :: ms =>
    match resolveJson r x with
    | .error e => .error e
    | .ok y => (resolveMembers r ms).map ((k, y) :: ·)

end

/-- The value of a credential field, which must have a reference and no secret written out. -/
def resolveCredential (r : Resolver) (field text : String) : Except CredentialError String :=
  if Reference.containedIn text then
    match Secret.detect text with
    | some finding => .error (.plaintextSecret field finding.describe)
    | none => r.resolve text
  else .error (.plaintextSecret field "value contains no $\x7bVAR\x7d reference")

/-- Checks that every name resolves. -/
def ensure (r : Resolver) : List String → Except CredentialError Unit
  | [] => .ok ()
  | name :: names =>
    match r.lookup name with
    | .error e => .error e
    | .ok _ => ensure r names

end Resolver
end Toolwire
