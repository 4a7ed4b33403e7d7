import Toolwire.Json.Basic
import Toolwire.Number.Shortest
import Toolwire.Text.Quoted
/-!
# Typed reading of JSON values

Readers turn a value into a typed one or say what was found and what was expected. The
fields of a record are read in the order of their keys, and the first fault wins. A record
may also be given as an array of its fields in declaration order. Inside a *tagged*
section, one whose type is chosen by a field of it, two things differ: how an array that
is too long is reported, and that a variant may carry an empty object.
-/
namespace Toolwire

/-- Why a value is not of the type that is read. -/
inductive ReadError where
  | invalidType (found expected : String)
  | invalidValue (found expected : String)
  | invalidLength (length : Nat) (expected : String)
  | unknownVariant (name : String) (expected : List String)
  | missingField (name : String)
  | duplicateField (name : String)
  | custom (message : String)
  deriving DecidableEq, Repr

/-- A list of alternatives in words. -/
def alternatives : List String → String
  | [] => "nothing"
  | [a] => "`" ++ a ++ "`"
  | [a, b] => "`" ++ a ++ "` or `" ++ b ++ "`"
  | names => "one of " ++ ", ".intercalate (names.map fun n => "`" ++ n ++ "`")

/-- The error in words. -/
def ReadError.message : ReadError → String
  | .invalidType found expected => "invalid type: " ++ found ++ ", expected " ++ expected
  | .invalidValue found expected => "invalid value: " ++ found ++ ", expected " ++ expected
  | .invalidLength length expected => s!"invalid length {length}, expected " ++ expected
  | .unknownVariant name expected =>
    "unknown variant `" ++ name ++ "`, expected " ++ alternatives expected
  | .missingField name => "missing field `" ++ name ++ "`"
  | .duplicateField name => "duplicate field `" ++ name ++ "`"
  | .custom message => message

namespace Json

/-- What a value is, for an error. -/
def describe : Json → String
  | .null => "null"
  | .bool b => "boolean `" ++ (if b then "true" else "false") ++ "`"
  | .int n => "integer `" ++ toString n ++ "`"
  | .float x => "floating point `" ++ x.text ++ "`"
  | .str s => "string " ++ Text.quoted s
  | .arr _ => "sequence"
  | .obj _ => "map"

/-- Reads a value as a typed one. -/
abbrev Reader (α : Type) := Json → Except ReadError α

/-- The error that a value is none of the expected. -/
def unexpected (v : Json) (expected : String) : Except ReadError α :=
  .error (.invalidType v.describe expected)

namespace Reader

/-- Reads a string. -/
def string : Reader String
  | .str s => .ok s
  | v => unexpected v "a string"

/-- Reads a truth value. -/
def bool : Reader Bool
  | .bool b => .ok b
  | v => unexpected v "a boolean"

/-- Reads an unsigned integer of a width, called by its type name in errors. -/
def unsigned (bits : Nat) (name : String) : Reader Nat
  | .int n =>
    if 0 ≤ n && n < Nat.pow 2 bits then .ok n.toNat
    else .error (.invalidValue (describe (.int n)) name)
  | v => unexpected v name

/-- Reads a binary64 number; an integer is rounded to one. -/
def binary64 : Reader Number.Binary64
  | .int n => .ok (.ofInt n)
  | .float x => .ok x
  | v => unexpected v "f64"

/-- Reads any value as itself. -/
def any : Reader Json := .ok

/-- Reads null as nothing, all else by a reader. -/
def option (r : Reader α) : Reader (Option α)
  | .null => .ok none
  | v => (r v).map some

/-- Reads every member by a reader, in order. -/
def eachMember (r : Reader α) : List (String × Json) → Except ReadError (List (String × α))
  | [] => .ok []
  | (k, v) :: rest =>
    match r v with
    | .error e => .error e
    | .ok a =>
      match eachMember r rest with
      | .error e => .error e
      | .ok as => .ok ((k, a) :: as)

/-- Reads an object all of whose values are read by one reader. -/
def mapOf (r : Reader α) : Reader (List (String × α))
  | .obj ms => eachMember r ms
  | v => unexpected v "a map"

/-- Where a record or variant stands. -/
inductive Section where
  | plain
  | tagged
  deriving DecidableEq, Repr

/-- Reads the value of a variant that carries none. -/
def unit (place : Section) : Reader Unit
  | .null => .ok ()
  | .obj [] => if place = .tagged then .ok () else unexpected (.obj []) "unit"
  | v => unexpected v "unit"

/-- Reads one of the named variants, given as its name or as an object of one member. -/
def variant (place : Section) (variants : List (String × α)) : Reader α := fun v =>
  let pick (name : String) : Except ReadError α :=
    match variants.lookup name with
    | some a => .ok a
    | none => .error (.unknownVariant name (variants.map (·.1)))
  match v with
  | .str name => pick name
  | .obj [(name, value)] =>
    match pick name with
    | .error e => .error e
    | .ok a => (unit place value).map fun _ => a
  | .obj _ => .error (.invalidValue "map" "map with a single key")
  | v => unexpected v "string or map"

/-- Reads the member under a key if there is one. -/
def field? (ms : Members) (key : String) (r : Reader α) : Except ReadError (Option α) :=
  match Members.get? ms key with
  | none => .ok none
  | some v => (r v).map some

/-- Reads the member under a second name of a field that may have been read already. -/
def alias? (ms : Members) (key field : String) (r : Reader α) (first : Option α) :
    Except ReadError (Option α) :=
  match Members.get? ms key with
  | none => .ok first
  | some v => if first.isSome then .error (.duplicateField field) else (r v).map some

/-- Reads the next item of an array if there is one. -/
def item? (items : List Json) (index : Nat) (r : Reader α) : Except ReadError (Option α) :=
  match items[index]? with
  | none => .ok none
  | some v => (r v).map some

/-- Refuses an array of more than `count` fields. -/
def endItems (place : Section) (items : List Json) (count : Nat) : Except ReadError Unit :=
  if items.length ≤ count then .ok ()
  else
    match place with
    | .plain => .error (.invalidLength items.length "fewer elements in array")
    | .tagged =>
      .error (.invalidLength items.length
        (if count = 1 then "1 element in sequence" else s!"{count} elements in sequence"))

end Reader
end Json
end Toolwire
