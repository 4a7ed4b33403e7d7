import Toolwire.Json.Typed
import Toolwire.Json5.Syntax
/-!
# Typed reading of JSON5

What the literals of a tree mean, and readers that turn a tree into typed values. The pairs
of a record are read in the order in which they stand, and the first fault wins. Fields that
nobody asks for are read all the same, so a literal without meaning is a fault anywhere.
-/
namespace Toolwire.Json5

open Number Text

/-- Why a number literal has no value. -/
inductive LiteralFault where
  | hexadecimal
  | integer
  | number
  | tooLarge
  deriving DecidableEq, Repr

/-- The fault in words. -/
def LiteralFault.message : LiteralFault → String
  | .hexadecimal => "error parsing hex"
  | .integer => "error parsing integer"
  | .number => "error parsing number"
  | .tooLarge => "error parsing number: too large"

/-- The fault as an error of reading. -/
def LiteralFault.error (f : LiteralFault) : ReadError := .custom f.message

/-- The digits of a hexadecimal literal without sign. -/
def hexDigits? : List Char → Option (List Char)
  | '0' :: x :: d :: rest => if x = 'x' || x = 'X' then some (d :: rest) else none
  | _ => none

/-- The value of hexadecimal digits, which must fit 32 bits. -/
def hexValue (digits : List Char) : Except LiteralFault Nat :=
  if hexNumber digits < 0x100000000 then .ok (hexNumber digits) else .error .hexadecimal

/-- Whether a literal is infinity or not a number, with no sign or a minus. -/
def isSpecial (literal : List Char) : Bool :=
  ["Infinity", "-Infinity", "NaN", "-NaN"].contains (String.ofList literal)

/-- Whether a literal is spelled as an integer. -/
def isInteger (literal : List Char) : Bool :=
  !literal.contains '.'
    && ((hexDigits? literal).isSome || !(literal.contains 'e' || literal.contains 'E'))
    && !isSpecial literal

/-- A sign at the head of a literal, and the rest. -/
def splitSign : List Char → Bool × List Char
  | '-' :: rest => (true, rest)
  | '+' :: rest => (false, rest)
  | s => (false, s)

/-- The value of a literal that is spelled as an integer; it must fit 64 bits. -/
def integerValue (literal : List Char) : Except LiteralFault Int :=
  match hexDigits? literal with
  | some digits => (hexValue digits).map Int.ofNat
  | none =>
    let (negative, body) := splitSign literal
    let magnitude := Nat.ofDigitChars 10 body 0
    let n : Int := if negative then -(magnitude : Int) else magnitude
    if body.isEmpty || !body.all Char.isDigit || n < -0x8000000000000000
        || 0x8000000000000000 ≤ n then .error .integer
    else .ok n

/-- The exponent of a decimal literal. -/
def exponentValue? : List Char → Option Int
  | [] => some 0
  | e :: rest =>
    let (negative, body) := splitSign rest
    let magnitude := Nat.ofDigitChars 10 body 0
    if (e = 'e' || e = 'E') && !body.isEmpty && body.all Char.isDigit then
      some (if negative then -(magnitude : Int) else magnitude)
    else none

/-- The number nearest to a decimal literal without sign. -/
def decimalValue? (negative : Bool) (body : List Char) : Option Binary64 :=
  let (whole, rest) := digits body
  let (fraction, rest) := match rest with
    | '.' :: rest => digits rest
    | _ => ([], rest)
  if whole.isEmpty && fraction.isEmpty then none
  else
    (exponentValue? rest).map fun exponent =>
      .ofDecimal negative (Nat.ofDigitChars 10 (whole ++ fraction) 0) (exponent - fraction.length)

/-- The value of a literal as a binary64 number. Infinity and NaN take no plus. -/
def numberValue (literal : List Char) : Except LiteralFault Binary64 :=
  match hexDigits? literal with
  | some digits => (hexValue digits).map .ofNat
  | none =>
    let (negative, body) := splitSign literal
    if isSpecial literal then
      .ok (if body = "NaN".toList then .nan else .infinite negative)
    else if body = "Infinity".toList || body = "NaN".toList then .error .tooLarge
    else
      match decimalValue? negative body with
      | none => .error .number
      | some x => if x.isFinite then .ok x else .error .tooLarge

/-- The value of a number literal: an integer if it is spelled as one. -/
def literalJson (literal : List Char) : Except ReadError Json :=
  if isInteger literal then
    match integerValue literal with
    | .ok n => .ok (.int n)
    | .error f => .error f.error
  else
    match numberValue literal with
    | .ok x => .ok (if x.isFinite then .float x else .null)
    | .error f => .error f.error

/-- The text of a string or of a key. -/
def textValue (t : Except String String) : Except ReadError String :=
  match t with
  | .ok s => .ok s
  | .error message => .error (.custom message)

/-- Reads a tree as a typed value. -/
abbrev Reader (α : Type) := Node → Except ReadError α

mutual

/-- Reads a tree as the JSON value it stands for; infinity and NaN become null. -/
def readAny : Node → Except ReadError Json
  | .null => .ok .null
  | .bool b => .ok (.bool b)
  | .number literal => literalJson literal
  | .string t => (textValue t).map .str
  | .array items => (readAnyItems items).map .arr
  | .object pairs => (readAnyPairs [] pairs).map .obj

/-- Reads items as JSON values. -/
def readAnyItems : List Node → Except ReadError (List Json)
  | [] => .ok []
  | x :: xs =>
    match readAny x with
    | .error e => .error e
    | .ok v => (readAnyItems xs).map (v :: ·)

/-- Reads pairs as members; the last value of a repeated key stays. -/
def readAnyPairs (done : Members) :
    List (Except String String × Node) → Except ReadError Members
  | [] => .ok done
  | (key, x) :: rest =>
    match textValue key with
    | .error e => .error e
    | .ok key =>
      match readAny x with
      | .error e => .error e
      | .ok v => readAnyPairs (Members.insert done key v) rest

end

/-- What a tree is, for an error. -/
def describe : Node → Except ReadError String
  | .null => .ok "unit value"
  | .bool b => .ok ("boolean `" ++ (if b then "true" else "false") ++ "`")
  | .number literal =>
    if isInteger literal then
      match integerValue literal with
      | .ok n => .ok ("integer `" ++ toString n ++ "`")
      | .error f => .error f.error
    else
      match numberValue literal with
      | .ok x => .ok ("floating point `" ++ x.plainText ++ "`")
      | .error f => .error f.error
  | .string t => (textValue t).map fun s => "string " ++ Text.quoted s
  | .array _ => .ok "sequence"
  | .object _ => .ok "map"

/-- The error that a tree is none of the expected. -/
def unexpected (node : Node) (expected : String) : Except ReadError α :=
  match describe node with
  | .ok found => .error (.invalidType found expected)
  | .error e => .error e

namespace Reader

/-- Reads a string, called by a name in errors. -/
def stringAs (expected : String) : Reader String
  | .string t => textValue t
  | node => unexpected node expected

/-- Reads a string. -/
def string : Reader String := stringAs "a string"

/-- Reads a truth value. -/
def bool : Reader Bool
  | .bool b => .ok b
  | node => unexpected node "a boolean"

/-- Reads any number as a natural number: its integer part, clamped to 64 bits. -/
def natural : Reader Nat
  | .number literal =>
    match numberValue literal with
    | .ok x => .ok (x.toNatSaturating 0xFFFFFFFFFFFFFFFF)
    | .error f => .error f.error
  | _ => .error LiteralFault.number.error

/-- Reads null as nothing, all else by a reader. -/
def option (r : Reader α) : Reader (Option α)
  | .null => .ok none
  | node => (r node).map some

/-- Reads one of the named variants, given as its name or as the first key of an object. -/
def variant (variants : List (String × α)) : Reader α := fun node =>
  let pick (name : Except String String) : Except ReadError α :=
    match textValue name with
    | .error e => .error e
    | .ok name =>
      match variants.lookup name with
      | some a => .ok a
      | none => .error (.unknownVariant name (variants.map (·.1)))
  match node with
  | .string name => pick name
  | .object ((name, _) :: _) => pick name
  | .object [] => .error (.custom "expected a nonempty object")
  | _ => .error (.custom "expected a string or an object")

/-- Reads every item by a reader, in order. -/
def eachItem (r : Reader α) : List Node → Except ReadError (List α)
  | [] => .ok []
  | x :: xs =>
    match r x with
    | .error e => .error e
    | .ok a => (eachItem r xs).map (a :: ·)

/-- Reads a list. -/
def list (r : Reader α) : Reader (List α)
  | .array items => eachItem r items
  | node => unexpected node "a sequence"

/-- A field of a record: its name, whether it must be there, and how it is set. -/
structure Field (σ : Type) where
  name : String
  required : Bool := false
  set : Node → σ → Except ReadError σ

/-- A field that is read by a reader. -/
def field (name : String) (r : Reader α) (put : α → σ → σ) : Field σ :=
  { name := name, set := fun node s => (r node).map fun a => put a s }

/-- A field that is read by a reader and must be there. -/
def requiredField (name : String) (r : Reader α) (put : α → σ → σ) : Field σ :=
  { field name r put with required := true }

/-- Reads pairs into a record; `seen` holds the names of the fields that are set. -/
def readPairs (fields : List (Field σ)) (seen : List String) (s : σ) :
    List (Except String String × Node) → Except ReadError σ
  | [] =>
    match fields.find? fun f => f.required && !seen.contains f.name with
    | some f => .error (.missingField f.name)
    | none => .ok s
  | (key, x) :: rest =>
    match textValue key with
    | .error e => .error e
    | .ok key =>
      match fields.find? fun f => f.name == key with
      | some f =>
        if seen.contains key then .error (.duplicateField key)
        else
          match f.set x s with
          | .error e => .error e
          | .ok s => readPairs fields (key :: seen) s rest
      | none =>
        match readAny x with
        | .error e => .error e
        | .ok _ => readPairs fields seen s rest

/-- Reads items into the fields of a record, in order. Items beyond the fields are left. -/
def readFields (expected : String) (index : Nat) (s : σ) :
    List (Field σ) → List Node → Except ReadError σ
  | [], _ => .ok s
  | f :: fields, [] =>
    if f.required then .error (.invalidLength index expected)
    else readFields expected (index + 1) s fields []
  | f :: fields, x :: xs =>
    match f.set x s with
    | .error e => .error e
    | .ok s => readFields expected (index + 1) s fields xs

/-- Reads a record with defaults; it may be given as an array of its fields. -/
def record (typeName : String) (fields : List (Field σ)) (defaults : σ) : Reader σ
  | .object pairs => readPairs fields [] defaults pairs
  | .array items =>
    readFields (typeName ++ " with " ++ toString fields.length ++ " elements") 0 defaults fields
      items
  | node => unexpected node typeName

end Reader
end Toolwire.Json5
