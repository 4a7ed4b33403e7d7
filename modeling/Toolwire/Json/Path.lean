import Toolwire.Json.Basic
import Toolwire.Text.Blank
/-!
# Paths into JSON values

A path is a sequence of steps, each the key of an object or an index into an array, written
with dots between and indexes either as digits or in brackets behind the step before. A
leading `$` stands for the whole value. A step that reads as an index also matches the
key of an object.
-/
namespace Toolwire.Json

open Text

/-- A step of a path. -/
inductive Step where
  | field (name : String)
  | index (n : Nat)
  deriving DecidableEq, Repr

namespace Path

/-- The parts of a text, each with the terminator that ends it. -/
def splitInclusive (terminator : Char) : List Char → List (List Char)
  | [] => []
  | c :: rest =>
    if c = terminator then [c] :: splitInclusive terminator rest
    else
      match splitInclusive terminator rest with
      | [] => [[c]]
      | part :: parts => (c :: part) :: parts

/-- An index below `2 ^ 64`: an optional plus sign and digits. -/
def index? (s : List Char) : Option Nat :=
  let digits := match s with
    | '+' :: rest => rest
    | _ => s
  if digits.isEmpty || !digits.all Char.isDigit then none
  else
    let n := Nat.ofDigitChars 10 digits 0
    if n < 0x10000000000000000 then some n else none

/-- The index in a pair of brackets. -/
def bracket? (s : List Char) : Option Step :=
  match s with
  | '[' :: rest =>
    if rest.getLast? = some ']' then (index? rest.dropLast).map .index else none
  | _ => none

/-- The steps that a part without dots spells. -/
def partSteps (part : List Char) : Option (List Step) :=
  if part.isEmpty then none
  else
    let name := part.takeWhile (· != '[')
    let brackets := part.dropWhile (· != '[')
    if brackets.isEmpty then
      match index? part with
      | some n => some [.index n]
      | none => some [.field (String.ofList part)]
    else
      match (splitInclusive ']' brackets).mapM bracket? with
      | none => none
      | some indexes =>
        if name.isEmpty then some indexes else some (.field (String.ofList name) :: indexes)

/-- The part of a path behind the mark of the whole value. -/
def body (s : List Char) : List Char :=
  match s with
  | '$' :: '.' :: rest => rest
  | _ => s

/-- The steps of a path. -/
def parseChars (path : List Char) : Option (List Step) :=
  let trimmed := trim path
  if trimmed.isEmpty || trimmed = ['$'] then some []
  else (((body trimmed).splitOn '.').mapM partSteps).map List.flatten

/-- The steps of a path. -/
def parse (path : String) : Option (List Step) := parseChars path.toList

/-- What is said of a path that cannot be read. -/
def errorMessage (path : String) : String := "Unsupported response path '" ++ path ++ "'"

/-- The value that one step leads to. -/
def Step.select (v : Json) : Step → Option Json
  | .field name => v.get? name
  | .index n =>
    match v with
    | .arr items => items[n]?
    | _ => v.get? (toString n)

/-- The value that steps lead to. -/
def select (v : Json) : List Step → Option Json
  | [] => some v
  | step :: steps => (Step.select v step).bind fun w => select w steps

/-- The value that a path leads to, if it leads to one, unless the path cannot be read. -/
def extract (v : Json) (path : String) : Except String (Option Json) :=
  match parse path with
  | none => .error (errorMessage path)
  | some steps => .ok (select v steps)

end Path
end Toolwire.Json
