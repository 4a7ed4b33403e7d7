import Toolwire.Json.Basic
import Toolwire.Number.Shortest
import Toolwire.Text.Escape
/-!
# JSON text

The compact text of a value has no blanks; the indented one puts every item and member
on a line of its own, two spaces deeper than its container. Quotes, backslashes and
control characters are escaped, all else stands for itself.
-/
namespace Toolwire.Json

open Number Text

/-- A character inside a string literal. -/
def escapeChar (c : Char) : List Char :=
  if c = '"' then ['\\', '"']
  else if c = '\\' then ['\\', '\\']
  else if c.toNat = 8 then ['\\', 'b']
  else if c.toNat = 12 then ['\\', 'f']
  else if c = '\n' then ['\\', 'n']
  else if c = '\r' then ['\\', 'r']
  else if c = '\t' then ['\\', 't']
  else if c.toNat < 32 then ['\\', 'u', '0', '0', hexDigit (c.toNat / 16), hexDigit c.toNat]
  else [c]

/-- A string literal. -/
def quote (s : String) : List Char := '"' :: (s.toList.flatMap escapeChar ++ ['"'])

/-- The text of a value that holds no others. -/
def leafText : Json → List Char
  | .null => ['n', 'u', 'l', 'l']
  | .bool true => ['t', 'r', 'u', 'e']
  | .bool false => ['f', 'a', 'l', 's', 'e']
  | .int n => (toString n).toList
  | .float x => x.text.toList
  | .str s => quote s
  | .arr _ => ['[', ']']
  | .obj _ => ['{', '}']

mutual

/-- The compact text of a value. -/
def chars : Json → List Char
  | .arr (x :: xs) => '[' :: (chars x ++ charsItems xs)
  | .obj ((k, x) :: ms) => '{' :: (quote k ++ ':' :: (chars x ++ charsMembers ms))
  | v => leafText v

/-- The rest of an array from the comma on. -/
def charsItems : List Json → List Char
  | [] => [']']
  | x :: xs => ',' :: (chars x ++ charsItems xs)

/-- The rest of an object from the comma on. -/
def charsMembers : List (String × Json) → List Char
  | [] => ['}']
  | (k, x) :: ms => ',' :: (quote k ++ ':' :: (chars x ++ charsMembers ms))

end

/-- The compact text of a value. -/
def compress (v : Json) : String := String.ofList v.chars

/-- A line break followed by the indentation of a level. -/
def newline (level : Nat) : List Char := '\n' :: List.replicate (2 * level) ' '

mutual

/-- The indented text of a value whose container is `level` deep. -/
def indented (level : Nat) : Json → List Char
  | .arr (x :: xs) =>
    '[' :: (newline (level + 1) ++ indented (level + 1) x ++ indentedItems level xs)
  | .obj ((k, x) :: ms) =>
    '{' :: (newline (level + 1) ++ quote k ++ ':' :: ' ' :: indented (level + 1) x
      ++ indentedMembers level ms)
  | v => leafText v

/-- The rest of an indented array. -/
def indentedItems (level : Nat) : List Json → List Char
  | [] => newline level ++ [']']
  | x :: xs => ',' :: (newline (level + 1) ++ indented (level + 1) x ++ indentedItems level xs)

/-- The rest of an indented object. -/
def indentedMembers (level : Nat) : List (String × Json) → List Char
  | [] => newline level ++ ['}']
  | (k, x) :: ms =>
    ',' :: (newline (level + 1) ++ quote k ++ ':' :: ' ' :: indented (level + 1) x
      ++ indentedMembers level ms)

end

/-- The indented text of a value. -/
def pretty (v : Json) : String := String.ofList (v.indented 0)

end Toolwire.Json
