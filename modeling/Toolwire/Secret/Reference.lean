import Toolwire.Text.Search
/-!
# Credential references

A reference is `$`, an opening brace, a name and a closing brace, where a name is a
letter or underscore followed by letters, digits and underscores. References are found
from the left; stripping puts one space in the place of each.
-/
namespace Toolwire.Reference

open Text

/-- A character that a name can start with. -/
def isNameStart (c : Char) : Bool := c.isAlpha || c == '_'

/-- A character that a name can go on with. -/
def isNameChar (c : Char) : Bool := c.isAlphanum || c == '_'

/-- Whether a text is a name. -/
def isNameChars : List Char → Bool
  | [] => false
  | c :: rest => isNameStart c && rest.all isNameChar

/-- Whether a string is a name. -/
def isName (s : String) : Bool := isNameChars s.toList

/-- The name in braces at the head of a text. -/
def braced? : List Char → Option (List Char)
  | '{' :: c :: rest =>
    if isNameStart c then
      match rest.dropWhile isNameChar with
      | '}' :: _ => some (c :: rest.takeWhile isNameChar)
      | _ => none
    else none
  | _ => none

/-- The name of the reference at the head of a text. -/
def name? : List Char → Option (List Char)
  | '$' :: rest => braced? rest
  | _ => none

/-- Recognises a reference by its name. -/
def recognizer : Recognizer String := fun _ s =>
  (name? s).map fun name => (String.ofList name, name.length + 3)

/-- The pieces of a text: references and the characters between them. -/
def cut (s : List Char) : List (Piece String) := recognizer.cut s

/-- The names of all references of a text, in order. -/
def names (text : String) : List String := recognizer.findAll text.toList

/-- Whether a text has a reference. -/
def containedIn (text : String) : Bool := (recognizer.find text.toList).isSome

/-- A text with every reference replaced by a space. -/
def stripChars (s : List Char) : List Char := recognizer.replaceAll [' '] s

/-- A string with every reference replaced by a space. -/
def strip (text : String) : String := String.ofList (stripChars text.toList)

/-- The text of the reference to a name. -/
def spell (name : String) : String := "$\x7b" ++ name ++ "\x7d"

end Toolwire.Reference
