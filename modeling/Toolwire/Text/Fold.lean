/-!
# Letters in any case

Matching a text against letters, digits and punctuation of ASCII without regard to case.
Beyond the ASCII letters two characters fold into that range: the long s is an `s`, and
the kelvin sign is a `k`.
-/
namespace Toolwire.Text

/-- The long s, which folds to `s`. -/
def longS : Char := Char.ofNat 0x17F

/-- The kelvin sign, which folds to `k`. -/
def kelvin : Char := Char.ofNat 0x212A

/-- The lower-case form of a character as far as it lies in ASCII. -/
def fold (c : Char) : Char :=
  if c = longS then 's' else if c = kelvin then 'k' else c.toLower

/-- What follows a word at the head of a text, in any case. -/
def dropWord? (word : List Char) (s : List Char) : Option (List Char) :=
  match word, s with
  | [], s => some s
  | _ :: _, [] => none
  | w :: word, c :: s => if fold c = w then dropWord? word s else none

/-- What follows the first of several words that stands at the head of a text. -/
def dropAnyWord? (words : List String) (s : List Char) : Option (List Char) :=
  words.findSome? fun w => dropWord? w.toList s

/-- What follows a literal at the head of a text. -/
def dropLiteral? (literal : List Char) (s : List Char) : Option (List Char) :=
  match literal, s with
  | [], s => some s
  | _ :: _, [] => none
  | l :: literal, c :: s => if c = l then dropLiteral? literal s else none

/-- Whether a text is one of several words, in any case. -/
def isAnyWord (words : List String) (s : List Char) : Bool :=
  words.contains (String.ofList (s.map fold))

end Toolwire.Text
