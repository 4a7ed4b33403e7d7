import Toolwire.Text.Escape
import Toolwire.Text.Fold
import Toolwire.Text.Letter
/-!
# JSON5 syntax

The grammar of JSON5: comments, trailing commas, either kind of quote, bare names as keys,
line continuations, and numbers with signs, bare points, hexadecimal digits and the words
`Infinity` and `NaN`. Reading a text gives a syntax tree whose numbers are still spelled
out and whose strings may still turn out to be wrong: what a literal means is decided when
it is read as a value.
-/
namespace Toolwire.Json5

open Text

/-- The tree of a text. The keys of an object may repeat. -/
inductive Node where
  | null
  | bool (value : Bool)
  | number (literal : List Char)
  | string (text : Except String String)
  | array (items : List Node)
  | object (pairs : List (Except String String × Node))
  deriving Inhabited

/-- Characters that end a line. -/
def isLineEnd (c : Char) : Bool :=
  c == '\n' || c == '\r' || c.toNat == 0x2028 || c.toNat == 0x2029

/-- Blanks between tokens. -/
def isBlank (c : Char) : Bool :=
  let n := c.toNat
  n == 9 || n == 0xB || n == 0xC || n == 0x20 || n == 0xA0 || n == 0xFEFF || n == 0x1680
    || (0x2000 ≤ n && n ≤ 0x200A) || n == 0x202F || n == 0x205F || n == 0x3000 || isLineEnd c

/-- Where a scan for the next token stands. A block comment remembers where it opened. -/
inductive Gap where
  | blank
  | line
  | opening (start : List Char)
  | block (start : List Char)
  | closing

/-- What follows blanks and comments. A block comment without an end is no comment. -/
def skipFrom (gap : Gap) : List Char → List Char
  | [] =>
    match gap with
    | .opening start | .block start => start
    | _ => []
  | c :: rest =>
    match gap with
    | .blank =>
      if isBlank c then skipFrom .blank rest
      else if c = '/' then
        match rest.head? with
        | some '/' => skipFrom .line rest
        | some '*' => skipFrom (.opening (c :: rest)) rest
        | _ => c :: rest
      else c :: rest
    | .line => if isLineEnd c then skipFrom .blank rest else skipFrom .line rest
    | .opening start => skipFrom (.block start) rest
    | .block start =>
      if c = '*' && rest.head? = some '/' then skipFrom .closing rest
      else skipFrom (.block start) rest
    | .closing => skipFrom .blank rest

/-- What follows blanks and comments. -/
def skipAll (s : List Char) : List Char := skipFrom .blank s

/-- A part of a string literal: text, or a code unit written in hexadecimal. -/
inductive Part where
  | char (c : Char)
  | unit (n : Nat)
  deriving DecidableEq, Repr

/-- The text of the parts of a string literal. The first half of a surrogate pair must be
followed by the second; the bits of the halves are joined by a bitwise or. -/
def assemble (done : List Char) : List Part → Except String String
  | [] => .ok (String.ofList done.reverse)
  | .char c :: rest => assemble (c :: done) rest
  | .unit n :: rest =>
    if isLowSurrogate n then .error "unexpected unicode trail surrogate"
    else if isHighSurrogate n then
      match rest with
      | .unit m :: rest =>
        if isLowSurrogate m then
          let joined := ((n - 0xD800) <<< 10) ||| ((m - 0xDC00) + 0x10000)
          assemble (Char.ofNat joined :: done) rest
        else .error "expecting unicode trail surrogate"
      | _ => .error "missing unicode trail surrogate"
    else assemble (Char.ofNat n :: done) rest

/-- The escapes of one letter. -/
def letterEscape (c : Char) : Char :=
  if c = 'b' then '\x08'
  else if c = 'f' then '\x0c'
  else if c = 'n' then '\n'
  else if c = 'r' then '\r'
  else if c = 't' then '\t'
  else if c = 'v' then '\x0b'
  else c

/-- The code unit in the first `count` characters and what follows it. -/
def hexUnit? (count : Nat) (s : List Char) : Option (Nat × List Char) :=
  let digits := s.take count
  if digits.length = count && digits.all isHex then some (hexNumber digits, s.drop count)
  else none

/-- The parts of a string literal up to the closing quote, in reverse, and what follows. -/
def readParts (quote : Char) (done : List Part) : Nat → List Char → Option (List Part × List Char)
  | 0, _ => none
  | fuel + 1, s =>
    match s with
    | [] => none
    | '\\' :: rest =>
      match rest with
      | [] => none
      | '0' :: rest => readParts quote (.char (Char.ofNat 0) :: done) fuel rest
      | 'x' :: rest =>
        match hexUnit? 2 rest with
        | some (n, rest) => readParts quote (.char (Char.ofNat n) :: done) fuel rest
        | none => none
      | 'u' :: rest =>
        match hexUnit? 4 rest with
        | some (n, rest) => readParts quote (.unit n :: done) fuel rest
        | none => none
      | '\r' :: '\n' :: rest => readParts quote done fuel rest
      | c :: rest =>
        if isLineEnd c then readParts quote done fuel rest
        else if c.isDigit then none
        else readParts quote (.char (letterEscape c) :: done) fuel rest
    | c :: rest =>
      if c = quote then some (done, rest)
      else if isLineEnd c then none
      else readParts quote (.char c :: done) fuel rest

/-- A string literal whose opening quote is read. -/
def readString (quote : Char) (fuel : Nat) (s : List Char) :
    Option (Except String String × List Char) :=
  (readParts quote [] fuel s).map fun (parts, rest) => (assemble [] parts.reverse, rest)

/-- Whether a character starts a bare name. -/
def startsName (c : Char) : Bool := isLetter c || c == '$' || c == '_'

/-- The parts of a bare name, in reverse, and what follows it. -/
def readNameParts (done : List Part) : Nat → List Char → List Part × List Char
  | 0, s => (done, s)
  | fuel + 1, s =>
    match s with
    | '\\' :: 'u' :: rest =>
      match hexUnit? 4 rest with
      | some (n, rest) => readNameParts (.unit n :: done) fuel rest
      | none => (done, s)
    | c :: rest =>
      if startsName c || (!done.isEmpty && continuesName c) then
        readNameParts (.char c :: done) fuel rest
      else (done, s)
    | [] => (done, [])

/-- A key: a bare name or a string. -/
def readKey (fuel : Nat) (s : List Char) : Option (Except String String × List Char) :=
  match s with
  | '"' :: rest => readString '"' fuel rest
  | '\'' :: rest => readString '\'' fuel rest
  | _ =>
    match readNameParts [] fuel s with
    | ([], _) => none
    | (parts, rest) => some (assemble [] parts.reverse, rest)

/-- The digits at the head of a text and what follows them. -/
def digits (s : List Char) : List Char × List Char :=
  (s.takeWhile Char.isDigit, s.dropWhile Char.isDigit)

/-- An exponent at the head of a text, empty when there is none, and what follows it. -/
def readExponent (s : List Char) : List Char × List Char :=
  match s with
  | e :: rest =>
    if e = 'e' || e = 'E' then
      let (sign, rest) := match rest with
        | '+' :: more => (['+'], more)
        | '-' :: more => (['-'], more)
        | _ => ([], rest)
      match digits rest with
      | ([], _) => ([], s)
      | (ds, left) => (e :: (sign ++ ds), left)
    else ([], s)
  | [] => ([], [])

/-- A decimal number without sign. -/
def readDecimal (s : List Char) : Option (List Char × List Char) :=
  let whole : Option (List Char × List Char) := match s with
    | '0' :: rest => some (['0'], rest)
    | c :: _ => if c.isDigit then some (digits s) else none
    | [] => none
  match whole with
  | some (ds, '.' :: rest) =>
    let (fs, rest) := digits rest
    let (es, rest) := readExponent rest
    some (ds ++ '.' :: (fs ++ es), rest)
  | some (ds, rest) =>
    let (es, rest) := readExponent rest
    some (ds ++ es, rest)
  | none =>
    match s with
    | '.' :: rest =>
      match digits rest with
      | ([], _) => none
      | (fs, rest) =>
        let (es, rest) := readExponent rest
        some ('.' :: (fs ++ es), rest)
    | _ => none

/-- A number without sign. -/
def readUnsigned (s : List Char) : Option (List Char × List Char) :=
  let hex : Option (List Char × List Char) := match s with
    | '0' :: x :: rest =>
      if x = 'x' || x = 'X' then
        match rest.takeWhile isHex with
        | [] => none
        | ds => some ('0' :: x :: ds, rest.dropWhile isHex)
      else none
    | _ => none
  match hex with
  | some r => some r
  | none =>
    match readDecimal s with
    | some r => some r
    | none =>
      match dropLiteral? "Infinity".toList s with
      | some rest => some ("Infinity".toList, rest)
      | none => (dropLiteral? "NaN".toList s).map fun rest => ("NaN".toList, rest)

/-- A number. -/
def readNumber (s : List Char) : Option (List Char × List Char) :=
  match s with
  | '+' :: rest => (readUnsigned rest).map fun (ds, left) => ('+' :: ds, left)
  | '-' :: rest => (readUnsigned rest).map fun (ds, left) => ('-' :: ds, left)
  | _ => readUnsigned s

/-- A value that holds no others. -/
def readLeaf (fuel : Nat) (s : List Char) : Option (Node × List Char) :=
  match dropLiteral? "null".toList s with
  | some rest => some (.null, rest)
  | none =>
    match dropLiteral? "true".toList s with
    | some rest => some (.bool true, rest)
    | none =>
      match dropLiteral? "false".toList s with
      | some rest => some (.bool false, rest)
      | none =>
        match s with
        | '"' :: rest => (readString '"' fuel rest).map fun (t, left) => (.string t, left)
        | '\'' :: rest => (readString '\'' fuel rest).map fun (t, left) => (.string t, left)
        | _ => (readNumber s).map fun (ds, left) => (.number ds, left)

mutual

/-- A value at the head of a text. -/
def readNode : Nat → List Char → Option (Node × List Char)
  | 0, _ => none
  | fuel + 1, s =>
    match s with
    | '{' :: rest =>
      match skipAll rest with
      | '}' :: rest => some (.object [], rest)
      | rest => readPairs [] fuel rest
    | '[' :: rest =>
      match skipAll rest with
      | ']' :: rest => some (.array [], rest)
      | rest => readItems [] fuel rest
    | _ => readLeaf fuel s
termination_by structural fuel => fuel

/-- The items of an array from the next one on; `done` holds those before, in reverse. -/
def readItems (done : List Node) : Nat → List Char → Option (Node × List Char)
  | 0, _ => none
  | fuel + 1, s =>
    match readNode fuel s with
    | none => none
    | some (item, left) =>
      match skipAll left with
      | ']' :: rest => some (.array (item :: done).reverse, rest)
      | ',' :: rest =>
        match skipAll rest with
        | ']' :: rest => some (.array (item :: done).reverse, rest)
        | rest => readItems (item :: done) fuel rest
      | _ => none
termination_by structural fuel => fuel

/-- The pairs of an object from the next one on; `done` holds those before, in reverse. -/
def readPairs (done : List (Except String String × Node)) :
    Nat → List Char → Option (Node × List Char)
  | 0, _ => none
  | fuel + 1, s =>
    match readKey fuel s with
    | none => none
    | some (key, left) =>
      match skipAll left with
      | ':' :: rest =>
        match readNode fuel (skipAll rest) with
        | none => none
        | some (value, left) =>
          let done := (key, value) :: done
          match skipAll left with
          | '}' :: rest => some (.object done.reverse, rest)
          | ',' :: rest =>
            match skipAll rest with
            | '}' :: rest => some (.object done.reverse, rest)
            | rest => readPairs done fuel rest
          | _ => none
      | _ => none
termination_by structural fuel => fuel

end

/-- The tree of a text, if the text follows the grammar. -/
def parse (text : String) : Option Node :=
  let s := text.toList
  match readNode (4 * s.length + 4) (skipAll s) with
  | none => none
  | some (node, left) =>
    match skipAll left with
    | [] => some node
    | _ => none

end Toolwire.Json5
