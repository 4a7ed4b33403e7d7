import Toolwire.Json.Basic
import Toolwire.Text.Escape
/-!
# Reading JSON text

A recursive descent over the characters that are left. Containers nest at most 127
deep, a repeated key keeps its last value, an integer literal that fits 64 bits is an
integer and every other number a binary64 number. A fault names its cause and the place,
counted in lines and bytes.
-/
namespace Toolwire.Json

open Number
export Text (hexValue? isHighSurrogate isLowSurrogate)

/-- Why a text is not JSON. -/
inductive Fault where
  | endInList
  | endInObject
  | endInString
  | endInValue
  | expectedColon
  | expectedListEnd
  | expectedObjectEnd
  | expectedIdent
  | expectedValue
  | invalidEscape
  | invalidNumber
  | numberOutOfRange
  | controlCharacter
  | keyNotString
  | loneSurrogate
  | endInHexEscape
  | trailingComma
  | trailingCharacters
  | tooDeep
  deriving DecidableEq, Repr

/-- The cause in words. -/
def Fault.message : Fault → String
  | .endInList => "EOF while parsing a list"
  | .endInObject => "EOF while parsing an object"
  | .endInString => "EOF while parsing a string"
  | .endInValue => "EOF while parsing a value"
  | .expectedColon => "expected `:`"
  | .expectedListEnd => "expected `,` or `]`"
  | .expectedObjectEnd => "expected `,` or `\x7d`"
  | .expectedIdent => "expected ident"
  | .expectedValue => "expected value"
  | .invalidEscape => "invalid escape"
  | .invalidNumber => "invalid number"
  | .numberOutOfRange => "number out of range"
  | .controlCharacter => "control character (\\u0000-\\u001F) found while parsing a string"
  | .keyNotString => "key must be a string"
  | .loneSurrogate => "lone leading surrogate in hex escape"
  | .endInHexEscape => "unexpected end of hex escape"
  | .trailingComma => "trailing comma"
  | .trailingCharacters => "trailing characters"
  | .tooDeep => "recursion limit exceeded"

/-- A fault found `past` bytes behind the start of the text that was left. -/
structure FaultAt where
  fault : Fault
  left : List Char
  past : Nat

/-- The result of reading from a text: a value and the text left. -/
abbrev Reading (α : Type) := Except FaultAt (α × List Char)

/-- A fault at the start of what is left. -/
def failAt (fault : Fault) (left : List Char) : Except FaultAt α := .error ⟨fault, left, 0⟩

/-- A fault at the next byte of what is left. -/
def failNext (fault : Fault) (left : List Char) : Except FaultAt α := .error ⟨fault, left, 1⟩

/-- The blanks of JSON. -/
def isSpace (c : Char) : Bool := c == ' ' || c == '\n' || c == '\t' || c == '\r'

/-- What is left after blanks. -/
def skipSpace (s : List Char) : List Char := s.dropWhile isSpace

/-- The size of a text in UTF-8. -/
def utf8Size (s : List Char) : Nat := s.foldl (fun n c => n + c.utf8Size) 0

/-- The value of a decimal digit. -/
def digitValue (c : Char) : Nat := c.toNat - '0'.toNat

/-- Reads digits while the number stays below `2 ^ 64`: the number, how many digits were
read, and the text left. -/
def readDigits (value count : Nat) : List Char → Nat × Nat × List Char
  | [] => (value, count, [])
  | c :: rest =>
    if c.isDigit && value * 10 + digitValue c < 0x10000000000000000 then
      readDigits (value * 10 + digitValue c) (count + 1) rest
    else (value, count, c :: rest)

/-- Whether a text starts with a digit. -/
def startsWithDigit : List Char → Bool
  | c :: _ => c.isDigit
  | [] => false

/-- What is left after digits. -/
def skipDigits (s : List Char) : List Char := s.dropWhile Char.isDigit

/-- `10 ^ n` as a binary64 number. -/
def tenPower (n : Nat) : Binary64 := .ofDecimal false 1 n

/-- Scales by a power of ten in steps of at most `10 ^ 308`; nothing when it overflows. -/
def scaleTen (x : Binary64) (exponent : Int) : Nat → Option Binary64
  | 0 => some x
  | fuel + 1 =>
    if exponent.natAbs ≤ 308 then
      if 0 ≤ exponent then
        let y := x.mul (tenPower exponent.toNat)
        if y.isFinite then some y else none
      else some (x.div (tenPower exponent.natAbs))
    else if x.isZero then some x
    else if 0 ≤ exponent then none
    else scaleTen (x.div (tenPower 308)) (exponent + 308) fuel

/-- The number `± digits * 10 ^ exponent`, its digits rounded before they are scaled. -/
def assemble (positive : Bool) (digits : Nat) (exponent : Int) (left : List Char) :
    Reading Json :=
  match scaleTen (.ofNat digits) exponent 8 with
  | some x => .ok (.float (if positive then x else x.neg), left)
  | none => failAt .numberOutOfRange left

/-- The greatest exponent that is read digit by digit. -/
def exponentLimit : Nat := 0x7FFFFFFF

/-- Reads exponent digits up to the limit; `none` for the number says that it was passed. -/
def readExponentDigits (value : Nat) : List Char → Option Nat × List Char
  | [] => (some value, [])
  | c :: rest =>
    if c.isDigit then
      if value * 10 + digitValue c ≤ exponentLimit then
        readExponentDigits (value * 10 + digitValue c) rest
      else (none, rest)
    else (some value, c :: rest)

/-- Keeps an exponent within 32 bits. -/
def clampExponent (n : Int) : Int := max (-0x80000000) (min 0x7FFFFFFF n)

/-- Reads what follows the `e` of a number. -/
def readExponent (positive : Bool) (digits : Nat) (base : Int) (s : List Char) :
    Reading Json :=
  let (up, s) := match s with
    | '+' :: rest => (true, rest)
    | '-' :: rest => (false, rest)
    | _ => (true, s)
  match s with
  | [] => failAt .endInValue []
  | c :: rest =>
    if c.isDigit then
      match readExponentDigits (digitValue c) rest with
      | (some n, left) =>
        assemble positive digits (clampExponent (if up then base + n else base - n)) left
      | (none, left) =>
        if digits != 0 && up then failAt .numberOutOfRange left
        else .ok (.float (Binary64.zero !positive), skipDigits left)
    else .error ⟨.invalidNumber, s, c.utf8Size⟩

/-- Whether a text starts with the mark of an exponent. -/
def startsWithExponent : List Char → Bool
  | c :: _ => c == 'e' || c == 'E'
  | [] => false

/-- Reads what follows the point of a number. -/
def readFraction (positive : Bool) (digits : Nat) (base : Int) (s : List Char) :
    Reading Json :=
  let (digits, count, left) := readDigits digits 0 s
  let exponent := base - count
  let overflow := startsWithDigit left
  let left := skipDigits left
  if count = 0 && !overflow then
    if left.isEmpty then failNext .endInValue left else failNext .invalidNumber left
  else if startsWithExponent left then readExponent positive digits exponent (left.drop 1)
  else assemble positive digits exponent left

/-- Reads the rest of a number whose whole digits are read, `dropped` of them beyond the
64 bits that are kept. -/
def readAfterWhole (positive : Bool) (digits : Nat) (dropped : Nat) (s : List Char) :
    Reading Json :=
  match s with
  | '.' :: rest => readFraction positive digits dropped rest
  | c :: rest =>
    if c == 'e' || c == 'E' then readExponent positive digits dropped rest
    else finish
  | [] => finish
where
  /-- A number without fraction and exponent. -/
  finish : Reading Json :=
    if dropped != 0 then assemble positive digits dropped s
    else if positive then .ok (.int digits, s)
    else if digits = 0 || 0x8000000000000000 < digits then
      .ok (.float (Binary64.ofNat digits).neg, s)
    else .ok (.int (-digits), s)

/-- Reads a number whose sign is read. -/
def readNumber (positive : Bool) (s : List Char) : Reading Json :=
  match s with
  | [] => failAt .endInValue []
  | c :: rest =>
    if c == '0' then
      if startsWithDigit rest then failNext .invalidNumber rest
      else readAfterWhole positive 0 0 rest
    else if c.isDigit then
      let (digits, _, left) := readDigits (digitValue c) 1 rest
      readAfterWhole positive digits (left.takeWhile Char.isDigit).length (skipDigits left)
    else .error ⟨.invalidNumber, s, c.utf8Size⟩

/-- Reads the four digits of an escape. -/
def readHexFour (s : List Char) : Reading Nat :=
  match s with
  | a :: b :: c :: d :: rest =>
    match hexValue? a, hexValue? b, hexValue? c, hexValue? d with
    | some a, some b, some c, some d => .ok (((a * 16 + b) * 16 + c) * 16 + d, rest)
    | _, _, _, _ => .error ⟨.invalidEscape, s, 4⟩
  | _ => if utf8Size s < 4 then failAt .endInString [] else .error ⟨.invalidEscape, s, 4⟩

/-- Reads what follows `\u`. -/
def readUnicodeEscape (s : List Char) : Reading Char :=
  match readHexFour s with
  | .error e => .error e
  | .ok (n, s) =>
    if isLowSurrogate n then failAt .loneSurrogate s
    else if isHighSurrogate n then
      match s with
      | '\\' :: 'u' :: rest =>
        match readHexFour rest with
        | .error e => .error e
        | .ok (m, rest) =>
          if isLowSurrogate m then
            .ok (Char.ofNat (0x10000 + (n - 0xD800) * 0x400 + (m - 0xDC00)), rest)
          else failAt .loneSurrogate rest
      | '\\' :: [] => failAt .endInString []
      | '\\' :: rest => failNext .endInHexEscape rest
      | [] => failAt .endInString []
      | _ => failNext .endInHexEscape s
    else .ok (Char.ofNat n, s)

/-- Reads what follows a backslash. -/
def readEscape (s : List Char) : Reading Char :=
  match s with
  | [] => failAt .endInString []
  | c :: rest =>
    if c == '"' || c == '\\' || c == '/' then .ok (c, rest)
    else if c == 'b' then .ok ('\x08', rest)
    else if c == 'f' then .ok ('\x0c', rest)
    else if c == 'n' then .ok ('\n', rest)
    else if c == 'r' then .ok ('\r', rest)
    else if c == 't' then .ok ('\t', rest)
    else if c == 'u' then readUnicodeEscape rest
    else failNext .invalidEscape s

/-- Reads the rest of a string literal; `done` holds its characters in reverse. -/
def readString (done : List Char) : Nat → List Char → Reading String
  | 0, s => failAt .endInString s
  | fuel + 1, s =>
    match s with
    | [] => failAt .endInString []
    | c :: rest =>
      if c == '"' then .ok (String.ofList done.reverse, rest)
      else if c == '\\' then
        match readEscape rest with
        | .ok (d, rest) => readString (d :: done) fuel rest
        | .error e => .error e
      else if c.toNat < 32 then failNext .controlCharacter s
      else readString (c :: done) fuel rest

/-- Reads the rest of a keyword. -/
def readIdent (value : Json) : List Char → List Char → Reading Json
  | [], s => .ok (value, s)
  | _, [] => failAt .endInValue []
  | e :: expected, c :: rest =>
    if c == e then readIdent value expected rest
    else .error ⟨.expectedIdent, c :: rest, c.utf8Size⟩

mutual

/-- Reads a value inside `depth` more levels of containers. -/
def readValue (depth : Nat) : Nat → List Char → Reading Json
  | 0, s => failAt .endInValue s
  | fuel + 1, s =>
    let s := skipSpace s
    match s with
    | [] => failNext .endInValue []
    | c :: rest =>
      if c == 'n' then readIdent .null ['u', 'l', 'l'] rest
      else if c == 't' then readIdent (.bool true) ['r', 'u', 'e'] rest
      else if c == 'f' then readIdent (.bool false) ['a', 'l', 's', 'e'] rest
      else if c == '-' then readNumber false rest
      else if c.isDigit then readNumber true s
      else if c == '"' then
        match readString [] fuel rest with
        | .ok (t, left) => .ok (.str t, left)
        | .error e => .error e
      else if c == '[' then
        if depth ≤ 1 then failNext .tooDeep s
        else readItems (depth - 1) [] true fuel rest
      else if c == '{' then
        if depth ≤ 1 then failNext .tooDeep s
        else readMembers (depth - 1) [] true fuel rest
      else failNext .expectedValue s
termination_by structural fuel => fuel

/-- Reads the items of an array up to its end; `done` holds them in reverse. -/
def readItems (depth : Nat) (done : List Json) (first : Bool) : Nat → List Char → Reading Json
  | 0, s => failAt .endInList s
  | fuel + 1, s =>
    let s := skipSpace s
    match s with
    | [] => failNext .endInList []
    | c :: rest =>
      if c == ']' then .ok (.arr done.reverse, rest)
      else if c == ',' && !first then
        match skipSpace rest with
        | [] => failNext .endInValue []
        | d :: more =>
          if d == ']' then failNext .trailingComma (d :: more)
          else
            match readValue depth fuel (d :: more) with
            | .ok (v, left) => readItems depth (v :: done) false fuel left
            | .error e => .error e
      else if first then
        match readValue depth fuel s with
        | .ok (v, left) => readItems depth (v :: done) false fuel left
        | .error e => .error e
      else failNext .expectedListEnd s
termination_by structural fuel => fuel

/-- Reads the members of an object up to its end. -/
def readMembers (depth : Nat) (done : Members) (first : Bool) : Nat → List Char → Reading Json
  | 0, s => failAt .endInObject s
  | fuel + 1, s =>
    let s := skipSpace s
    match s with
    | [] => failNext .endInObject []
    | c :: rest =>
      if c == '}' then .ok (.obj done, rest)
      else if c == ',' && !first then
        match skipSpace rest with
        | [] => failNext .endInValue []
        | d :: more =>
          if d == '"' then readMember depth done fuel more
          else if d == '}' then failNext .trailingComma (d :: more)
          else failNext .keyNotString (d :: more)
      else if first then
        if c == '"' then readMember depth done fuel rest else failNext .keyNotString s
      else failNext .expectedObjectEnd s
termination_by structural fuel => fuel

/-- Reads a member whose key is opened, and the members after it. -/
def readMember (depth : Nat) (done : Members) : Nat → List Char → Reading Json
  | 0, s => failAt .endInObject s
  | fuel + 1, s =>
    match readString [] fuel s with
    | .error e => .error e
    | .ok (key, left) =>
      match skipSpace left with
      | [] => failNext .endInObject []
      | c :: rest =>
        if c == ':' then
          match readValue depth fuel rest with
          | .ok (v, left) => readMembers depth (Members.insert done key v) false fuel left
          | .error e => .error e
        else failNext .expectedColon (c :: rest)
termination_by structural fuel => fuel

end

/-- A value can be nested in at most 127 containers. -/
def depthLimit : Nat := 128

/-- Reads a text that holds one value and nothing else. -/
def parseChars (s : List Char) : Except FaultAt Json :=
  match readValue depthLimit (4 * s.length + 4) s with
  | .error e => .error e
  | .ok (v, left) =>
    match skipSpace left with
    | [] => .ok v
    | c :: rest => failNext .trailingCharacters (c :: rest)

/-- The line and the byte column that a prefix of a text ends at. -/
def position (line column : Nat) : List Char → Nat → Nat × Nat
  | [], _ => (line, column)
  | c :: rest, bytes =>
    if bytes < c.utf8Size then (line, column + bytes)
    else if c == '\n' then position (line + 1) 0 rest (bytes - 1)
    else position line (column + c.utf8Size) rest (bytes - c.utf8Size)

/-- A fault with its place in the whole text. -/
def FaultAt.message (e : FaultAt) (whole : List Char) : String :=
  let size := utf8Size whole
  let (line, column) := position 1 0 whole (min size (size - utf8Size e.left + e.past))
  s!"{e.fault.message} at line {line} column {column}"

/-- Reads a text as one value; a fault is told in words. -/
def parse (text : String) : Except String Json :=
  match parseChars text.toList with
  | .ok v => .ok v
  | .error e => .error (e.message text.toList)

/-- Reads a text as one value. -/
def parse? (text : String) : Option Json := (parseChars text.toList).toOption

end Toolwire.Json
