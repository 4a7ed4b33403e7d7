import Toolwire.Text.Blank
/-!
# Timestamps

Points in time with nanoseconds, read from RFC 3339 text and its relaxed forms and written
in UTC. A second numbered 60 is kept as such. Days are counted in the proleptic Gregorian
calendar from 1970-01-01.
-/
namespace Toolwire

open Text

/-- A point in time: whole seconds since 1970 in UTC, and nanoseconds, which reach two
seconds within a leap second. -/
structure Timestamp where
  seconds : Int
  nanos : Nat
  deriving DecidableEq, Repr, Inhabited

namespace Timestamp

/-- Why a text is no timestamp. -/
inductive Fault where
  | outOfRange
  | impossible
  | invalid
  | tooShort
  | tooLong
  deriving DecidableEq, Repr

/-- The fault in words. -/
def Fault.message : Fault → String
  | .outOfRange => "input is out of range"
  | .impossible => "no possible date and time matching input"
  | .invalid => "input contains invalid characters"
  | .tooShort => "premature end of input"
  | .tooLong => "trailing input"

/-- Reads one to `max` digits. -/
def number (max : Nat) (s : List Char) : Except Fault (Nat × List Char) :=
  match s with
  | [] => .error .tooShort
  | _ =>
    let digits := (s.take max).takeWhile Char.isDigit
    if digits.isEmpty then .error .invalid
    else
      let n := Nat.ofDigitChars 10 digits 0
      if n < 0x8000000000000000 then .ok (n, s.drop digits.length) else .error .outOfRange

/-- Reads a year: up to four digits, or any number of them behind a sign. -/
def year (s : List Char) : Except Fault (Int × List Char) :=
  let signed (rest : List Char) := number rest.length rest
  let result : Except Fault (Int × List Char) := match trimStart s with
    | '-' :: rest => (signed rest).map fun (n, left) => (-(n : Int), left)
    | '+' :: rest => (signed rest).map fun (n, left) => ((n : Int), left)
    | s => (number 4 s).map fun (n, left) => ((n : Int), left)
  match result with
  | .error e => .error e
  | .ok (y, rest) =>
    if -0x80000000 ≤ y && y < 0x80000000 then .ok (y, rest) else .error .outOfRange

/-- Reads a number of up to two digits between bounds. -/
def twoDigits (low high : Nat) (s : List Char) : Except Fault (Nat × List Char) :=
  match number 2 (trimStart s) with
  | .error e => .error e
  | .ok (n, rest) => if low ≤ n && n ≤ high then .ok (n, rest) else .error .outOfRange

/-- Reads a mark behind blanks. -/
def mark (c : Char) (s : List Char) : Except Fault (List Char) :=
  match trimStart s with
  | [] => .error .tooShort
  | d :: rest => if d = c then .ok rest else .error .invalid

/-- Reads a fraction of a second as nanoseconds. -/
def fraction (s : List Char) : Except Fault (Nat × List Char) :=
  match s with
  | '.' :: rest =>
    match number 9 rest with
    | .error e => .error e
    | .ok (n, left) =>
      .ok (n * Nat.pow 10 (9 - (rest.length - left.length)), left.dropWhile Char.isDigit)
  | _ => .ok (0, s)

/-- Reads the two digits at the head of a text. -/
def pair (s : List Char) : Except Fault (Nat × List Char) :=
  match s with
  | a :: b :: rest =>
    if a.isDigit && b.isDigit then .ok (Nat.ofDigitChars 10 [a, b] 0, rest) else .error .invalid
  | [c] => if c.utf8Size < 2 then .error .tooShort else .error .invalid
  | [] => .error .tooShort

/-- Reads an offset from UTC, in seconds. -/
def offset (s : List Char) : Except Fault (Int × List Char) :=
  let signed (negative : Bool) (rest : List Char) : Except Fault (Int × List Char) :=
    match pair rest with
    | .error e => .error e
    | .ok (hours, rest) =>
      match pair (rest.dropWhile fun c => c == ':' || isBlank c) with
      | .error e => .error e
      | .ok (minutes, rest) =>
        if 60 ≤ minutes then .error .outOfRange
        else
          let seconds : Int := hours * 3600 + minutes * 60
          .ok (if negative then -seconds else seconds, rest)
  match s with
  | [] => .error .tooShort
  | c :: rest =>
    if c = 'Z' || c = 'z' then .ok (0, rest)
    else if ((s.take 3).map Char.toUpper) = ['U', 'T', 'C'] then .ok (0, s.drop 3)
    else if c = '+' then signed false rest
    else if c = '-' || c.toNat = 0x2212 then signed true rest
    else .error .invalid

/-- Whether a year has a leap day. -/
def isLeap (y : Int) : Bool := y % 4 = 0 && (y % 100 ≠ 0 || y % 400 = 0)

/-- The number of days of a month. -/
def daysInMonth (y : Int) (m : Nat) : Nat :=
  if m = 2 then (if isLeap y then 29 else 28)
  else if m = 4 || m = 6 || m = 9 || m = 11 then 30
  else 31

/-- The day number of a date. Years are counted from March, so that a leap day is the last
of its year. -/
def dayNumber (y : Int) (m d : Nat) : Int :=
  let y := if m ≤ 2 then y - 1 else y
  let era := y / 400
  let inEra := y - era * 400
  let month : Int := (m + 9) % 12
  let dayOfYear := (153 * month + 2) / 5 + d - 1
  let dayOfEra := inEra * 365 + inEra / 4 - inEra / 100 + dayOfYear
  era * 146097 + dayOfEra - 719468

/-- The date of a day number. -/
def dateOf (day : Int) : Int × Nat × Nat :=
  let z := day + 719468
  let era := z / 146097
  let dayOfEra := z - era * 146097
  let inEra := (dayOfEra - dayOfEra / 1460 + dayOfEra / 36524 - dayOfEra / 146096) / 365
  let dayOfYear := dayOfEra - (365 * inEra + inEra / 4 - inEra / 100)
  let month := (5 * dayOfYear + 2) / 153
  let d := dayOfYear - (153 * month + 2) / 5 + 1
  let m := if month < 10 then month + 3 else month - 9
  let y := inEra + era * 400 + (if m ≤ 2 then 1 else 0)
  (y, m.toNat, d.toNat)

/-- The greatest year of either sign. -/
def maxYear : Int := 262142

/-- Reads the date and the time at the head of a text. -/
def readParts (s : List Char) : Except Fault (Int × Nat × Nat × Nat × Nat × Nat × Nat × List Char) := do
  let (y, s) ← year s
  let s ← mark '-' s
  let (m, s) ← twoDigits 1 12 s
  let s ← mark '-' s
  let (d, s) ← twoDigits 1 31 s
  let s ← match s with
    | [] => .error .tooShort
    | c :: rest => if c = 't' || c = 'T' || c = ' ' then .ok rest else .error .invalid
  let (hour, s) ← twoDigits 0 23 s
  let s ← mark ':' s
  let (minute, s) ← twoDigits 0 59 s
  let s ← mark ':' s
  let (second, s) ← twoDigits 0 60 s
  let (nanos, s) ← fraction s
  return (y, m, d, hour, minute, second, nanos, s)

/-- Reads a timestamp. -/
def parse (text : String) : Except Fault Timestamp := do
  let (y, m, d, hour, minute, second, nanos, s) ← readParts text.toList
  let (shift, s) ← offset (trimStart s)
  if !(trimStart s).isEmpty then .error .tooLong
  else if y < -maxYear - 1 || maxYear < y || daysInMonth y m < d then .error .outOfRange
  else if shift ≤ -86400 || 86400 ≤ shift then .error .outOfRange
  else
    let leap := if second = 60 then 1 else 0
    let seconds := dayNumber y m d * 86400 + hour * 3600 + minute * 60 + (second - leap : Nat)
    let utc := seconds - shift
    let (year, _, _) := dateOf (utc / 86400)
    if year < -maxYear - 1 || maxYear < year then .error .impossible
    else .ok ⟨utc, nanos + leap * 1000000000⟩

/-- Digits with zeros in front up to a width. -/
def padded (width n : Nat) : List Char :=
  let digits := Nat.toDigits 10 n
  List.replicate (width - digits.length) '0' ++ digits

/-- A year: four digits, and a sign before it outside 0 to 9999. -/
def yearText (y : Int) : List Char :=
  if 0 ≤ y && y ≤ 9999 then padded 4 y.toNat
  else (if y < 0 then '-' else '+') :: padded 4 y.natAbs

/-- The fraction of a second: nothing, or three, six or nine digits. -/
def fractionText (nanos : Nat) : List Char :=
  if nanos = 0 then []
  else if nanos % 1000000 = 0 then '.' :: padded 3 (nanos / 1000000)
  else if nanos % 1000 = 0 then '.' :: padded 6 (nanos / 1000)
  else '.' :: padded 9 nanos

/-- The text of a timestamp, in UTC. -/
def text (t : Timestamp) : String :=
  let (y, m, d) := dateOf (t.seconds / 86400)
  let inDay := (t.seconds % 86400).toNat
  let leap := if 1000000000 ≤ t.nanos then 1 else 0
  String.ofList <|
    yearText y ++ '-' :: (padded 2 m ++ '-' :: (padded 2 d ++ 'T' :: (padded 2 (inDay / 3600)
      ++ ':' :: (padded 2 (inDay / 60 % 60) ++ ':' :: (padded 2 (inDay % 60 + leap)
      ++ fractionText (t.nanos - leap * 1000000000) ++ ['Z'])))))

end Timestamp
end Toolwire
