/-!
# Faults in UTF-8

Where bytes stop being UTF-8, and how many bytes there cannot start a character: none of
them when the bytes merely end too early.
-/
namespace Toolwire.Text

/-- Where bytes stop being UTF-8. -/
structure Utf8Fault where
  /-- The number of bytes before the fault. -/
  validUpTo : Nat
  /-- The number of bytes at fault; nothing when more bytes could mend it. -/
  length : Option Nat
  deriving DecidableEq, Repr

/-- The fault in words. -/
def Utf8Fault.message (f : Utf8Fault) : String :=
  match f.length with
  | some n => s!"invalid utf-8 sequence of {n} bytes from index {f.validUpTo}"
  | none => s!"incomplete utf-8 byte sequence from index {f.validUpTo}"

/-- Whether a byte continues a character. -/
def isContinuation (b : UInt8) : Bool := 0x80 ≤ b && b ≤ 0xBF

/-- The number of bytes of the character that a byte starts, and the least and the greatest
byte that may follow it. -/
def utf8Lead (b : UInt8) : Option (Nat × UInt8 × UInt8) :=
  if b < 0x80 then some (1, 0, 0)
  else if 0xC2 ≤ b && b ≤ 0xDF then some (2, 0x80, 0xBF)
  else if b = 0xE0 then some (3, 0xA0, 0xBF)
  else if b = 0xED then some (3, 0x80, 0x9F)
  else if 0xE1 ≤ b && b ≤ 0xEF then some (3, 0x80, 0xBF)
  else if b = 0xF0 then some (4, 0x90, 0xBF)
  else if 0xF1 ≤ b && b ≤ 0xF3 then some (4, 0x80, 0xBF)
  else if b = 0xF4 then some (4, 0x80, 0x8F)
  else none

/-- The fault behind a lead byte, of which `seen` bytes are read, where more must follow. -/
def continueUtf8 (seen : Nat) : Nat → List UInt8 → Option (Option Nat)
  | 0, _ => none
  | _ + 1, [] => some none
  | left + 1, b :: rest =>
    if isContinuation b then continueUtf8 (seen + 1) left rest else some (some seen)

/-- The fault of the character that starts with a lead byte. -/
def characterFault? (b : UInt8) (rest : List UInt8) : Option (Option Nat) :=
  match utf8Lead b with
  | none => some (some 1)
  | some (1, _) => none
  | some (n, low, high) =>
    match rest with
    | [] => some none
    | c :: rest => if low ≤ c && c ≤ high then continueUtf8 2 (n - 2) rest else some (some 1)

/-- The first fault from an index on; `skip` bytes belong to a character that is read. -/
def utf8FaultFrom (index skip : Nat) : List UInt8 → Option Utf8Fault
  | [] => none
  | b :: rest =>
    match skip with
    | skip + 1 => utf8FaultFrom (index + 1) skip rest
    | 0 =>
      match characterFault? b rest with
      | some length => some ⟨index, length⟩
      | none => utf8FaultFrom (index + 1) (((utf8Lead b).map (·.1)).getD 1 - 1) rest

/-- The first fault in bytes. -/
def utf8Fault? (bytes : ByteArray) : Option Utf8Fault := utf8FaultFrom 0 0 bytes.toList

end Toolwire.Text
