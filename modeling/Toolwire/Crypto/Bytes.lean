/-!
# Bytes by index

Data that is cut into blocks is read as if zeros followed it.
-/
namespace Toolwire.Crypto

/-- Data of a given size: keys, nonces and salts. -/
abbrev Bytes (size : Nat) := { bytes : ByteArray // bytes.size = size }

/-- The byte at an index; bytes beyond the end are zero. -/
@[inline] def byteAt (b : ByteArray) (i : Nat) : UInt8 := if h : i < b.size then b[i] else 0

end Toolwire.Crypto
