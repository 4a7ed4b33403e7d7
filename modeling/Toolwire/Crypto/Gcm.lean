import Toolwire.Crypto.Aes
/-!
# Authenticated encryption

AES-256 in Galois counter mode with nonces of twelve bytes and no additional data. What is
encrypted ends in a tag of sixteen bytes, and only what carries the right tag is decrypted.
-/
namespace Toolwire.Crypto

/-- A way to encrypt bytes under a key and a nonce, and to decrypt them if they are whole. -/
structure Cipher where
  encrypt (key nonce plain : ByteArray) : ByteArray
  decrypt? (key nonce sealed : ByteArray) : Option ByteArray

namespace Gcm

/-- An element of the field of `2 ^ 128` elements. -/
structure Element where
  (high low : UInt64)
  deriving DecidableEq, Inhabited

/-- The bitwise exclusive or. -/
def Element.xor (x y : Element) : Element := ⟨x.high ^^^ y.high, x.low ^^^ y.low⟩

/-- Adds to `z` the product of `v` and the next `n` bits of a word, highest first, and gives
`v` times the power of `x` behind them. -/
def multiplyWord (bits zh zl vh vl : UInt64) : Nat → Element × Element
  | 0 => (⟨zh, zl⟩, ⟨vh, vl⟩)
  | n + 1 =>
    let taken := bits >>> 63 != 0
    let reduced := vl &&& 1 != 0
    let shifted := vh >>> 1
    multiplyWord (bits <<< 1) (if taken then zh ^^^ vh else zh) (if taken then zl ^^^ vl else zl)
      (if reduced then shifted ^^^ 0xe100000000000000 else shifted)
      (vl >>> 1 ||| vh <<< 63) n

/-- The product. -/
def Element.multiply (x y : Element) : Element :=
  let (z, v) := multiplyWord x.high 0 0 y.high y.low 64
  (multiplyWord x.low z.high z.low v.high v.low 64).1

/-- Two columns as a word. -/
def joined (a b : UInt32) : UInt64 := a.toUInt64 <<< 32 ||| b.toUInt64

/-- A block as an element. -/
def ofState (s : Aes.State) : Element := ⟨joined s.c0 s.c1, joined s.c2 s.c3⟩

/-- The element in sixteen bytes from an index on; bytes beyond the end are zero. -/
def elementAt (b : ByteArray) (i : Nat) : Element :=
  ⟨joined (Aes.columnAt b i) (Aes.columnAt b (i + 4)),
    joined (Aes.columnAt b (i + 8)) (Aes.columnAt b (i + 12))⟩

/-- Hashes `n` blocks of bytes from an index on. -/
def digestFrom (h : Element) (b : ByteArray) (z : Element) (i : Nat) : Nat → Element
  | 0 => z
  | n + 1 => digestFrom h b ((z.xor (elementAt b i)).multiply h) (i + 16) n

/-- The hash of bytes and of their number of bits. -/
def digest (h : Element) (b : ByteArray) : Element :=
  let z := digestFrom h b ⟨0, 0⟩ 0 ((b.size + 15) / 16)
  (z.xor ⟨0, (8 * b.size).toUInt64⟩).multiply h

/-- The block that a nonce and a counter make. -/
def counterBlock (nonce : ByteArray) (counter : UInt32) : Aes.State :=
  ⟨Aes.columnAt nonce 0, Aes.columnAt nonce 4, Aes.columnAt nonce 8, counter⟩

/-- The bytes of a word, highest first. -/
def pushHighFirst (b : ByteArray) (w : UInt64) : ByteArray :=
  ((((((((b.push (w >>> 56).toUInt8).push (w >>> 48).toUInt8).push (w >>> 40).toUInt8).push
    (w >>> 32).toUInt8).push (w >>> 24).toUInt8).push (w >>> 16).toUInt8).push
    (w >>> 8).toUInt8).push w.toUInt8)

/-- The bytes of an element. -/
def Element.push (b : ByteArray) (x : Element) : ByteArray :=
  pushHighFirst (pushHighFirst b x.high) x.low

/-- Enciphers `n` blocks of bytes from an index on; the last may be filled up. -/
def streamFrom (keys : List Aes.State) (nonce data done : ByteArray) (counter : UInt32)
    (i : Nat) : Nat → ByteArray
  | 0 => done
  | n + 1 =>
    let mask := ofState (Aes.encrypt keys (counterBlock nonce counter))
    streamFrom keys nonce data (((elementAt data i).xor mask).push done) (counter + 1) (i + 16) n

/-- Enciphers bytes, or deciphers them. -/
def stream (keys : List Aes.State) (nonce data : ByteArray) : ByteArray :=
  (streamFrom keys nonce data ByteArray.empty 2 0 ((data.size + 15) / 16)).extract 0 data.size

/-- The tag of enciphered bytes. -/
def tag (keys : List Aes.State) (nonce enciphered : ByteArray) : ByteArray :=
  let h := ofState (Aes.encrypt keys ⟨0, 0, 0, 0⟩)
  let mask := ofState (Aes.encrypt keys (counterBlock nonce 1))
  ((digest h enciphered).xor mask).push ByteArray.empty

/-- The size of a tag. -/
def tagSize : Nat := 16

/-- Encrypts bytes and appends their tag. -/
def encrypt (key nonce plain : ByteArray) : ByteArray :=
  let keys := Aes.expand key
  let enciphered := stream keys nonce plain
  enciphered ++ tag keys nonce enciphered

/-- Decrypts bytes that carry the right tag. -/
def decrypt? (key nonce sealed : ByteArray) : Option ByteArray :=
  if sealed.size < tagSize then none
  else
    let keys := Aes.expand key
    let enciphered := sealed.extract 0 (sealed.size - tagSize)
    let attached := sealed.extract (sealed.size - tagSize) sealed.size
    if (tag keys nonce enciphered).toList = attached.toList then
      some (stream keys nonce enciphered)
    else none

end Gcm

/-- AES-256 in Galois counter mode. -/
def Cipher.aesGcm : Cipher := ⟨Gcm.encrypt, Gcm.decrypt?⟩

end Toolwire.Crypto
