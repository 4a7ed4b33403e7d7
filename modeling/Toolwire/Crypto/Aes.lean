import Toolwire.Crypto.Bytes
/-!
# AES-256

The block cipher AES with keys of 256 bits, in the direction of encryption. A block is four
columns of four bytes, the first byte of a column being its highest.
-/
namespace Toolwire.Crypto.Aes

/-- The product with `x` in the field of 256 elements. -/
@[inline] def double (b : UInt8) : UInt8 :=
  if b &&& 0x80 = 0 then b <<< 1 else (b <<< 1) ^^^ 0x1b

/-- The product in the field of 256 elements, over the `n` lowest bits of `b`. -/
def multiply (a b : UInt8) : Nat → UInt8
  | 0 => 0
  | n + 1 => (if b &&& 1 = 0 then 0 else a) ^^^ multiply (double a) (b >>> 1) n

/-- The power in the field of 256 elements. -/
def power (b : UInt8) : Nat → UInt8
  | 0 => 1
  | n + 1 => multiply b (power b n) 8

/-- Rotation of a byte to the left. -/
def rotate (b n : UInt8) : UInt8 := b <<< n ||| b >>> (8 - n)

/-- The substitution: the inverse, which is the 254th power, and an affine map. -/
def substitution (b : UInt8) : UInt8 :=
  let i := power b 254
  i ^^^ rotate i 1 ^^^ rotate i 2 ^^^ rotate i 3 ^^^ rotate i 4 ^^^ 0x63

/-- The substitution of every byte. -/
def table : ByteArray := ⟨((List.range 256).map fun n => substitution n.toUInt8).toArray⟩

/-- The substitution of a byte, looked up. -/
@[inline] def substitute (b : UInt8) : UInt8 := byteAt table b.toNat

/-- Four bytes as a column. -/
@[inline] def column (a b c d : UInt8) : UInt32 :=
  a.toUInt32 <<< 24 ||| b.toUInt32 <<< 16 ||| c.toUInt32 <<< 8 ||| d.toUInt32

/-- The substitution of every byte of a column. -/
def substituteColumn (w : UInt32) : UInt32 :=
  column (substitute (w >>> 24).toUInt8) (substitute (w >>> 16).toUInt8)
    (substitute (w >>> 8).toUInt8) (substitute w.toUInt8)

/-- A block. -/
structure State where
  (c0 c1 c2 c3 : UInt32)
  deriving DecidableEq, Inhabited

/-- The bitwise exclusive or. -/
def State.xor (s t : State) : State :=
  ⟨s.c0 ^^^ t.c0, s.c1 ^^^ t.c1, s.c2 ^^^ t.c2, s.c3 ^^^ t.c3⟩

/-- The column made of the first byte of one column, the second of the next, and so on. -/
@[inline] def shifted (a b c d : UInt32) (f : UInt8 → UInt8 → UInt8 → UInt8 → UInt32) : UInt32 :=
  f (substitute (a >>> 24).toUInt8) (substitute (b >>> 16).toUInt8)
    (substitute (c >>> 8).toUInt8) (substitute d.toUInt8)

/-- Substitutes the bytes, shifts the rows, and joins the bytes of each column by `f`. -/
@[inline] def State.shift (s : State) (f : UInt8 → UInt8 → UInt8 → UInt8 → UInt32) : State :=
  ⟨shifted s.c0 s.c1 s.c2 s.c3 f, shifted s.c1 s.c2 s.c3 s.c0 f,
    shifted s.c2 s.c3 s.c0 s.c1 f, shifted s.c3 s.c0 s.c1 s.c2 f⟩

/-- Mixes the bytes of a column. -/
def mix (a b c d : UInt8) : UInt32 :=
  let all := a ^^^ b ^^^ c ^^^ d
  column (a ^^^ all ^^^ double (a ^^^ b)) (b ^^^ all ^^^ double (b ^^^ c))
    (c ^^^ all ^^^ double (c ^^^ d)) (d ^^^ all ^^^ double (d ^^^ a))

/-- The rounds behind the first key. -/
def rounds (s : State) : List State → State
  | [] => s
  | [last] => (s.shift column).xor last
  | key :: keys => rounds ((s.shift mix).xor key) keys

/-- Encrypts a block under the keys of the rounds. -/
def encrypt (keys : List State) (s : State) : State :=
  match keys with
  | [] => s
  | first :: rest => rounds (s.xor first) rest

/-- The column in four bytes from an index on; bytes beyond the end are zero. -/
def columnAt (b : ByteArray) (i : Nat) : UInt32 :=
  column (byteAt b i) (byteAt b (i + 1)) (byteAt b (i + 2)) (byteAt b (i + 3))

/-- Four columns derived from two times four that stand before them; `spread` is applied to
the last column. -/
def derive (old recent : State) (spread : UInt32 → UInt32) : State :=
  let c0 := old.c0 ^^^ spread recent.c3
  let c1 := old.c1 ^^^ c0
  let c2 := old.c2 ^^^ c1
  ⟨c0, c1, c2, old.c3 ^^^ c2⟩

/-- The keys behind the first two; `constant` is a power of `x`. -/
def expandFrom (old recent : State) (constant : UInt8) : Nat → List State
  | 0 => []
  | n + 1 =>
    let next := derive old recent fun w =>
      substituteColumn (w <<< 8 ||| w >>> 24) ^^^ constant.toUInt32 <<< 24
    let after := derive recent next substituteColumn
    next :: after :: expandFrom next after (double constant) n

/-- The keys of the rounds. -/
def expand (key : ByteArray) : List State :=
  let first : State := ⟨columnAt key 0, columnAt key 4, columnAt key 8, columnAt key 12⟩
  let second : State := ⟨columnAt key 16, columnAt key 20, columnAt key 24, columnAt key 28⟩
  (first :: second :: expandFrom first second 1 7).take 15

end Toolwire.Crypto.Aes
