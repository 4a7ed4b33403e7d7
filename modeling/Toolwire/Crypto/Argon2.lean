import Toolwire.Crypto.Blake2
/-!
# Argon2id

The password hash Argon2id, version 19, with one lane: memory is filled block by block, each
block made from the one before it and another one that, in the first half of the first pass,
does not depend on the password.
-/
namespace Toolwire.Crypto.Argon2

/-- A block of memory: eight rows of sixteen words. -/
structure Block where
  (r0 r1 r2 r3 r4 r5 r6 r7 : Words)
  deriving DecidableEq, Inhabited

/-- The sum of two words and twice the product of their lower halves. -/
@[inline] def join (a b : UInt64) : UInt64 :=
  a + b + 2 * (a &&& 0xffffffff) * (b &&& 0xffffffff)

/-- One round over sixteen words. -/
def permute (w : Words) : Words := w.round fun _ => quarter join join join

namespace Block

/-- All words zero. -/
def zero : Block :=
  ⟨.zero, .zero, .zero, .zero, .zero, .zero, .zero, .zero⟩

/-- The rows. -/
def rows (b : Block) : List Words := [b.r0, b.r1, b.r2, b.r3, b.r4, b.r5, b.r6, b.r7]

/-- The bitwise exclusive or. -/
def xor (x y : Block) : Block :=
  ⟨x.r0.xor y.r0, x.r1.xor y.r1, x.r2.xor y.r2, x.r3.xor y.r3,
    x.r4.xor y.r4, x.r5.xor y.r5, x.r6.xor y.r6, x.r7.xor y.r7⟩

/-- Permutes every row. -/
def permuteRows (b : Block) : Block :=
  ⟨permute b.r0, permute b.r1, permute b.r2, permute b.r3,
    permute b.r4, permute b.r5, permute b.r6, permute b.r7⟩

/-- Exchanges rows and columns, a column being two words wide. -/
def transpose (b : Block) : Block :=
  ⟨⟨b.r0.w0, b.r0.w1, b.r1.w0, b.r1.w1, b.r2.w0, b.r2.w1, b.r3.w0, b.r3.w1,
      b.r4.w0, b.r4.w1, b.r5.w0, b.r5.w1, b.r6.w0, b.r6.w1, b.r7.w0, b.r7.w1⟩,
    ⟨b.r0.w2, b.r0.w3, b.r1.w2, b.r1.w3, b.r2.w2, b.r2.w3, b.r3.w2, b.r3.w3,
      b.r4.w2, b.r4.w3, b.r5.w2, b.r5.w3, b.r6.w2, b.r6.w3, b.r7.w2, b.r7.w3⟩,
    ⟨b.r0.w4, b.r0.w5, b.r1.w4, b.r1.w5, b.r2.w4, b.r2.w5, b.r3.w4, b.r3.w5,
      b.r4.w4, b.r4.w5, b.r5.w4, b.r5.w5, b.r6.w4, b.r6.w5, b.r7.w4, b.r7.w5⟩,
    ⟨b.r0.w6, b.r0.w7, b.r1.w6, b.r1.w7, b.r2.w6, b.r2.w7, b.r3.w6, b.r3.w7,
      b.r4.w6, b.r4.w7, b.r5.w6, b.r5.w7, b.r6.w6, b.r6.w7, b.r7.w6, b.r7.w7⟩,
    ⟨b.r0.w8, b.r0.w9, b.r1.w8, b.r1.w9, b.r2.w8, b.r2.w9, b.r3.w8, b.r3.w9,
      b.r4.w8, b.r4.w9, b.r5.w8, b.r5.w9, b.r6.w8, b.r6.w9, b.r7.w8, b.r7.w9⟩,
    ⟨b.r0.w10, b.r0.w11, b.r1.w10, b.r1.w11, b.r2.w10, b.r2.w11, b.r3.w10, b.r3.w11,
      b.r4.w10, b.r4.w11, b.r5.w10, b.r5.w11, b.r6.w10, b.r6.w11, b.r7.w10, b.r7.w11⟩,
    ⟨b.r0.w12, b.r0.w13, b.r1.w12, b.r1.w13, b.r2.w12, b.r2.w13, b.r3.w12, b.r3.w13,
      b.r4.w12, b.r4.w13, b.r5.w12, b.r5.w13, b.r6.w12, b.r6.w13, b.r7.w12, b.r7.w13⟩,
    ⟨b.r0.w14, b.r0.w15, b.r1.w14, b.r1.w15, b.r2.w14, b.r2.w15, b.r3.w14, b.r3.w15,
      b.r4.w14, b.r4.w15, b.r5.w14, b.r5.w15, b.r6.w14, b.r6.w15, b.r7.w14, b.r7.w15⟩⟩

/-- The block made from two: their rows are permuted, then their columns. -/
def compress (x y : Block) : Block :=
  let r := x.xor y
  r.permuteRows.transpose.permuteRows.transpose.xor r

/-- The block in 1024 bytes. -/
def ofBytes (b : ByteArray) : Block :=
  ⟨.ofBytes b 0, .ofBytes b 128, .ofBytes b 256, .ofBytes b 384,
    .ofBytes b 512, .ofBytes b 640, .ofBytes b 768, .ofBytes b 896⟩

/-- The bytes of a block. -/
def bytes (b : Block) : ByteArray := b.rows.foldl Words.push ByteArray.empty

/-- The word at an index below 128. -/
def word (b : Block) (i : Nat) : UInt64 := (b.rows.getD (i / 16) .zero).get (i % 16)

end Block

/-- How much memory is filled and how often. -/
structure Cost where
  /-- Blocks of memory, a multiple of four. -/
  blocks : Nat := 19456
  passes : Nat := 2
  deriving DecidableEq, Repr

/-- Digests of 64 bytes, each of the one before it, of which the first halves are kept; the
last one is kept whole. -/
def longHashFrom (done v : ByteArray) (left : Nat) : Nat → ByteArray
  | 0 => done ++ Blake2.hash left v
  | more + 1 =>
    let next := Blake2.hash 64 v
    longHashFrom (done ++ next.extract 0 32) next (left - 32) more

/-- The digest of any size of data. -/
def longHash (size : Nat) (data : ByteArray) : ByteArray :=
  let data := littleEndian size ++ data
  if size ≤ 64 then Blake2.hash size data
  else
    let first := Blake2.hash 64 data
    longHashFrom (first.extract 0 32) first (size - 32) ((size + 31) / 32 - 3)

/-- Bytes behind their number. -/
def counted (b : ByteArray) : ByteArray := littleEndian b.size ++ b

/-- The digest that the memory grows from. -/
def seed (cost : Cost) (size : Nat) (password salt : ByteArray) : ByteArray :=
  Blake2.hash 64 <|
    littleEndian 1 ++ littleEndian size ++ littleEndian cost.blocks ++ littleEndian cost.passes
      ++ littleEndian 19 ++ littleEndian 2 ++ counted password ++ counted salt
      ++ littleEndian 0 ++ littleEndian 0

/-- The block at an index of the first two. -/
def firstBlock (seed : ByteArray) (i : Nat) : Block :=
  .ofBytes (longHash 1024 (seed ++ littleEndian i ++ littleEndian 0))

/-- The addresses that do not depend on the password, 128 at a time. -/
def addresses (cost : Cost) (slice counter : Nat) : Block :=
  let input : Words :=
    ⟨0, 0, slice.toUInt64, cost.blocks.toUInt64, cost.passes.toUInt64, 2, counter.toUInt64,
      0, 0, 0, 0, 0, 0, 0, 0, 0⟩
  Block.zero.compress (Block.zero.compress { Block.zero with r0 := input })

/-- The index of the block that goes with the one before `i` in a pass, for a word that
chooses among those that may be used. -/
def reference (cost : Cost) (pass i : Nat) (choice : UInt64) : Nat :=
  let segment := cost.blocks / 4
  let slice := i / segment
  let area := if pass = 0 then i - 1 else cost.blocks - segment + i % segment - 1
  let low := (choice &&& 0xffffffff).toNat
  let back := area * (low * low / 0x100000000) / 0x100000000
  let first := if pass = 0 || slice = 3 then 0 else (slice + 1) * segment
  (first + (area - 1 - back)) % cost.blocks

/-- Fills the memory from block `i` on in a pass; `known` holds the addresses at hand. -/
def fillFrom (cost : Cost) (pass : Nat) (memory : Array Block) (known : Block) (i : Nat) :
    Nat → Array Block
  | 0 => memory
  | left + 1 =>
    let segment := cost.blocks / 4
    let slice := i / segment
    let place := i % segment
    let free := pass = 0 && slice < 2
    let known := if free && (place % 128 = 0 || i = 2) then
      addresses cost slice (place / 128 + 1) else known
    let before := memory.getD (if i = 0 then cost.blocks - 1 else i - 1) .zero
    let choice := if free then known.word (place % 128) else before.r0.w0
    let other := memory.getD (reference cost pass i choice) .zero
    let made := before.compress other
    let made := if pass = 0 then made else made.xor (memory.getD i .zero)
    fillFrom cost pass (memory.setIfInBounds i made) known (i + 1) left

/-- The memory after the passes from `pass` on, `left` of them. -/
def passes (cost : Cost) (pass : Nat) (memory : Array Block) : Nat → Array Block
  | 0 => memory
  | left + 1 =>
    let start := if pass = 0 then 2 else 0
    passes cost (pass + 1) (fillFrom cost pass memory .zero start (cost.blocks - start)) left

/-- The shortest salt, in bytes. -/
def minSalt : Nat := 8

/-- The digest of a password with a salt. -/
def hash (cost : Cost) (size : Nat) (password salt : ByteArray) : ByteArray :=
  let seed := seed cost size password salt
  let memory := ((Array.replicate cost.blocks Block.zero).setIfInBounds 0
    (firstBlock seed 0)).setIfInBounds 1 (firstBlock seed 1)
  let memory := passes cost 0 memory cost.passes
  longHash size (memory.getD (cost.blocks - 1) .zero).bytes

end Toolwire.Crypto.Argon2
