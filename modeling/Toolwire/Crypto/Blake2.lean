import Toolwire.Crypto.Words
/-!
# BLAKE2b

The hash function BLAKE2b without a key, for any size of digest up to 64 bytes.
-/
namespace Toolwire.Crypto.Blake2

/-- The chained value: eight words. -/
structure Chain where
  (h0 h1 h2 h3 h4 h5 h6 h7 : UInt64)
  deriving DecidableEq, Inhabited

/-- The first chained value: the fractions of the square roots of the first eight primes. -/
def start : Chain :=
  ⟨0x6a09e667f3bcc908, 0xbb67ae8584caa73b, 0x3c6ef372fe94f82b, 0xa54ff53a5f1d36f1,
    0x510e527fade682d1, 0x9b05688c2b3e6c1f, 0x1f83d9abfb41bd6b, 0x5be0cd19137e2179⟩

/-- The order in which each round takes the words of a block. -/
def schedule : List (List Nat) := [
  [0, 1, 2, 3, 4, 5, 6, 7, 8, 9, 10, 11, 12, 13, 14, 15],
  [14, 10, 4, 8, 9, 15, 13, 6, 1, 12, 0, 2, 11, 7, 5, 3],
  [11, 8, 12, 0, 5, 2, 15, 13, 10, 14, 3, 6, 7, 1, 9, 4],
  [7, 9, 3, 1, 13, 12, 11, 14, 2, 6, 5, 10, 4, 0, 15, 8],
  [9, 0, 5, 7, 2, 4, 10, 15, 14, 1, 11, 12, 6, 8, 3, 13],
  [2, 12, 6, 10, 0, 11, 8, 3, 4, 13, 7, 5, 15, 14, 1, 9],
  [12, 5, 1, 15, 14, 13, 4, 10, 0, 7, 6, 3, 9, 2, 8, 11],
  [13, 11, 7, 14, 12, 1, 3, 9, 5, 0, 15, 4, 8, 6, 2, 10],
  [6, 15, 14, 9, 11, 3, 0, 8, 12, 2, 13, 7, 1, 4, 10, 5],
  [10, 2, 8, 4, 7, 6, 1, 5, 15, 11, 9, 14, 3, 12, 13, 0],
  [0, 1, 2, 3, 4, 5, 6, 7, 8, 9, 10, 11, 12, 13, 14, 15],
  [14, 10, 4, 8, 9, 15, 13, 6, 1, 12, 0, 2, 11, 7, 5, 3]]

/-- One round over the words of a block, taken in an order. -/
def round (block : Words) (order : List Nat) (v : Words) : Words :=
  v.round fun i =>
    let x := block.get (order.getD (2 * i) 0)
    let y := block.get (order.getD (2 * i + 1) 0)
    quarter (fun a b => a + b + x) (fun a b => a + b + y) (fun c d => c + d)

/-- Chains a block; `count` bytes are hashed with it. -/
def compress (h : Chain) (block : Words) (count : Nat) (last : Bool) : Chain :=
  let v : Words :=
    ⟨h.h0, h.h1, h.h2, h.h3, h.h4, h.h5, h.h6, h.h7,
      start.h0, start.h1, start.h2, start.h3, start.h4 ^^^ count.toUInt64,
      start.h5 ^^^ (count / 0x10000000000000000).toUInt64,
      if last then ~~~start.h6 else start.h6, start.h7⟩
  let v := schedule.foldl (fun v order => round block order v) v
  ⟨h.h0 ^^^ v.w0 ^^^ v.w8, h.h1 ^^^ v.w1 ^^^ v.w9, h.h2 ^^^ v.w2 ^^^ v.w10,
    h.h3 ^^^ v.w3 ^^^ v.w11, h.h4 ^^^ v.w4 ^^^ v.w12, h.h5 ^^^ v.w5 ^^^ v.w13,
    h.h6 ^^^ v.w6 ^^^ v.w14, h.h7 ^^^ v.w7 ^^^ v.w15⟩

/-- Chains the blocks of data from an index on, `more` of them before the last. -/
def chainBlocks (data : ByteArray) (h : Chain) (i : Nat) : Nat → Chain
  | 0 => compress h (.ofBytes data i) data.size true
  | more + 1 =>
    chainBlocks data (compress h (.ofBytes data i) (i + 128) false) (i + 128) more

/-- The bytes of a chained value. -/
def Chain.bytes (h : Chain) : ByteArray :=
  [h.h0, h.h1, h.h2, h.h3, h.h4, h.h5, h.h6, h.h7].foldl pushWord ByteArray.empty

/-- The digest of `size` bytes of data. -/
def hash (size : Nat) (data : ByteArray) : ByteArray :=
  let first := { start with h0 := start.h0 ^^^ 0x01010000 ^^^ size.toUInt64 }
  (chainBlocks data first 0 ((data.size - 1) / 128)).bytes.extract 0 size

end Toolwire.Crypto.Blake2
