/-!
# Binary64 numbers

IEEE 754 double precision with exact rational rounding: every operation computes its
result exactly and rounds once, to nearest with ties to even. A finite number is
`± mantissa * 2 ^ exponent` with a mantissa below `2 ^ 53`; `ofRatio` gives the canonical
one, whose mantissa is at least `2 ^ 52` unless the exponent is the least, `-1074`.
-/
namespace Toolwire.Number

/-! ## Rounding -/

/-- The integer nearest to `num / den`, ties to even. -/
def roundDiv (num den : Nat) : Nat :=
  let q := num / den
  let twice := 2 * (num % den)
  if den < twice || (twice == den && q % 2 == 1) then q + 1 else q

/-- `n * 2 ^ k`, rounded to the nearest integer with ties to even when `k` is negative. -/
def scaleTwo (n : Nat) (k : Int) : Nat :=
  if 0 ≤ k then n * Nat.pow 2 k.toNat else roundDiv n (Nat.pow 2 (-k).toNat)

theorem roundDiv_one (n : Nat) : roundDiv n 1 = n := by
  simp [roundDiv, Nat.mod_one]

/-! ## Numbers -/

/-- A double precision number. -/
inductive Binary64 where
  | nan
  | infinite (negative : Bool)
  | finite (negative : Bool) (mantissa : Nat) (exponent : Int)
  deriving DecidableEq, Repr, Inhabited

namespace Binary64

/-- Zero of either sign. -/
def zero (negative : Bool) : Binary64 := .finite negative 0 (-1074)

/-- The floor of the binary logarithm of a positive quotient. -/
def floorLog (num den : Nat) : Int :=
  let k : Int := (Nat.log2 num : Int) - (Nat.log2 den : Int)
  let reaches :=
    if 0 ≤ k then den * Nat.pow 2 k.toNat ≤ num else den ≤ num * Nat.pow 2 (-k).toNat
  if reaches then k else k - 1

/-- The number nearest to `num / den`, infinite beyond the range. -/
def ofRatio (negative : Bool) (num den : Nat) : Binary64 :=
  if num = 0 then zero negative
  else
    let e := max (floorLog num den - 52) (-1074)
    let m :=
      if 0 ≤ e then roundDiv num (den * Nat.pow 2 e.toNat)
      else roundDiv (num * Nat.pow 2 (-e).toNat) den
    let (m, e) := if m = 0x20000000000000 then (0x10000000000000, e + 1) else (m, e)
    if 971 < e then .infinite negative else .finite negative m e

/-- The number nearest to `num / den * 2 ^ k`. -/
def ofRatioScaled (negative : Bool) (num den : Nat) (k : Int) : Binary64 :=
  if 0 ≤ k then ofRatio negative (num * Nat.pow 2 k.toNat) den
  else ofRatio negative num (den * Nat.pow 2 (-k).toNat)

/-- The number nearest to a natural number. -/
def ofNat (n : Nat) : Binary64 := ofRatio false n 1

/-- The number nearest to an integer. -/
def ofInt (n : Int) : Binary64 := ofRatio (n < 0) n.natAbs 1

/-- The number nearest to `± digits * 10 ^ exponent`. -/
def ofDecimal (negative : Bool) (digits : Nat) (exponent : Int) : Binary64 :=
  if digits = 0 then zero negative
  else
    let size : Int := exponent + (Nat.log2 digits : Int) * 3 / 10
    if 400 < size then .infinite negative
    else if size < -400 then zero negative
    else if 0 ≤ exponent then ofRatio negative (digits * Nat.pow 10 exponent.toNat) 1
    else ofRatio negative digits (Nat.pow 10 (-exponent).toNat)

/-- The sign bit; that of a NaN is clear. -/
def isNegative : Binary64 → Bool
  | .nan => false
  | .infinite s => s
  | .finite s _ _ => s

/-- Neither NaN nor infinite. -/
def isFinite : Binary64 → Bool
  | .finite .. => true
  | _ => false

/-- Either zero. -/
def isZero : Binary64 → Bool
  | .finite _ m _ => m == 0
  | _ => false

/-- The number with its sign changed. -/
def neg : Binary64 → Binary64
  | .nan => .nan
  | .infinite s => .infinite !s
  | .finite s m e => .finite (!s) m e

/-- The rounded product. -/
def mul (a b : Binary64) : Binary64 :=
  let s := a.isNegative != b.isNegative
  match a, b with
  | .nan, _ | _, .nan => .nan
  | .infinite _, b => if b.isZero then .nan else .infinite s
  | a, .infinite _ => if a.isZero then .nan else .infinite s
  | .finite _ m e, .finite _ n f => ofRatioScaled s (m * n) 1 (e + f)

/-- The rounded quotient. -/
def div (a b : Binary64) : Binary64 :=
  let s := a.isNegative != b.isNegative
  match a, b with
  | .nan, _ | _, .nan => .nan
  | .infinite _, .infinite _ => .nan
  | .infinite _, _ => .infinite s
  | _, .infinite _ => zero s
  | .finite _ m e, .finite _ n f =>
    if n = 0 then (if m = 0 then .nan else .infinite s)
    else ofRatioScaled s m n (e - f)

/-- The power by repeated squaring, each product rounded. -/
def powSquaring (base : Binary64) (n : Nat) : Binary64 :=
  go base (ofNat 1) n 64
where
  go (a r : Binary64) (n : Nat) : Nat → Binary64
    | 0 => r
    | fuel + 1 =>
      let r := if n % 2 = 1 then mul r a else r
      if n / 2 = 0 then r else go (mul a a) r (n / 2) fuel

/-- The integer part, toward zero, of the magnitude of a finite number. -/
def magnitude (m : Nat) (e : Int) : Nat :=
  if 0 ≤ e then m * Nat.pow 2 e.toNat else m / Nat.pow 2 (-e).toNat

/-- The integer part clamped to `0 … limit`; NaN counts as zero. -/
def toNatSaturating (limit : Nat) : Binary64 → Nat
  | .nan => 0
  | .infinite s => if s then 0 else limit
  | .finite s m e => if s then 0 else min limit (magnitude m e)

end Binary64
end Toolwire.Number
