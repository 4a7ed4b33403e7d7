import Toolwire.Number.Binary64
/-!
# Shortest decimals

The fewest significant digits that read back as the same binary64 number, and among
those the ones nearest to it. A number `m * 2 ^ e` owns the interval of reals that round
to it, its ends included iff `m` is even; for 1, 2, … 17 digits the two neighbours of the
value on that decimal grid are tried, and the first grid that has one inside wins.
-/
namespace Toolwire.Number

/-- A positive decimal `digits * 10 ^ exponent`. -/
structure Decimal where
  digits : Nat
  exponent : Int
  deriving DecidableEq, Repr

namespace Binary64

/-- The interval of a number on a common denominator: four times its mantissa with the
distances to its two ends, all to be multiplied by `2 ^ (e - 2)`. -/
def halfGapBelow (m : Nat) (e : Int) : Nat := if m = 0x10000000000000 && -1074 < e then 1 else 2

/-- The number of decimal digits of a positive integer. -/
def digitCount (n : Nat) : Nat := (Nat.toDigits 10 n).length

/-- Numerator and denominator of `n * 2 ^ k`. -/
def fraction (n : Nat) (k : Int) : Nat × Nat :=
  if 0 ≤ k then (n * Nat.pow 2 k.toNat, 1) else (n, Nat.pow 2 (-k).toNat)

/-- The exponent `t` with `10 ^ t ≤ num / den < 10 ^ (t + 1)`. -/
def floorLogTen (num den : Nat) : Int :=
  let t : Int :=
    if den ≤ num then (digitCount (num / den) : Int) - 1
    else -(digitCount ((den - 1) / num) : Int)
  t

/-- The grid point inside the interval nearest to the value, if the grid of step `10 ^ t`
has one; `value`, `low` and `high` share the denominator `den`. -/
def gridPoint (even : Bool) (value low high den : Nat) (t : Int) : Option Nat :=
  let scale : Nat := if 0 ≤ t then Nat.pow 10 t.toNat else 1
  let lift : Nat := if 0 ≤ t then 1 else Nat.pow 10 (-t).toNat
  let v := value * lift
  let step := den * scale
  let below := v / step
  let above := below + 1
  let inside (n : Nat) : Bool :=
    let x := n * step
    if even then low * lift ≤ x && x ≤ high * lift else low * lift < x && x < high * lift
  let okBelow := below != 0 && inside below
  let okAbove := inside above
  if okBelow && okAbove then
    let down := v - below * step
    let up := above * step - v
    if down < up || (down == up && below % 2 == 0) then some below else some above
  else if okBelow then some below
  else if okAbove then some above
  else none

/-- The first of the grids with 1, 2, … digits that has a point in the interval. -/
def shortestFrom (even : Bool) (value low high den : Nat) (top : Int) : Nat → Nat → Decimal
  | 0, count => ⟨value * 100000000000000000 / den, top - count⟩
  | fuel + 1, count =>
    let t := top - count
    match gridPoint even value low high den t with
    | some n => ⟨n, t⟩
    | none => shortestFrom even value low high den top fuel (count + 1)

/-- The shortest decimal of the positive number `m * 2 ^ e`. -/
def shortest (m : Nat) (e : Int) : Decimal :=
  let (num, den) := fraction (4 * m) (e - 2)
  let gap := (fraction 1 (e - 2)).1
  let value := num
  let low := value - halfGapBelow m e * gap
  let high := value + 2 * gap
  shortestFrom (m % 2 == 0) value low high den (floorLogTen value den) 18 0

/-- A decimal without trailing zeros in its digits. -/
def Decimal.strip (d : Decimal) : Nat → Decimal
  | 0 => d
  | fuel + 1 =>
    if d.digits != 0 && d.digits % 10 == 0 then
      Decimal.strip ⟨d.digits / 10, d.exponent + 1⟩ fuel
    else d

/-- Digits whose first stands for `10 ^ lead`, with a point and at least one digit behind it. -/
def positional (digits : List Char) (lead : Int) : List Char :=
  if lead < 0 then '0' :: '.' :: (List.replicate (-lead - 1).toNat '0' ++ digits)
  else
    let whole := lead.toNat + 1
    if digits.length ≤ whole then
      digits ++ List.replicate (whole - digits.length) '0' ++ ['.', '0']
    else digits.take whole ++ '.' :: digits.drop whole

/-- Digits whose first stands for `10 ^ lead`, with a signed exponent. -/
def scientific (digits : List Char) (lead : Int) : List Char :=
  let tail := digits.drop 1
  digits.take 1 ++ (if tail.isEmpty then [] else '.' :: tail)
    ++ 'e' :: (if lead < 0 then '-' else '+') :: Nat.toDigits 10 lead.natAbs

/-- Which leading exponents are written without an exponent. -/
def isModerate (lead : Int) : Bool := -5 ≤ lead && lead < 16

/-- Decimal text of the shortest digits, laid out by the exponent of the first. -/
def textWith (layout : List Char → Int → List Char) : Binary64 → String
  | .nan => "NaN"
  | .infinite s => if s then "-inf" else "inf"
  | .finite s m e =>
    let sign := if s then "-" else ""
    if m = 0 then sign ++ "0.0"
    else
      let d := Decimal.strip (shortest m e) 400
      let digits := Nat.toDigits 10 d.digits
      sign ++ String.ofList (layout digits (d.exponent + digits.length - 1))

/-- Decimal text of a number: the shortest digits, positional while the leading digit stands
for `10 ^ -5` to `10 ^ 15`, with a signed exponent otherwise. -/
def text (x : Binary64) : String :=
  x.textWith fun digits lead =>
    if isModerate lead then positional digits lead else scientific digits lead

/-- Decimal text of a number that is never written with an exponent. -/
def plainText (x : Binary64) : String := x.textWith positional

end Binary64
end Toolwire.Number
