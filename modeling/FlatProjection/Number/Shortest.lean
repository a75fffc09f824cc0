import FlatProjection.Number.Nearest
/-
Writing binary64 values: the shortest decimal that reads back to the same value.
-/

namespace FlatProjection.Number

/-- A decimal number `±digits · 10^exponent`. -/
structure Decimal where
  negative : Bool
  digits : Nat
  exponent : Int
deriving DecidableEq, Inhabited

namespace Decimal

/-- Removes trailing zero digits, raising the exponent to keep the value. -/
def normalize (d : Decimal) : Decimal :=
  go (decimalLength d.digits) d
where
  go : Nat → Decimal → Decimal
    | 0, d => d
    | fuel + 1, d =>
      if d.digits != 0 && d.digits % 10 == 0 then
        go fuel { d with digits := d.digits / 10, exponent := d.exponent + 1 }
      else d

end Decimal

namespace Binary64

/-- The interval of reals that read back to a finite, nonzero value, as integers over a
common denominator: `(low, value, high, denominator, inclusive)`. -/
structure ReadBackInterval where
  low : Nat
  value : Nat
  high : Nat
  denominator : Nat
  inclusive : Bool

/-- The read-back interval of `x`. Below a power of two the lower neighbour is twice as
close, so the lower half-gap is halved there. -/
def readBackInterval (x : Binary64) : ReadBackInterval :=
  let up : Nat := if 0 ≤ x.exponent then Nat.pow 2 x.exponent.toNat else 1
  let down : Nat := if 0 ≤ x.exponent then 1 else Nat.pow 2 (-x.exponent).toNat
  let value := 4 * x.significand * up
  let lowerCloser := x.fraction == 0 && 1 < x.biasedExponent
  { low := value - (if lowerCloser then 1 else 2) * up
    value := value
    high := value + 2 * up
    denominator := 4 * down
    inclusive := x.significand % 2 == 0 }

/-- Whether `10 ^ k ≤ num / den`. -/
def tenPowLe (num den : Nat) (k : Int) : Bool :=
  if 0 ≤ k then den * Nat.pow 10 k.toNat ≤ num else den ≤ num * Nat.pow 10 (-k).toNat

/-- The decimal exponent of the leading digit: `10^e ≤ num / den < 10^(e+1)`. -/
def leadingExponent (num den : Nat) : Int :=
  let guess : Int := (decimalLength num : Int) - decimalLength den
  if tenPowLe num den guess then guess else guess - 1

/-- On the grid of step `10^step`, the grid point nearest to the value inside the
read-back interval, if the interval holds one. -/
def gridHit (r : ReadBackInterval) (step : Int) : Option Nat :=
  -- scale everything so that a grid point `c · 10^step` is the integer `c · unit`
  let unit := if 0 ≤ step then r.denominator * Nat.pow 10 step.toNat else r.denominator
  let widen := if 0 ≤ step then 1 else Nat.pow 10 (-step).toNat
  let low := r.low * widen
  let value := r.value * widen
  let high := r.high * widen
  let inside (c : Nat) : Bool :=
    if r.inclusive then low ≤ c * unit && c * unit ≤ high
    else low < c * unit && c * unit < high
  let below := value / unit
  let above := below + 1
  match inside below, inside above with
  | true, true =>
    let distBelow := value - below * unit
    let distAbove := above * unit - value
    if distBelow < distAbove then some below
    else if distAbove < distBelow then some above
    else if below % 2 == 0 then some below else some above
  | true, false => some below
  | false, true => some above
  | false, false => none

/-- The first of the grids for `length`, `length + 1`, … significant digits that holds a
point of the interval, with that point. -/
def firstHit (r : ReadBackInterval) (lead : Int) : Nat → Nat → Option (Nat × Int)
  | _, 0 => none
  | length, fuel + 1 =>
    let step := lead - length + 1
    match gridHit r step with
    | some c => some (c, step)
    | none => firstHit r lead (length + 1) fuel

/-- The shortest decimal that reads back to the finite value `x`, nearest to `x` among
those of that length. Zero is written with no digits beyond `0`. -/
def shortest (x : Binary64) : Decimal :=
  if x.isZero then ⟨x.negative, 0, 0⟩
  else
    let r := x.readBackInterval
    let lead := leadingExponent r.value r.denominator
    -- seventeen digits always suffice, and with 800 the grid holds the exact value itself
    match firstHit r lead 1 800 with
    | some (c, step) => Decimal.normalize ⟨x.negative, c, step⟩
    | none => ⟨x.negative, 0, 0⟩

end Binary64

end FlatProjection.Number
