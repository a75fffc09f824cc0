import FlatProjection.Number.Binary64
/-
Reading decimals: the nearest binary64 value, ties to even.
-/

namespace FlatProjection.Number

/-- The number of decimal digits of `n`, counting `0` as one digit. -/
def decimalLength (n : Nat) : Nat := (Nat.toDigits 10 n).length

namespace Binary64

/-- Whether `2 ^ k ≤ num / den`. -/
def twoPowLe (num den : Nat) (k : Int) : Bool :=
  if 0 ≤ k then den * Nat.pow 2 k.toNat ≤ num else den ≤ num * Nat.pow 2 (-k).toNat

/-- The finite binary64 value nearest to `num / den`, ties to even; `none` past the largest. -/
def nearestRatio (negative : Bool) (num den : Nat) : Option Binary64 :=
  let guess : Int := (num.log2 : Int) - den.log2
  -- `floorLog` is ⌊log₂ (num / den)⌋: the guess is right or one too large
  let floorLog := if twoPowLe num den guess then guess else guess - 1
  let scale : Int := max (floorLog - 52) (-1074)
  let (top, bottom) :=
    if 0 ≤ scale then (num, den * Nat.pow 2 scale.toNat) else (num * Nat.pow 2 (-scale).toNat, den)
  let quotient := top / bottom
  let twiceRest := 2 * (top % bottom)
  let rounded :=
    if twiceRest > bottom || (twiceRest == bottom && quotient % 2 == 1) then quotient + 1
    else quotient
  let (rounded, scale) := if rounded == Nat.pow 2 53 then (Nat.pow 2 52, scale + 1) else (rounded, scale)
  if rounded < Nat.pow 2 52 then some (assemble negative 0 rounded)
  else
    let biased := scale + 1075
    if 2047 ≤ biased then none else some (assemble negative biased.toNat (rounded - Nat.pow 2 52))

/-- The binary64 value nearest to `±digits · 10^exponent`; `none` when it is too large to
be finite. A zero keeps its sign. -/
def ofDecimal (negative : Bool) (digits : Nat) (exponent : Int) : Option Binary64 :=
  if digits == 0 then some (zero negative)
  else
    let magnitude := exponent + decimalLength digits
    if 310 < magnitude then none
    else if magnitude < -330 then some (zero negative)
    else if 0 ≤ exponent then nearestRatio negative (digits * Nat.pow 10 exponent.toNat) 1
    else nearestRatio negative digits (Nat.pow 10 (-exponent).toNat)

/-- The binary64 value nearest to an integer. -/
def ofInt (n : Int) : Binary64 :=
  (ofDecimal (n < 0) n.natAbs 0).getD (zero false)

end Binary64

end FlatProjection.Number
