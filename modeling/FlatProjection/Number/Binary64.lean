/-
IEEE 754 binary64 numbers kept as their bit pattern. Nothing here computes with them: the
library reads them from decimal text, compares them and writes them back, so the pattern and
an exact view as `±significand · 2^exponent` are all it needs.
-/

namespace FlatProjection.Number

/-- An IEEE 754 binary64 value, stored as its 64-bit pattern. -/
structure Binary64 where
  bits : UInt64
deriving DecidableEq, Inhabited

namespace Binary64

/-- The number of stored fraction bits. -/
def fractionWidth : Nat := 52

/-- The sign bit: set for negative values and for negative zero. -/
def negative (x : Binary64) : Bool := x.bits >>> 63 == 1

/-- The eleven exponent bits, as stored (biased). -/
def biasedExponent (x : Binary64) : Nat := ((x.bits >>> 52) &&& 0x7FF).toNat

/-- The 52 stored fraction bits. -/
def fraction (x : Binary64) : Nat := (x.bits &&& 0xFFFFFFFFFFFFF).toNat

/-- Zero of either sign. -/
def isZero (x : Binary64) : Bool := x.biasedExponent == 0 && x.fraction == 0

/-- Neither an infinity nor a NaN. -/
def isFinite (x : Binary64) : Bool := x.biasedExponent != 0x7FF

/-- A NaN: all exponent bits set and a fraction that is not zero. -/
def isNaN (x : Binary64) : Bool := x.biasedExponent == 0x7FF && x.fraction != 0

/-- The magnitude of a finite value as `significand · 2^exponent`, with the hidden bit made
explicit for normal numbers. -/
def significand (x : Binary64) : Nat :=
  if x.biasedExponent == 0 then x.fraction else x.fraction + Nat.pow 2 fractionWidth

/-- The binary exponent that scales `significand`. -/
def exponent (x : Binary64) : Int :=
  if x.biasedExponent == 0 then -1074 else (x.biasedExponent : Int) - 1075

/-- Builds the pattern from a sign, a biased exponent and a fraction. -/
def assemble (negative : Bool) (biasedExponent fraction : Nat) : Binary64 :=
  ⟨((if negative then 1 else 0 : UInt64) <<< 63) ||| ((biasedExponent.toUInt64 &&& 0x7FF) <<< 52) |||
    (fraction.toUInt64 &&& 0xFFFFFFFFFFFFF)⟩

/-- Zero with the given sign. -/
def zero (negative : Bool) : Binary64 := assemble negative 0 0

/-- The same magnitude with the sign bit flipped. -/
def neg (x : Binary64) : Binary64 := ⟨x.bits ^^^ ((1 : UInt64) <<< 63)⟩

/-- Numeric equality: the two zeros are equal, a NaN equals nothing, and otherwise equal
values have equal patterns. -/
def sameValue (x y : Binary64) : Bool :=
  if x.isNaN || y.isNaN then false
  else if x.isZero && y.isZero then true
  else x.bits == y.bits

end Binary64

end FlatProjection.Number
