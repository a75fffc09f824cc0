import FlatProjection.Number.Shortest
/-
Laying out a decimal as text, positional or scientific.
-/

namespace FlatProjection.Number

/-- The choices of a decimal format. -/
structure DecimalStyle where
  /-- Leading exponents written positionally; `none` writes every number positionally. -/
  positional : Option (Int × Int)
  /-- Integral numbers written positionally end in `.0`. -/
  pointZero : Bool
  /-- A nonnegative exponent is written with `+`. -/
  plusExponent : Bool

/-- `count` copies of `c`. -/
def repeatChar (c : Char) (count : Nat) : String := String.ofList (List.replicate count c)

namespace Decimal

/-- Writes `digits · 10^exponent` without an exponent. -/
def positionalText (style : DecimalStyle) (digits : String) (exponent : Int) : String :=
  let length : Int := digits.length
  let before := length + exponent
  if 0 ≤ exponent then
    digits ++ repeatChar '0' exponent.toNat ++ (if style.pointZero then ".0" else "")
  else if 0 < before then
    String.ofList (digits.toList.take before.toNat) ++ "." ++
      String.ofList (digits.toList.drop before.toNat)
  else "0." ++ repeatChar '0' (-before).toNat ++ digits

/-- Writes `digits · 10^exponent` as `d.ddd` and a power of ten. -/
def scientificText (style : DecimalStyle) (digits : String) (exponent : Int) : String :=
  let lead : Int := exponent + digits.length - 1
  let mantissa :=
    match digits.toList with
    | [] => "0"
    | [d] => String.singleton d
    | d :: rest => String.singleton d ++ "." ++ String.ofList rest
  let sign := if lead < 0 then "-" else if style.plusExponent then "+" else ""
  mantissa ++ "e" ++ sign ++ toString lead.natAbs

/-- The text of a decimal in the given style. -/
def render (style : DecimalStyle) (d : Decimal) : String :=
  let sign := if d.negative then "-" else ""
  if d.digits == 0 then sign ++ (if style.pointZero then "0.0" else "0")
  else
    let digits := toString d.digits
    let lead : Int := d.exponent + digits.length - 1
    let inWindow :=
      match style.positional with
      | none => true
      | some (lo, hi) => lo ≤ lead && lead ≤ hi
    sign ++ (if inWindow then positionalText style digits d.exponent
      else scientificText style digits d.exponent)

end Decimal

end FlatProjection.Number
