import ScaleControl.Decimal.Double
/-!
# Reading a decimal into a double

The reader of the wire format turns `significand · 10^exponent` into a double in two
rounded steps, not one: the significand (below `2^64`) becomes the nearest double, which
is then multiplied or divided by the double nearest to `10^|exponent|`. Exponents below
`-308` divide by `10^308` first, as often as needed; a zero significand stays zero. This
is not always the double nearest to the decimal: 17-digit decimals can land one unit in
the last place away, and the rest of the program sees that double.
-/
namespace ScaleControl.Decimal

/-- Why a decimal has no double. -/
inductive ReadError where
  /-- The decimal is beyond the largest finite double. -/
  | outOfRange

/-- Applies `10^exponent` to `f`, dividing by `10^308` first while the exponent is below
`-308`; at most `fuel` such divisions. -/
def scalePow (f : Float) (exponent : Int) (fuel : Nat) : Except ReadError Float :=
  if exponent.natAbs ≤ 308 then
    if exponent ≥ 0 then
      let g := f * powTen exponent.toNat
      if g.isInf then .error .outOfRange else .ok g
    else .ok (f / powTen exponent.natAbs)
  else if f == 0 then .ok f
  else if exponent ≥ 0 then .error .outOfRange
  else match fuel with
    | 0 => .ok (f / powTen 308)
    | fuel + 1 => scalePow (f / powTen 308) (exponent + 308) fuel

/-- The double the reader gives for `± significand · 10^exponent`. -/
def readDecimal (positive : Bool) (significand : Nat) (exponent : Int) :
    Except ReadError Float := do
  let f ← scalePow (nearestOfNat significand) exponent (exponent.natAbs / 308 + 1)
  return if positive then f else -f

end ScaleControl.Decimal
