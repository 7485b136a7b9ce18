import ScaleControl.Decimal.Double
/-!
# A double at fixed places

The exact value of a double rounded to a fixed number of decimal places, a tie going to
the even last digit. The sign follows the sign bit, so a negative value that rounds to zero
keeps its `-`.
-/
namespace ScaleControl.Decimal

/-- The product `|b| · 10^places` rounded to a whole number. -/
def Binary.scaledRound (b : Binary) (places : Nat) : Nat :=
  if b.exponent ≥ 0 then b.mantissa * Nat.pow 2 b.exponent.toNat * Nat.pow 10 places
  else roundDiv (b.mantissa * Nat.pow 10 places) (Nat.pow 2 (-b.exponent).toNat)

/-- The digits of `n / 10^places` with exactly `places` of them after the point. -/
def pointed (n places : Nat) : String :=
  let whole := toString (n / Nat.pow 10 places)
  if places = 0 then whole
  else
    let frac := toString (n % Nat.pow 10 places)
    whole ++ "." ++ String.ofList (List.replicate (places - frac.length) '0') ++ frac

/-- The text of `x` with `places` decimals; `NaN`, `inf` and `-inf` when not finite. -/
def fixed (places : Nat) (x : Float) : String :=
  match Binary.classify x with
  | .nan => "NaN"
  | .infinite neg => if neg then "-inf" else "inf"
  | .finite b => (if b.negative then "-" else "") ++ pointed (b.scaledRound places) places

end ScaleControl.Decimal
