/-!
# Doubles as sign, mantissa and exponent

A finite double is `± m · 2^e` with a natural mantissa `m < 2^53`. This module takes a
double apart from its bits and builds the double nearest to a natural number, ties going
to the even mantissa. Printing and reading decimals work on these parts, in exact
natural-number arithmetic.
-/
namespace ScaleControl.Decimal

/-- A finite double as parts: the value is `(-1)^negative · mantissa · 2^exponent`. -/
structure Binary where
  negative : Bool
  mantissa : Nat
  exponent : Int

/-- What a double is: not a number, an infinity, or finite with its parts. -/
inductive Kind where
  | nan
  | infinite (negative : Bool)
  | finite (b : Binary)

/-- Takes a double apart from its bits. A subnormal double has exponent `-1074` and no
hidden bit; a normal one has the hidden bit `2^52` added to its fraction. -/
def Binary.classify (x : Float) : Kind :=
  let bits : Nat := x.toBits.toNat
  let negative := bits ≥ Nat.pow 2 63
  let biased : Nat := (bits / Nat.pow 2 52) % Nat.pow 2 11
  let fraction : Nat := bits % Nat.pow 2 52
  if biased = 2047 then
    if fraction = 0 then .infinite negative else .nan
  else if biased = 0 then
    .finite ⟨negative, fraction, -1074⟩
  else
    .finite ⟨negative, fraction + Nat.pow 2 52, (biased : Int) - 1075⟩

/-- Whether the value lies on the lowest edge of its binade, where the double below is
nearer than the double above. -/
def Binary.atBinadeEdge (b : Binary) : Bool :=
  b.mantissa = Nat.pow 2 52 && b.exponent > -1074

/-- The quotient `num / den` rounded to the nearest natural number, a tie going to the even one. -/
def roundDiv (num den : Nat) : Nat :=
  let q := num / den
  let r := num % den
  if 2 * r > den then q + 1
  else if 2 * r < den then q
  else if q % 2 = 0 then q else q + 1

/-- The double nearest to `n`, a tie going to the even mantissa. Numbers too large for a
double give infinity. -/
def nearestOfNat (n : Nat) : Float :=
  if n < Nat.pow 2 53 then n.toUInt64.toFloat
  else
    let shift := Nat.log2 n - 52
    let m := roundDiv n (Nat.pow 2 shift)
    -- rounding up can carry into a 54th bit, which is still exact as a double
    Float.scaleB m.toUInt64.toFloat shift

/-- The power `10^k` as the double nearest to it. -/
def powTen (k : Nat) : Float := nearestOfNat (Nat.pow 10 k)

end ScaleControl.Decimal
