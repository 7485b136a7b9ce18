import ScaleControl.Decimal.Double
/-!
# Shortest decimal of a double

The fewest significant digits that read back as the same double, and of those the
decimal nearest to it. A double stands for the interval of reals that round to it: the
points halfway to its two neighbours, included when its mantissa is even. For `n = 1, 2, …`
digits the decimals on the grid `10^k` nearest to the value from below and above are tested
against that interval in exact arithmetic; the first `n` with a hit gives the answer. If a
point of a grid lies in the interval, so does one of these two neighbours, so no shorter
decimal is missed. Seventeen digits always reach the interval.
-/
namespace ScaleControl.Decimal

/-- A decimal `digits · 10^exponent`. -/
structure Digits where
  digits : Nat
  exponent : Int

/-- The number of decimal digits of `n`, one for zero. -/
def digitCount (n : Nat) : Nat :=
  if n < 10 then 1 else digitCount (n / 10) + 1
termination_by n
decreasing_by omega

/-- Compares `a · 10^k` with `b · 2^s`, in exact arithmetic. -/
def compareScaled (a : Nat) (k : Int) (b : Nat) (s : Int) : Ordering :=
  compare (a * Nat.pow 10 k.toNat * Nat.pow 2 (-s).toNat) (b * Nat.pow 2 s.toNat * Nat.pow 10 (-k).toNat)

/-- The floor `⌊b · 2^s / 10^k⌋`. -/
def floorScaled (b : Nat) (s : Int) (k : Int) : Nat :=
  (b * Nat.pow 2 s.toNat * Nat.pow 10 (-k).toNat) / (Nat.pow 10 k.toNat * Nat.pow 2 (-s).toNat)

/-- The floor `⌊log₁₀ (b · 2^s)⌋` for `b > 0` and `b · 2^s ≥ 10^-400`: scaling by `10^400` first keeps
the floor from crossing a power of ten. -/
def decimalExponent (b : Nat) (s : Int) : Int :=
  (digitCount (floorScaled b s (-400)) : Int) - 1 - 400

/-- Removes trailing zeros of the digits, raising the exponent. -/
def Digits.trim (d : Digits) (fuel : Nat) : Digits :=
  match fuel with
  | 0 => d
  | fuel + 1 =>
    if d.digits ≠ 0 ∧ d.digits % 10 = 0 then Digits.trim ⟨d.digits / 10, d.exponent + 1⟩ fuel
    else d

/-- The rounding interval of a positive finite double `m · 2^e`, scaled by `4`: the value
is `4m · 2^(e-2)`, the ends are `lower · 2^(e-2)` and `upper · 2^(e-2)`. -/
structure Interval where
  lower : Nat
  value : Nat
  upper : Nat
  scale : Int
  inclusive : Bool

/-- The interval of reals that round to the double `b`. -/
def Binary.interval (b : Binary) : Interval :=
  { lower := if b.atBinadeEdge then 4 * b.mantissa - 1 else 4 * b.mantissa - 2
    value := 4 * b.mantissa
    upper := 4 * b.mantissa + 2
    scale := b.exponent - 2
    inclusive := b.mantissa % 2 = 0 }

/-- Whether `c · 10^k` reads back as the double of the interval. -/
def Interval.admits (i : Interval) (c : Nat) (k : Int) : Bool :=
  let aboveLower := match compareScaled c k i.lower i.scale with
    | .gt => true
    | .eq => i.inclusive
    | .lt => false
  let belowUpper := match compareScaled c k i.upper i.scale with
    | .lt => true
    | .eq => i.inclusive
    | .gt => false
  aboveLower && belowUpper

/-- Of the two grid neighbours `lo · 10^k` and `(lo + 1) · 10^k`, the one that reads back,
the nearer when both do, the even one on a tie. -/
def Interval.pick (i : Interval) (lo : Nat) (k : Int) : Option Nat :=
  let hi := lo + 1
  match i.admits lo k, i.admits hi k with
  | true, true =>
    match compareScaled (lo + hi) k (2 * i.value) i.scale with
    | .gt => some lo
    | .lt => some hi
    | .eq => some (if lo % 2 = 0 then lo else hi)
  | true, false => some lo
  | false, true => some hi
  | false, false => none

/-- Searches `n, n+1, …` significant digits, at most `fuel` more of them. -/
def Interval.search (i : Interval) (e10 : Int) (n : Nat) (fuel : Nat) : Digits :=
  let k := e10 + 1 - n
  let lo := floorScaled i.value i.scale k
  match i.pick lo k, fuel with
  | some c, _ => ⟨c, k⟩
  | none, 0 => ⟨lo, k⟩
  | none, fuel + 1 => i.search e10 (n + 1) fuel

/-- The shortest decimal that reads back as the positive finite double `b`. -/
def Binary.shortest (b : Binary) : Digits :=
  let i := b.interval
  let d := i.search (decimalExponent i.value i.scale) 1 16
  d.trim (digitCount d.digits)

end ScaleControl.Decimal
