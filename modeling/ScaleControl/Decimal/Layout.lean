import ScaleControl.Decimal.Shortest
/-!
# Writing a double

A double is written from its shortest digits. A layout fixes the rest: the range of
decimal-point positions written positionally (outside it the exponent form `d.ddde±x` is
used, with no `+` and no padding), whether a whole value keeps a `.0`, and the texts of
the values that are not finite. Negative values, negative zero included, take a `-`.
-/
namespace ScaleControl.Decimal

/-- How a double is written. The point position of `digits · 10^k` with `n` digits is
`n + k`: the number of digits before the decimal point. -/
structure Layout where
  /-- Positional when the point position is above this bound (`none`: no bound). -/
  pointAbove : Option Int
  /-- Positional when the point position is at most this bound (`none`: no bound). -/
  pointAtMost : Option Int
  /-- Whether a whole value is written with `.0`. -/
  wholePoint : Bool
  nanText : String
  infText : String

/-- A run of `n` zeros. -/
def zeros (n : Nat) : String := String.ofList (List.replicate n '0')

/-- Whether the layout writes the point position `p` positionally. -/
def Layout.positional (l : Layout) (p : Int) : Bool :=
  (match l.pointAbove with | some a => a < p | none => true) &&
  (match l.pointAtMost with | some b => p ≤ b | none => true)

/-- The digits of a decimal, without sign. -/
def Layout.unsigned (l : Layout) (d : Digits) : String :=
  let ds := toString d.digits
  let n : Int := ds.length
  let p := n + d.exponent
  if l.positional p then
    if d.exponent ≥ 0 then
      ds ++ zeros d.exponent.toNat ++ (if l.wholePoint then ".0" else "")
    else if p > 0 then
      String.ofList (ds.toList.take p.toNat) ++ "." ++ String.ofList (ds.toList.drop p.toNat)
    else
      "0." ++ zeros (-p).toNat ++ ds
  else
    let mark := "e" ++ toString (p - 1)
    if ds.length = 1 then ds ++ mark
    else String.ofList (ds.toList.take 1) ++ "." ++ String.ofList (ds.toList.drop 1) ++ mark

/-- The text of a double in the layout. -/
def Layout.render (l : Layout) (x : Float) : String :=
  match Binary.classify x with
  | .nan => l.nanText
  | .infinite neg => (if neg then "-" else "") ++ l.infText
  | .finite b =>
    let sign := if b.negative then "-" else ""
    if b.mantissa = 0 then sign ++ (if l.wholePoint then "0.0" else "0")
    else sign ++ l.unsigned b.shortest

end ScaleControl.Decimal
