/-!
# Wire values

The values that requests and answers are made of. Numbers keep the three kinds the
reader tells apart: a whole number written without sign, fraction or exponent that fits
in 64 bits, a negative whole number that fits in a signed 64-bit word, and every other
number as a double. Objects keep their members in the order they were written; a decoder
that needs a map ordered by key sorts them itself.
-/
namespace ScaleControl

/-- A number as the reader classifies it. -/
inductive Number where
  /-- A whole number in `[0, 2^64)` written with digits only. -/
  | nat (n : Nat)
  /-- A negative whole number in `[-2^63, 0)` written with digits only. -/
  | neg (n : Int)
  /-- Any other number, read as a double. -/
  | double (x : Float)

/-- A wire value. -/
inductive Json where
  | null
  | bool (b : Bool)
  | num (n : Number)
  | str (s : String)
  | arr (items : List Json)
  | obj (fields : List (String × Json))

namespace Json

/-- A whole number as a value. -/
def ofNat (n : Nat) : Json := .num (.nat n)

/-- A signed whole number as a value, in the kind the reader would give it. -/
def ofInt (i : Int) : Json := if i < 0 then .num (.neg i) else .num (.nat i.toNat)

/-- A double as a value. -/
def ofFloat (x : Float) : Json := .num (.double x)

/-- An optional value, with `null` for none. -/
def ofOption {α : Type} (f : α → Json) : Option α → Json
  | some a => f a
  | none => .null

/-- The member `key` of an object, the last one when it is written twice. -/
def field? (j : Json) (key : String) : Option Json :=
  match j with
  | .obj fields => (fields.reverse.find? (·.1 == key)).map (·.2)
  | _ => none

/-- The member `key` of an object, with `null` standing for a missing one. -/
def field (j : Json) (key : String) : Json := (j.field? key).getD .null

/-- Whether the value is `null`. -/
def isNull : Json → Bool
  | .null => true
  | _ => false

end Json

end ScaleControl
