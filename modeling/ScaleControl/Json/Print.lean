import ScaleControl.Json.Value
import ScaleControl.Decimal.Layout
/-!
# Writing wire text

Writes a value on one line without blanks. A double is written from its shortest
digits, positionally while its decimal point stands between 5 places left of the first digit
and 16 places right of it (`0.00001`, `1000000000000000.0`), in exponent form beyond
(`1e-6`, `1e16`, `1.5e300`), and whole values keep a `.0`. Values that are not finite are
the strings `"nan"`, `"inf"` and `"-inf"`.
-/
namespace ScaleControl.Json

open Decimal

/-- Doubles on the wire. -/
def wireLayout : Layout :=
  { pointAbove := some (-5), pointAtMost := some 16, wholePoint := true,
    nanText := "nan", infText := "inf" }

/-- Four lowercase hexadecimal digits of `n < 65536`. -/
def hex4Text (n : Nat) : String :=
  let d (k : Nat) : Char := "0123456789abcdef".toList.getD ((n / Nat.pow 16 k) % 16) '0'
  String.ofList [d 3, d 2, d 1, d 0]

/-- A character inside a quoted string. -/
def escapeChar (c : Char) : String :=
  match c with
  | '"' => "\\\""
  | '\\' => "\\\\"
  | '\n' => "\\n"
  | '\r' => "\\r"
  | '\t' => "\\t"
  | _ => if c.toNat < 0x20 then "\\u" ++ hex4Text c.toNat else String.singleton c

/-- A string between quotes, escaped. -/
def quote (s : String) : String :=
  "\"" ++ String.join (s.toList.map escapeChar) ++ "\""

end Json

/-- The text of a number. -/
def Number.render : Number → String
  | .nat n => toString n
  | .neg i => toString i
  | .double x =>
    match Decimal.Binary.classify x with
    | .finite _ => Json.wireLayout.render x
    | _ => Json.quote (Json.wireLayout.render x)

namespace Json

mutual

/-- The text of a value. -/
def render : Json → String
  | .null => "null"
  | .bool b => if b then "true" else "false"
  | .num n => n.render
  | .str s => quote s
  | .arr items => "[" ++ renderItems items ++ "]"
  | .obj fields => "\x7b" ++ renderFields fields ++ "\x7d"

/-- Array items separated by commas. -/
def renderItems : List Json → String
  | [] => ""
  | [j] => render j
  | j :: js => render j ++ "," ++ renderItems js

/-- Object members separated by commas. -/
def renderFields : List (String × Json) → String
  | [] => ""
  | [(k, v)] => quote k ++ ":" ++ render v
  | (k, v) :: fs => quote k ++ ":" ++ render v ++ "," ++ renderFields fs

end

end Json

end ScaleControl
