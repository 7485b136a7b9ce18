import ScaleControl.Json.Value
import ScaleControl.Decimal.Reading
/-!
# Reading wire text

Reads one value from its text. Numbers are classified as they are written: digits
alone give a whole number when it fits (`nat` below `2^64`, `neg` from `-2^63`), anything
with a fraction or an exponent, and any whole number that does not fit, gives a double.
A significand keeps at most the digits that fit in 64 bits: later whole digits raise the
exponent and later fraction digits are dropped. `-0` is the double negative zero.
-/
namespace ScaleControl.Json

open Decimal

/-- The largest 64-bit word. -/
def wordMax : Nat := Nat.pow 2 64 - 1

/-- Whether appending digit `d` to `sig` leaves 64 bits. -/
def overflows (sig d : Nat) : Bool := sig * 10 + d > wordMax

/-- The digit a character stands for. -/
def digitOf (c : Char) : Nat := c.toNat - '0'.toNat

/-- Whole digits after the first: they join the significand while it fits, then each one
raises the exponent. Returns the significand, the raised exponent and the rest. -/
def wholeDigits (sig : Nat) (raised : Nat) (full : Bool) : List Char → Nat × Nat × Bool × List Char
  | c :: r =>
    if c.isDigit then
      if full || overflows sig (digitOf c) then wholeDigits sig (raised + 1) true r
      else wholeDigits (sig * 10 + digitOf c) raised false r
    else (sig, raised, full, c :: r)
  | [] => (sig, raised, full, [])

/-- Fraction digits: each joins the significand and lowers the exponent, until one would
not fit; from there on they are dropped. Returns the significand, the exponent, how many
digits there were, and the rest. -/
def fractionDigits (sig : Nat) (exp : Int) (count : Nat) (full : Bool) :
    List Char → Nat × Int × Nat × List Char
  | c :: r =>
    if c.isDigit then
      if full || overflows sig (digitOf c) then fractionDigits sig exp (count + 1) true r
      else fractionDigits (sig * 10 + digitOf c) (exp - 1) (count + 1) false r
    else (sig, exp, count, c :: r)
  | [] => (sig, exp, count, [])

/-- The largest signed 32-bit word. -/
def halfWordMax : Nat := Nat.pow 2 31 - 1

/-- Exponent digits, while the exponent fits in a signed 32-bit word; `none` once it
would not. -/
def exponentDigits (e : Nat) : List Char → Option Nat × List Char
  | c :: r =>
    if c.isDigit then
      if e * 10 + digitOf c > halfWordMax then (none, (c :: r).dropWhile Char.isDigit)
      else exponentDigits (e * 10 + digitOf c) r
    else (some e, c :: r)
  | [] => (some e, [])

/-- The sum `a + b` clamped to a signed 32-bit word. -/
def clampWord (a : Int) : Int :=
  if a < -Int.ofNat (Nat.pow 2 31) then -Int.ofNat (Nat.pow 2 31)
  else if Int.ofNat halfWordMax < a then Int.ofNat halfWordMax
  else a

/-- Reads an exponent part after `e` or `E` and the double it gives. -/
def exponentPart (positive : Bool) (sig : Nat) (start : Int) (cs : List Char) :
    Except String (Float × List Char) :=
  let (up, cs) := match cs with
    | '+' :: r => (true, r)
    | '-' :: r => (false, r)
    | r => (true, r)
  match cs with
  | c :: r =>
    if c.isDigit then
      match exponentDigits (digitOf c) r with
      | (some e, rest) =>
        let final := clampWord (if up then start + e else start - e)
        match readDecimal positive sig final with
        | .ok f => .ok (f, rest)
        | .error _ => .error "number out of range"
      | (none, rest) =>
        if sig ≠ 0 && up then .error "number out of range"
        else .ok ((if positive then 0.0 else -0.0), rest)
    else .error "invalid number"
  | [] => .error "EOF while parsing a value"

/-- The double of a decimal without exponent part. -/
def decimalOnly (positive : Bool) (sig : Nat) (exp : Int) (rest : List Char) :
    Except String (Float × List Char) :=
  match readDecimal positive sig exp with
  | .ok f => .ok (f, rest)
  | .error _ => .error "number out of range"

/-- Reads a fraction part after `.`, then an exponent part if one follows. -/
def fractionPart (positive : Bool) (sig : Nat) (start : Int) (cs : List Char) :
    Except String (Float × List Char) :=
  match fractionDigits sig start 0 false cs with
  | (_, _, 0, _) => .error "invalid number"
  | (sig, exp, _, 'e' :: r) => exponentPart positive sig exp r
  | (sig, exp, _, 'E' :: r) => exponentPart positive sig exp r
  | (sig, exp, _, rest) => decimalOnly positive sig exp rest

/-- A whole number read as the reader keeps it. -/
def wholeNumber (positive : Bool) (sig : Nat) : Number :=
  if positive then .nat sig
  else if sig = 0 || sig > Nat.pow 2 63 then .double (-(nearestOfNat sig))
  else .neg (-(sig : Int))

/-- Reads a number after its optional sign. -/
def number (positive : Bool) (cs : List Char) : Except String (Number × List Char) :=
  let digits : Except String (Nat × Nat × Bool × List Char) :=
    match cs with
    | '0' :: r =>
      match r with
      | c :: _ => if c.isDigit then .error "invalid number" else .ok (0, 0, false, r)
      | [] => .ok (0, 0, false, r)
    | c :: r => if c.isDigit then .ok (wholeDigits (digitOf c) 0 false r) else .error "invalid number"
    | [] => .error "EOF while parsing a value"
  match digits with
  | .error e => .error e
  | .ok (sig, raised, full, rest) =>
    let asDouble (r : Except String (Float × List Char)) := r.map fun (f, rest) => (Number.double f, rest)
    match rest with
    | '.' :: r => asDouble (fractionPart positive sig raised r)
    | 'e' :: r => asDouble (exponentPart positive sig raised r)
    | 'E' :: r => asDouble (exponentPart positive sig raised r)
    | _ =>
      if full then asDouble (decimalOnly positive sig raised rest)
      else .ok (wholeNumber positive sig, rest)

/-- Skips blanks between tokens. -/
def skipBlank : List Char → List Char
  | c :: r => if c = ' ' || c = '\t' || c = '\n' || c = '\r' then skipBlank r else c :: r
  | [] => []

/-- The value of a hexadecimal digit. -/
def hexValue (c : Char) : Option Nat :=
  if c.isDigit then some (digitOf c)
  else if 'a' ≤ c && c ≤ 'f' then some (c.toNat - 'a'.toNat + 10)
  else if 'A' ≤ c && c ≤ 'F' then some (c.toNat - 'A'.toNat + 10)
  else none

/-- Four hexadecimal digits as a number. -/
def hex4 (a b c d : Char) : Option Nat := do
  return (← hexValue a) * 4096 + (← hexValue b) * 256 + (← hexValue c) * 16 + (← hexValue d)

/-- The characters of a string after its opening quote, up to the closing quote. -/
def stringBody (acc : List Char) : List Char → Except String (String × List Char)
  | '"' :: r => .ok (String.ofList acc.reverse, r)
  | '\\' :: 'u' :: a :: b :: c :: d :: r =>
    match hex4 a b c d with
    | none => .error "invalid escape"
    | some hi =>
      if 0xD800 ≤ hi ∧ hi < 0xDC00 then
        match r with
        | '\\' :: 'u' :: e :: f :: g :: h :: r' =>
          match hex4 e f g h with
          | some lo =>
            if 0xDC00 ≤ lo ∧ lo < 0xE000 then
              stringBody (Char.ofNat (0x10000 + (hi - 0xD800) * 1024 + (lo - 0xDC00)) :: acc) r'
            else .error "lone leading surrogate in hex escape"
          | none => .error "invalid escape"
        | _ => .error "lone leading surrogate in hex escape"
      else if 0xDC00 ≤ hi ∧ hi < 0xE000 then .error "lone trailing surrogate in hex escape"
      else stringBody (Char.ofNat hi :: acc) r
  | '\\' :: c :: r =>
    match c with
    | '"' => stringBody ('"' :: acc) r
    | '\\' => stringBody ('\\' :: acc) r
    | '/' => stringBody ('/' :: acc) r
    | 'b' => stringBody ('\x08' :: acc) r
    | 'f' => stringBody ('\x0c' :: acc) r
    | 'n' => stringBody ('\n' :: acc) r
    | 'r' => stringBody ('\r' :: acc) r
    | 't' => stringBody ('\t' :: acc) r
    | _ => .error "invalid escape"
  | c :: r =>
    if c.toNat < 0x20 then .error "control character while parsing a string"
    else stringBody (c :: acc) r
  | [] => .error "EOF while parsing a string"

mutual

/-- Reads one value; every call spends one unit of `fuel`. -/
def value (fuel : Nat) (cs : List Char) : Except String (Json × List Char) :=
  match fuel with
  | 0 => .error "recursion limit exceeded"
  | fuel + 1 =>
    match skipBlank cs with
    | 'n' :: 'u' :: 'l' :: 'l' :: r => .ok (.null, r)
    | 't' :: 'r' :: 'u' :: 'e' :: r => .ok (.bool true, r)
    | 'f' :: 'a' :: 'l' :: 's' :: 'e' :: r => .ok (.bool false, r)
    | '"' :: r => (stringBody [] r).map fun (s, r) => (.str s, r)
    | '[' :: r =>
      match skipBlank r with
      | ']' :: r' => .ok (.arr [], r')
      | _ => items fuel [] r
    | '{' :: r =>
      match skipBlank r with
      | '}' :: r' => .ok (.obj [], r')
      | _ => members fuel [] r
    | '-' :: r => (number false r).map fun (n, r) => (.num n, r)
    | r => (number true r).map fun (n, r) => (.num n, r)

/-- Reads the items of an array after its opening bracket. -/
def items (fuel : Nat) (acc : List Json) (cs : List Char) : Except String (Json × List Char) :=
  match fuel with
  | 0 => .error "recursion limit exceeded"
  | fuel + 1 => do
    let (v, r) ← value fuel cs
    match skipBlank r with
    | ',' :: r => items fuel (v :: acc) r
    | ']' :: r => .ok (.arr (v :: acc).reverse, r)
    | _ => .error "expected `,` or `]`"

/-- Reads the members of an object after its opening brace. -/
def members (fuel : Nat) (acc : List (String × Json)) (cs : List Char) :
    Except String (Json × List Char) :=
  match fuel with
  | 0 => .error "recursion limit exceeded"
  | fuel + 1 =>
    match skipBlank cs with
    | '"' :: r => do
      let (key, r) ← stringBody [] r
      match skipBlank r with
      | ':' :: r => do
        let (v, r) ← value fuel r
        match skipBlank r with
        | ',' :: r => members fuel ((key, v) :: acc) r
        | '}' :: r => .ok (.obj ((key, v) :: acc).reverse, r)
        | _ => .error "expected `,` or `\x7d`"
      | _ => .error "expected `:`"
    | _ => .error "key must be a string"

end

/-- Reads a whole text as one value, with nothing but blanks after it. -/
def parse (s : String) : Except String Json :=
  let cs := s.toList
  match value (3 * cs.length + 3) cs with
  | .ok (v, rest) => if (skipBlank rest).isEmpty then .ok v else .error "trailing characters"
  | .error e => .error e

end ScaleControl.Json
