import ScaleControl.Json.Value
import ScaleControl.Decimal.Layout
/-!
# Typed decoding of wire values

Decoders turn wire values into typed records and report the first mismatch in the words of
a derived decoder: `invalid type: string "x", expected u32`, ``missing field `min_instances` ``,
``unknown variant `sideways`, expected one of `none`, `scale_up`, `scale_down` ``.

A record is read from an object or, field by field in declaration order, from an array.
From an object the members are visited in key order and the first member that does not
decode is reported; only then is a missing field reported, the first in declaration order.
A field with a default, or an optional one, may be missing. Unknown members are ignored,
and a member written twice counts once, with its last value.
-/
namespace ScaleControl

/-- Doubles in messages: always positional, with `.0` on whole values. -/
def Json.messageLayout : Decimal.Layout :=
  { pointAbove := none, pointAtMost := none, wholePoint := true,
    nanText := "NaN", infText := "inf" }

/-- A character as a quoted string in a message shows it. -/
def Json.debugChar (c : Char) : String :=
  match c with
  | '"' => "\\\""
  | '\\' => "\\\\"
  | '\n' => "\\n"
  | '\r' => "\\r"
  | '\t' => "\\t"
  | _ =>
    if c.toNat = 0 then "\\0"
    else if c.toNat < 0x20 || (0x7f ≤ c.toNat && c.toNat < 0xa0) then
      "\\u\x7b" ++ String.ofList (Nat.toDigits 16 c.toNat) ++ "\x7d"
    else String.singleton c

/-- How a message names a value that did not fit. -/
def Json.unexpected : Json → String
  | .null => "null"
  | .bool b => "boolean `" ++ (if b then "true" else "false") ++ "`"
  | .num (.nat n) => "integer `" ++ toString n ++ "`"
  | .num (.neg i) => "integer `" ++ toString i ++ "`"
  | .num (.double x) => "floating point `" ++ messageLayout.render x ++ "`"
  | .str s => "string \"" ++ String.join (s.toList.map debugChar) ++ "\""
  | .arr _ => "sequence"
  | .obj _ => "map"

/-- Why a value does not decode. -/
inductive DecodeError where
  /-- The value has the wrong shape (`found` as `Json.unexpected` names it). -/
  | invalidType (found expected : String)
  /-- The value has the right shape but is out of range. -/
  | invalidValue (found expected : String)
  | invalidLength (length : Nat) (expected : String)
  | missingField (name : String)
  | unknownVariant (name : String) (variants : List String)
  /-- A rule of the reading itself, in its own words. -/
  | custom (text : String)

/-- Words between backticks, joined by commas. -/
def quotedList (names : List String) : String :=
  ", ".intercalate (names.map fun n => "`" ++ n ++ "`")

/-- The text of a decoding error. -/
def DecodeError.message : DecodeError → String
  | .invalidType found expected => "invalid type: " ++ found ++ ", expected " ++ expected
  | .invalidValue found expected => "invalid value: " ++ found ++ ", expected " ++ expected
  | .invalidLength n expected => "invalid length " ++ toString n ++ ", expected " ++ expected
  | .missingField name => "missing field `" ++ name ++ "`"
  | .unknownVariant name [] => "unknown variant `" ++ name ++ "`, there are no variants"
  | .unknownVariant name [v] =>
    "unknown variant `" ++ name ++ "`, expected `" ++ v ++ "`"
  | .unknownVariant name vs =>
    "unknown variant `" ++ name ++ "`, expected one of " ++ quotedList vs
  | .custom text => text

/-- Reads a typed value from a wire value. -/
abbrev Decoder (α : Type) := Json → Except DecodeError α

namespace Decoder

/-- A wrong shape for `expected`. -/
def mismatch {α : Type} (expected : String) (j : Json) : Except DecodeError α :=
  .error (.invalidType j.unexpected expected)

/-- An unsigned whole number below `2^bits`, named `name` in messages. -/
def unsigned (name : String) (bits : Nat) : Decoder Nat
  | .num (.nat n) =>
    if n < Nat.pow 2 bits then .ok n else .error (.invalidValue (Json.unexpected (.num (.nat n))) name)
  | .num (.neg i) => .error (.invalidValue (Json.unexpected (.num (.neg i))) name)
  | j => mismatch name j

/-- A 64-bit unsigned number. -/
def u64 : Decoder UInt64 := fun j => (unsigned "u64" 64 j).map Nat.toUInt64

/-- A 32-bit unsigned number. -/
def u32 : Decoder UInt32 := fun j => (unsigned "u32" 32 j).map Nat.toUInt32

/-- A 32-bit signed number, as an integer in `[-2^31, 2^31)`. -/
def i32 : Decoder Int
  | .num (.nat n) =>
    if n < Nat.pow 2 31 then .ok n else .error (.invalidValue (Json.unexpected (.num (.nat n))) "i32")
  | .num (.neg i) =>
    if -Int.ofNat (Nat.pow 2 31) ≤ i then .ok i else .error (.invalidValue (Json.unexpected (.num (.neg i))) "i32")
  | j => mismatch "i32" j

/-- A double; whole numbers become the nearest double. -/
def f64 : Decoder Float
  | .num (.nat n) => .ok (Decimal.nearestOfNat n)
  | .num (.neg i) => .ok (-(Decimal.nearestOfNat i.natAbs))
  | .num (.double x) => .ok x
  | j => mismatch "f64" j

/-- A boolean. -/
def bool : Decoder Bool
  | .bool b => .ok b
  | j => mismatch "a boolean" j

/-- A string. -/
def string : Decoder String
  | .str s => .ok s
  | j => mismatch "a string" j

/-- Reads `null` as none, anything else through `d`. -/
def option {α : Type} (d : Decoder α) : Decoder (Option α)
  | .null => .ok none
  | j => (d j).map some

/-- One of the named constants, written as its name. -/
def variant {α : Type} (cases : List (String × α)) : Decoder α
  | .str s =>
    match cases.find? (·.1 == s) with
    | some (_, a) => .ok a
    | none => .error (.unknownVariant s (cases.map (·.1)))
  | .obj [(s, .null)] =>
    match cases.find? (·.1 == s) with
    | some (_, a) => .ok a
    | none => .error (.unknownVariant s (cases.map (·.1)))
  | .obj [(_, j)] => mismatch "unit variant" j
  | .obj _ => .error (.invalidValue "map" "map with a single key")
  | j => mismatch "string or map" j

/-- Members in key order, a key written twice keeping its last value. -/
def sortMembers (members : List (String × Json)) : List (String × Json) :=
  let last := members.reverse.foldl
    (fun acc (k, v) => if acc.any (·.1 == k) then acc else (k, v) :: acc) []
  last.mergeSort fun a b => decide (a.1 ≤ b.1)

/-- Each member of an object through `d`, in key order. -/
def members {α : Type} (d : Decoder α) : Decoder (List (String × α))
  | .obj ms =>
    (sortMembers ms).foldlM (fun acc (k, v) => (d v).map fun a => acc ++ [(k, a)]) []
  | j => mismatch "a map" j

/-- Each item of an array through `d`. -/
def items {α : Type} (d : Decoder α) : Decoder (List α)
  | .arr vs => vs.mapM d
  | j => mismatch "a sequence" j

end Decoder

/-- Where the fields of a record come from. -/
inductive FieldSource where
  /-- The members of an object, in key order. -/
  | members (sorted : List (String × Json))
  /-- The items of an array, one per field in declaration order. -/
  | items (values : List Json)

/-- A field that could not be read. -/
inductive FieldError where
  /-- The member at this position in key order (or the item at this position) did not
  decode. -/
  | bad (position : Nat) (error : DecodeError)
  /-- The field is missing and has no default. -/
  | missing (error : DecodeError)

/-- Reading the fields of a record: every field is read, and every error is kept, so
that the one a derived decoder meets first can be chosen. The number threaded through is
the declaration index of the next field. -/
structure Fields (α : Type) where
  run : FieldSource → Nat → Nat × Except (List FieldError) α

namespace Fields

instance : Functor Fields where
  map f r := ⟨fun src i => let (n, v) := r.run src i; (n, v.map f)⟩

instance : Applicative Fields where
  pure a := ⟨fun _ i => (i, .ok a)⟩
  seq rf ra := ⟨fun src i =>
    let (i, f) := rf.run src i
    let (i, a) := (ra ()).run src i
    (i, match f, a with
      | .ok f, .ok a => .ok (f a)
      | .ok _, .error e => .error e
      | .error e, .ok _ => .error e
      | .error e, .error e2 => .error (e ++ e2))⟩

/-- A field read by `d`; when it is missing, `absent` gives its value or its error. -/
def read {α : Type} (name : String) (d : Decoder α) (absent : Except DecodeError α) :
    Fields α :=
  ⟨fun src i => (i + 1,
    match src with
    | .members sorted =>
      match sorted.findIdx? (·.1 == name) with
      | some pos =>
        match sorted[pos]? with
        | some (_, v) => (d v).mapError fun e => [.bad pos e]
        | none => absent.mapError fun e => [.missing e]
      | none => absent.mapError fun e => [.missing e]
    | .items values =>
      match values[i]? with
      | some v => (d v).mapError fun e => [.bad i e]
      | none => absent.mapError fun e => [.bad i e])⟩

/-- A field that must be present. -/
def required {α : Type} (name : String) (d : Decoder α) : Fields α :=
  read name d (.error (.missingField name))

/-- A field with a default value. -/
def withDefault {α : Type} (name : String) (d : Decoder α) (default : α) : Fields α :=
  read name d (.ok default)

/-- An optional field: missing or `null` is none. -/
def optional {α : Type} (name : String) (d : Decoder α) : Fields (Option α) :=
  read name (Decoder.option d) (.ok none)

end Fields

/-- The error a derived decoder meets first: from an object, the bad member first in key
order, else the first missing field; from an array, the first error in declaration
order. -/
def FieldError.first (fromArray : Bool) (errors : List FieldError) : DecodeError :=
  let bads := errors.filterMap fun | .bad p e => some (p, e) | .missing _ => none
  let best := bads.foldl (fun acc (p, e) =>
    match acc with
    | some (q, _) => if p < q then some (p, e) else acc
    | none => some (p, e)) none
  let firstMissing := errors.findSome? fun | .missing e => some e | .bad _ _ => none
  if fromArray then
    match errors.head? with
    | some (.bad _ e) => e
    | some (.missing e) => e
    | none => .custom "no error"
  else
    match best, firstMissing with
    | some (_, e), _ => e
    | none, some e => e
    | none, none => .custom "no error"

/-- A record named `typeName` with `count` fields, read by `fields`. A field missing from
an array and without default ends the array too early. -/
def Decoder.record {α : Type} (typeName : String) (count : Nat) (fields : Fields α) :
    Decoder α
  | .obj ms =>
    match (fields.run (.members (Decoder.sortMembers ms)) 0).2 with
    | .ok a => .ok a
    | .error es => .error (FieldError.first false es)
  | .arr vs =>
    let expected := "struct " ++ typeName ++ " with " ++ toString count ++
      (if count = 1 then " element" else " elements")
    match (fields.run (.items vs) 0).2 with
    | .ok a =>
      if vs.length ≤ count then .ok a
      else .error (.invalidLength vs.length "fewer elements in array")
    | .error es =>
      match FieldError.first true es with
      | .missingField _ => .error (.invalidLength vs.length expected)
      | e => .error e
  | j => Decoder.mismatch ("struct " ++ typeName) j

end ScaleControl
