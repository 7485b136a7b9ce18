import ScaleControl.Json.Decode
import ScaleControl.Error
/-!
# Answers on the wire

A request is answered with a value, or with one object that stands for the whole line:
a value of the program's own types that did not decode (`deserialize`), a request the
program cannot read (`bad_input`), or an arithmetic overflow (`panic`). A scaling error is
an object with its kind and message.
-/
namespace ScaleControl.Wire

/-- Why a whole request fails. -/
inductive Failure where
  /-- A value of the program's types did not decode. -/
  | decode (e : DecodeError)
  /-- The request itself cannot be read. -/
  | badInput (text : String)
  /-- Arithmetic overflowed. -/
  | panic (text : String)

/-- The object a failure answers with. -/
def Failure.toJson : Failure → Json
  | .decode e => .obj [("error", .str "deserialize"), ("message", .str e.message)]
  | .badInput t => .obj [("error", .str "bad_input"), ("message", .str t)]
  | .panic t => .obj [("error", .str "panic"), ("message", .str t)]

/-- A step of answering a request. -/
abbrev Answer (α : Type) := Except Failure α

/-- Decodes a value of the program's types. -/
def decodeAs {α : Type} (d : Decoder α) (j : Json) : Answer α := (d j).mapError .decode

/-- A field of the request; a missing one cannot be read. -/
def need (j : Json) (key : String) : Answer Json :=
  match j.field? key with
  | some v => .ok v
  | none => .error (.badInput ("missing field '" ++ key ++ "'"))

/-- An optional field of the request through `d`; missing or `null` is none. -/
def optionalAs {α : Type} (d : Decoder α) (j : Json) (key : String) : Answer (Option α) :=
  match j.field? key with
  | some .null | none => .ok none
  | some v => (decodeAs d v).map some

/-- A double of the request: a number, or one of the texts `nan`, `inf`, `-inf`. -/
def floatAs (j : Json) : Answer Float :=
  match j with
  | .str "nan" => .ok (0.0 / 0.0)
  | .str "inf" => .ok (1.0 / 0.0)
  | .str "-inf" => .ok (-1.0 / 0.0)
  | v => decodeAs Decoder.f64 v

/-- The items of an array of the request. -/
def itemsOf (j : Json) (key : String) : Answer (List Json) :=
  match j.field? key with
  | some (.arr items) => .ok items
  | some .null | none => .ok []
  | some _ => .error (.badInput ("field '" ++ key ++ "' must be an array"))

/-- A text field of the request. -/
def textOf (j : Json) (key : String) : Answer String := do
  decodeAs Decoder.string (← need j key)

/-- The name of a step: its `do` field. -/
def stepName (j : Json) : Answer String := textOf j "do"

/-- A scaling error as an object. -/
def errorJson (e : ScaleError) : Json :=
  .obj [("error", .str e.kind), ("message", .str e.message)]

/-- A result or its error. -/
def outcomeJson {α : Type} (f : α → Json) : Outcome α → Json
  | .ok a => f a
  | .error e => errorJson e

/-- An unknown step name. -/
def unknownStep {α : Type} (name : String) : Answer α :=
  .error (.badInput ("unknown step '" ++ name ++ "'"))

end ScaleControl.Wire
