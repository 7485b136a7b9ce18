/-!
# Keyed lists

Entries under text keys, at most one per key, kept in the order keys were first put. A
put replaces the value of a key already present in place.
-/
namespace ScaleControl

/-- Entries under text keys. -/
abbrev Keyed (α : Type) := List (String × α)

namespace Keyed

variable {α : Type}

/-- The value under `key`. -/
def get? (t : Keyed α) (key : String) : Option α := (t.find? (·.1 == key)).map (·.2)

/-- Whether `key` has a value. -/
def contains (t : Keyed α) (key : String) : Bool := t.any (·.1 == key)

/-- Puts `v` under `key`, in place of an earlier value of the key. -/
def put (t : Keyed α) (key : String) (v : α) : Keyed α :=
  if t.contains key then t.map fun (k, w) => if k == key then (k, v) else (k, w)
  else t ++ [(key, v)]

/-- Removes the value under `key`. -/
def erase (t : Keyed α) (key : String) : Keyed α := t.filter (·.1 != key)

/-- Changes the value under `key` by `f`, if there is one. -/
def modify (t : Keyed α) (key : String) (f : α → α) : Keyed α :=
  t.map fun (k, w) => if k == key then (k, f w) else (k, w)

end Keyed

end ScaleControl
