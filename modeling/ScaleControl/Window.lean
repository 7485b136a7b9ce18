/-!
# Rolling windows

A window keeps the latest samples, at most its capacity of them (a capacity of zero keeps
one). Pushing into a full window evicts the oldest sample and returns it.
-/
namespace ScaleControl

/-- The latest samples, oldest first. -/
structure Window (α : Type) where
  capacity : Nat
  items : List α

namespace Window

/-- An empty window keeping at most `max c 1` samples. -/
def empty {α : Type} (c : Nat) : Window α := ⟨max c 1, []⟩

/-- Adds a sample, evicting the oldest one when the window is full. -/
def push {α : Type} (w : Window α) (a : α) : Option α × Window α :=
  if w.items.length = w.capacity then
    match w.items with
    | x :: rest => (some x, ⟨w.capacity, rest ++ [a]⟩)
    | [] => (none, ⟨w.capacity, [a]⟩)
  else (none, ⟨w.capacity, w.items ++ [a]⟩)

/-- The number of samples. -/
def length {α : Type} (w : Window α) : Nat := w.items.length

/-- The sum of doubles as the samples are added one by one, from negative zero. -/
def sum (xs : List Float) : Float := xs.foldl (· + ·) (-0.0)

/-- The mean of `f` over the samples; none for an empty window. -/
def mean {α : Type} (w : Window α) (f : α → Float) : Option Float :=
  if w.items.isEmpty then none
  else some (sum (w.items.map f) / w.items.length.toUInt64.toFloat)

end Window

end ScaleControl
