import ScaleControl.Error
/-!
# Alerts

An alert of a category goes to every dispatcher in order. It is sent only when alerting is
enabled, some dispatcher exists, and no alert of the same category was sent less than the
frequency ago; categories do not hold each other back. A dispatcher that fails stops the
alert there, with its error, and the alert does not count as sent.
-/
namespace ScaleControl

/-- What an alert is about. -/
inductive Category where
  | memoryOverload
  | diskSpaceLow
  deriving DecidableEq

/-- The name of a category. -/
def Category.name : Category → String
  | .memoryOverload => "memory_overload"
  | .diskSpaceLow => "disk_space_low"

/-- The alerter: its dispatchers' count, the least time between two alerts of a category
(milliseconds), and when each category last went out. -/
structure Alerter where
  dispatchers : Nat
  frequencyMs : Nat
  disabled : Bool
  lastSent : List (Category × Nat) := []

namespace Alerter

/-- When an alert of `c` last went out. -/
def sentAt (a : Alerter) (c : Category) : Option Nat := (a.lastSent.find? (·.1 == c)).map (·.2)

/-- Whether an alert of `c` at `now` goes to the dispatchers. -/
def admits (a : Alerter) (c : Category) (now : Nat) : Bool :=
  !a.disabled && a.dispatchers > 0 &&
    match a.sentAt c with
    | some t => !(now - t < a.frequencyMs)
    | none => true

/-- Notes that an alert of `c` went out at `now`. -/
def markSent (a : Alerter) (c : Category) (now : Nat) : Alerter :=
  { a with lastSent := (c, now) :: a.lastSent.filter (·.1 != c) }

/-- The first failure among the dispatchers' outcomes, in order. -/
def firstFailure : List (Outcome Unit) → Option ScaleError
  | [] => none
  | .error e :: _ => some e
  | .ok () :: rest => firstFailure rest

/-- An alert of `c` at `now`, where `outcomes` are what the dispatchers would answer, in
order: whether it was sent, or the first dispatcher's error. -/
def dispatch (a : Alerter) (c : Category) (now : Nat) (outcomes : List (Outcome Unit)) :
    Alerter × Outcome Bool :=
  if !a.admits c now then (a, .ok false)
  else match firstFailure outcomes with
    | some e => (a, .error e)
    | none => (a.markSent c now, .ok true)

end Alerter

end ScaleControl
