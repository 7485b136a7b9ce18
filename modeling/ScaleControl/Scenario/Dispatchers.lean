import ScaleControl.Alerter
/-!
# Scripted alert dispatchers

The dispatchers of a scenario are numbered from zero; each one delivers, or fails with a
dispatch error when it is set to. An alert goes to them in order and stops at the first
failure, so the texts delivered are those of the dispatchers before it, each prefixed with
its number.
-/
namespace ScaleControl

/-- What the dispatchers answer to `message`: each one's outcome, and the texts delivered
before the first failure. -/
def deliver (failing : List Bool) (message : String) : List (Outcome Unit) × List String :=
  let outcomes := failing.zipIdx.map fun (f, i) =>
    if f then Except.error (ScaleError.dispatch ("dispatcher " ++ toString i ++ " down"))
    else .ok ()
  let delivered := (failing.zipIdx.takeWhile fun (f, _) => !f).map fun (_, i) =>
    toString i ++ ": " ++ message
  (outcomes, delivered)

/-- An alert of category `c` at `now` through the dispatchers: the alerter after it, whether
it was sent or the first dispatcher's error, and the texts delivered. Nothing is delivered
when the alerter holds the alert back. -/
def Alerter.send (a : Alerter) (failing : List Bool) (c : Category) (now : Nat)
    (message : String) : Alerter × Outcome Bool × List String :=
  let (outcomes, delivered) := deliver failing message
  let admitted := a.admits c now
  let (a, r) := a.dispatch c now outcomes
  (a, r, if admitted then delivered else [])

end ScaleControl
