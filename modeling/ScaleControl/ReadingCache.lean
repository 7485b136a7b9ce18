import ScaleControl.Service
import ScaleControl.Error
/-!
# Cached resource readings

Resource readings are shared by every controller and probed at most once per refresh
interval: a reading taken less than the interval ago is answered from the cache. A failed
probe leaves the cache as it was.
-/
namespace ScaleControl

/-- The last successful reading and when it was taken (milliseconds). -/
structure ReadingCache where
  refreshMs : Nat
  cached : Option (Nat × Reading) := none

namespace ReadingCache

/-- The cached reading if it is still fresh at `now`. -/
def fresh (c : ReadingCache) (now : Nat) : Option Reading :=
  match c.cached with
  | some (t, r) => if now - t < c.refreshMs then some r else none
  | none => none

/-- Keeps a reading probed at `now`. -/
def store (c : ReadingCache) (now : Nat) (r : Reading) : ReadingCache :=
  { c with cached := some (now, r) }

/-- Takes the answer of a probe made at `now`: a reading is kept, a failure leaves the
cache as it was. -/
def absorb (c : ReadingCache) (now : Nat) : Outcome Reading → ReadingCache × Outcome Reading
  | .ok r => (c.store now r, .ok r)
  | .error e => (c, .error e)

end ReadingCache

end ScaleControl
