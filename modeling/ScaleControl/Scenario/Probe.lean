import ScaleControl.Service
import ScaleControl.Error
import ScaleControl.ReadingCache
/-!
# A scripted resource probe

The probe of a scenario answers its current reading, or fails with an unreachable broker
while it is set to fail. Every question counts, failed ones too. Readings reach the
controllers through the shared cache, which asks the probe only when its reading is stale.
-/
namespace ScaleControl

/-- The probe: its reading, whether it fails, and how often it was asked. -/
structure Probe where
  reading : Reading
  failing : Bool := false
  calls : Nat := 0

namespace Probe

/-- The reading of a probe given none: 10% memory used, free disk unknown. -/
def initial : Reading := ⟨10.0, none⟩

/-- What the probe says when it fails. -/
def failure : ScaleError := .telemetry "broker unreachable"

/-- Asks the probe. -/
def ask (p : Probe) : Probe × Outcome Reading :=
  ({ p with calls := p.calls + 1 }, if p.failing then .error failure else .ok p.reading)

end Probe

/-- The current reading through the cache at `now`, asking the probe when the cached one
is stale. -/
def ReadingCache.read (c : ReadingCache) (p : Probe) (now : Nat) :
    ReadingCache × Probe × Outcome Reading :=
  match c.fresh now with
  | some r => (c, p, .ok r)
  | none =>
    let (p, r) := p.ask
    let (c, r) := c.absorb now r
    (c, p, r)

end ScaleControl
