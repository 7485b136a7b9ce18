import ScaleControl.Keyed
/-!
# Health and readiness

Components report a status, healthy below degraded below unhealthy, with a message for
the latter two. A registry keeps pushed statuses and polls reporters, whose fresh answers
take the place of pushed statuses of the same name. The overall status comes from one scan
of the components, which stops at the first unhealthy one and otherwise notes whether one was
degraded; it is healthy when there are none. The autoscaler is ready once started, unless a
component is unhealthy.
-/
namespace ScaleControl

/-- How a component is doing. -/
inductive Status where
  | healthy
  | degraded
  | unhealthy
  deriving DecidableEq

namespace Status

/-- The statuses in order of severity. -/
def rank : Status → Nat
  | .healthy => 0
  | .degraded => 1
  | .unhealthy => 2

instance : LE Status := ⟨fun a b => a.rank ≤ b.rank⟩

instance (a b : Status) : Decidable (a ≤ b) := inferInstanceAs (Decidable (a.rank ≤ b.rank))

/-- The name of a status. -/
def name : Status → String
  | .healthy => "healthy"
  | .degraded => "degraded"
  | .unhealthy => "unhealthy"

end Status

/-- The health of one component. -/
structure ComponentHealth where
  status : Status
  message : Option String

/-- A healthy component. -/
def ComponentHealth.healthy : ComponentHealth := ⟨.healthy, none⟩

/-- Scans the components in order: unhealthy at the first unhealthy one; at the end, degraded
if one was degraded (or `degraded` was already set), else healthy. -/
def scanStatus : List (String × ComponentHealth) → Bool → Status
  | [], degraded => if degraded then .degraded else .healthy
  | (_, h) :: rest, degraded =>
    match h.status with
    | .unhealthy => .unhealthy
    | .degraded => scanStatus rest true
    | .healthy => scanStatus rest degraded

/-- The overall status of the components, healthy when there are none. -/
def overallStatus (components : List (String × ComponentHealth)) : Status :=
  scanStatus components false

/-- Pushed statuses and reporters, by name, and whether the autoscaler is ready. Reporters
are of any type `ρ`, answered when health is asked for. -/
structure HealthRegistry (ρ : Type) where
  components : Keyed ComponentHealth := []
  reporters : Keyed ρ := []
  ready : Bool := false

namespace HealthRegistry

variable {ρ : Type}

/-- Registers a component as healthy. -/
def register (r : HealthRegistry ρ) (name : String) : HealthRegistry ρ :=
  { r with components := r.components.put name .healthy }

/-- Pushes a status for a component. -/
def update (r : HealthRegistry ρ) (name : String) (h : ComponentHealth) : HealthRegistry ρ :=
  { r with components := r.components.put name h }

/-- Registers a reporter. -/
def addReporter (r : HealthRegistry ρ) (name : String) (rep : ρ) : HealthRegistry ρ :=
  { r with reporters := r.reporters.put name rep }

/-- Every component's health, reporters answered by `answer`. -/
def health (r : HealthRegistry ρ) (answer : ρ → ComponentHealth) :
    List (String × ComponentHealth) :=
  r.reporters.foldl (fun (acc : Keyed ComponentHealth) (name, rep) => acc.put name (answer rep))
    r.components

/-- Whether the autoscaler is ready, and why not. -/
def readiness (r : HealthRegistry ρ) (answer : ρ → ComponentHealth) : Bool × Option String :=
  if !r.ready then (false, some "Autoscaler not yet initialized")
  else if overallStatus (r.health answer) = .unhealthy then
    (false, some "Critical component unhealthy")
  else (true, none)

end HealthRegistry

end ScaleControl
