import ScaleControl.Wire.Services
import ScaleControl.Wire.AnalyserSession
import ScaleControl.Scenario.Drive
/-!
# Scenarios on the wire

What the controller and autoscaler scenarios share: the platform, probe and dispatchers a
request sets up, the steps that change the platform or the probe, and the report after
each step: the step's result, the platform's records, the platform commands and alert texts
of the step, how often the probe was asked, and the virtual time.
-/
namespace ScaleControl.Wire

/-- The fuel of every program a scenario runs. -/
def driveFuel : Nat := 1000000

/-- A platform record given in a request; missing counts are zero. -/
def deploymentOf (j : Json) : Answer Deployment := do
  return { running := (← optionalAs Decoder.u32 j "running").getD 0
           staging := (← optionalAs Decoder.u32 j "staging").getD 0
           pending := (← optionalAs Decoder.u32 j "pending").getD 0
           priority := (← optionalAs Decoder.i32 j "shutdown_priority").getD 0 }

/-- The platform a request sets up. -/
def platformOf (req : Json) : Answer Platform := do
  let deployments ← match req.field? "platform" with
    | some (.obj fields) =>
      fields.foldlM (fun acc (id, v) => do return placeDeployment id (← deploymentOf v) acc) []
    | _ => pure []
  return { deployments, capacity := ← optionalAs Decoder.u32 req "capacity" }

/-- The world a request sets up with settings `s`, before any controller. -/
def worldOf (req : Json) (s : Settings) : Answer World := do
  let platform ← platformOf req
  let probe ← probeOf req
  let failing ← dispatchersOf req
  return { ctx := ⟨s.monitoring, s.convergence.policy⟩
           platform, probe
           cache := { refreshMs := s.monitoring.refreshIntervalSecs.toNat * 1000 }
           alerter := ⟨failing.length, s.alerts.frequencySecs * 1000, s.alerts.disabled, []⟩
           dispatchers := failing
           governor := { thresholds := s.monitoring.thresholds } }

/-- A flag of a step, or `current` when it is not given. -/
def flagOr (st : Json) (key : String) (current : Bool) : Answer Bool := do
  return (← optionalAs Decoder.bool st key).getD current

/-- The steps on the platform and the probe; `none` for any other step. -/
def platformStep (w : World) (st : Json) (name : String) : Option (Answer World) :=
  match name with
  | "set_probe" => some do
    return { w with probe := { w.probe with reading := ← readingOf (← need st "reading") } }
  | "probe_fail" => some do
    return { w with probe := { w.probe with failing := ← decodeAs Decoder.bool (← need st "fail") } }
  | "set_instances" => some do
    return { w with platform := w.platform.place (← textOf st "id") (← deploymentOf st) }
  | "remove_instances" => some do
    return { w with platform := w.platform.forget (← textOf st "id") }
  | "set_capacity" => some do
    return { w with platform := { w.platform with capacity := ← optionalAs Decoder.u32 st "capacity" } }
  | "scaler_fail" => some do
    let p := w.platform
    return { w with platform := { p with
      failReads := ← flagOr st "reads" p.failReads
      failScaleUp := ← flagOr st "scale_up" p.failScaleUp
      failScaleDown := ← flagOr st "scale_down" p.failScaleDown } }
  | _ => none

/-- The platform's records as a value. -/
def platformJson (p : Platform) : Json :=
  .obj (p.deployments.map fun (id, d) => (id, .obj [("running", countJson d.running),
    ("staging", countJson d.staging), ("pending", countJson d.pending),
    ("shutdown_priority", Json.ofInt d.priority)]))

/-- Commands grouped by service, services in order of their first command. -/
def groupedCalls (calls : List PlatformCall) : Json :=
  let groups := calls.foldl (fun (acc : Keyed (List String)) c =>
    match acc.get? c.service with
    | some verbs => acc.put c.service (verbs ++ [c.verb])
    | none => acc.put c.service [c.verb]) []
  .obj (groups.map fun (id, verbs) => (id, .arr (verbs.map Json.str)))

/-- The report after a step from `before` to `after` with `result`; commands are listed in
order, or grouped by service when `grouped`. -/
def stepReport (grouped : Bool) (before after : World) (result : Json) : Json :=
  let calls := after.platform.log.drop before.platform.log.length
  .obj [("result", result), ("platform", platformJson after.platform),
    ("calls", if grouped then groupedCalls calls else .arr (calls.map fun c => .str c.text)),
    ("alerts", .arr ((after.alerts.drop before.alerts.length).map Json.str)),
    ("probe_calls", Json.ofNat after.probe.calls), ("now_ms", Json.ofNat after.clock)]

/-- A result of the driver's program: its value, or the line fails with a crash. -/
def finished {α : Type} : Finish α → Answer α
  | .value a => .ok a
  | .crashed message => .error (.panic message)
  | .stalled => .error (.panic "the scenario stalled")

/-- Runs a program as the driver. -/
def runDriver {α : Type} (w : World) (p : Prog α) : Answer (World × α) := do
  let (w, fin) := w.drive driveFuel p
  return (w, ← finished fin)

/-- The text `ok`, or the error. -/
def doneJson : Outcome Unit → Json := outcomeJson fun _ => .str "ok"

end ScaleControl.Wire
