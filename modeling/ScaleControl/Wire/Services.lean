import ScaleControl.Wire.Parts
import ScaleControl.Health
import ScaleControl.Alerter
import ScaleControl.ReadingCache
import ScaleControl.Scenario.Probe
import ScaleControl.Scenario.Dispatchers
/-!
# Requests on the shared services

The health registry, the alerter over dispatchers that deliver or fail, and the reading
cache over a probe, each driven step by step on a virtual clock.
-/
namespace ScaleControl.Wire

/-- A status read by name. -/
def statusDecoder : Decoder Status :=
  Decoder.variant [("healthy", .healthy), ("degraded", .degraded), ("unhealthy", .unhealthy)]

/-- A component's health as a value. -/
def componentJson (h : ComponentHealth) : Json :=
  .obj [("status", .str h.status.name), ("message", Json.ofOption Json.str h.message)]

/-- The health of all components as a value. -/
def healthJson (components : List (String × ComponentHealth)) : Json :=
  .obj [("status", .str (overallStatus components).name),
    ("components", .obj (components.map fun (n, h) => (n, componentJson h)))]

/-- Readiness as a value. -/
def readinessJson : Bool × Option String → Json
  | (ready, some reason) => .obj [("ready", .bool ready), ("reason", .str reason)]
  | (ready, none) => .obj [("ready", .bool ready)]

/-- What a reporter of fixed status answers: a healthy one carries no message. -/
def fixedReport (status : Status) (message : String) : ComponentHealth :=
  match status with
  | .healthy => .healthy
  | s => ⟨s, some message⟩

/-- The `health` request. -/
def healthAnswer (req : Json) : Answer Json := do
  let out ← runSteps (← itemsOf req "steps") ({} : HealthRegistry ComponentHealth) fun r st => do
    match ← stepName st with
    | "register" => return (r.register (← textOf st "name"), .null)
    | "set_healthy" => return (r.update (← textOf st "name") .healthy, .null)
    | "set_degraded" =>
      return (r.update (← textOf st "name") ⟨.degraded, some (← textOf st "message")⟩, .null)
    | "set_ready" => return ({ r with ready := ← decodeAs Decoder.bool (← need st "ready") }, .null)
    | "reporter" =>
      let status ← decodeAs statusDecoder (← need st "status")
      let message ← match st.field? "message" with
        | some (.str m) => pure m
        | _ => pure ""
      return (r.addReporter (← textOf st "name") (fixedReport status message), .null)
    | "health" => return (r, healthJson (r.health id))
    | "readiness" => return (r, readinessJson (r.readiness id))
    | other => unknownStep other
  return results out

/-- Dispatchers that deliver, or fail when set; the first one is numbered zero. -/
def dispatchersOf (req : Json) : Answer (List Bool) :=
  match req.field? "dispatchers" with
  | some (.arr ds) => ds.mapM fun d => do
      return (← optionalAs Decoder.bool d "fail").getD false
  | some .null | none => .ok [false]
  | some _ => .error (.badInput "field 'dispatchers' must be an array")

/-- A category read by name. -/
def categoryOf (j : Json) : Answer Category := do
  match ← textOf j "category" with
  | "memory_overload" => return .memoryOverload
  | "disk_space_low" => return .diskSpaceLow
  | other => .error (.badInput ("unknown alert category '" ++ other ++ "'"))

/-- The `alerter` request. -/
def alerterAnswer (req : Json) : Answer Json := do
  let settings ← match req.field? "settings" with
    | some v => decodeAs alertDecoder v
    | none => pure {}
  let failing ← dispatchersOf req
  let freqSecs ← match ← optionalAs Decoder.u64 req "frequency_secs" with
    | some f => pure f.toNat
    | none => pure settings.frequencySecs
  let a : Alerter := ⟨failing.length, freqSecs * 1000, settings.disabled, []⟩
  let out ← runSteps (← itemsOf req "steps") (a, 0) fun (a, now) st => do
    match ← stepName st with
    | "dispatch" =>
      let c ← categoryOf st
      let (a, r, delivered) := a.send failing c now (← textOf st "message")
      return ((a, now), .obj [("result", outcomeJson (fun b => .obj [("sent", .bool b)]) r),
        ("delivered", .arr (delivered.map Json.str))])
    | "advance" =>
      let secs ← decodeAs Decoder.u64 (← need st "secs")
      return ((a, now + secs.toNat * 1000), .obj [("result", .null), ("delivered", .arr [])])
    | other => unknownStep other
  return results out

/-- The probe of a request: its `probe` reading, or the initial one. -/
def probeOf (req : Json) : Answer Probe := do
  match req.field? "probe" with
  | some .null | none => return { reading := Probe.initial }
  | some v => return { reading := ← readingOf v }

/-- The `monitor` request. -/
def monitorAnswer (req : Json) : Answer Json := do
  let refresh ← decodeAs Decoder.u64 (← need req "refresh_interval_ms")
  let p ← probeOf req
  let c : ReadingCache := { refreshMs := refresh.toNat }
  let out ← runSteps (← itemsOf req "steps") (c, p, 0) fun (c, p, now) st => do
    let ((c, p, now), result) ← match ← stepName st with
      | "current" =>
        let (c, p, r) := c.read p now
        pure ((c, p, now), outcomeJson (fun r => .obj [("reading", readingJson r)]) r)
      | "advance" =>
        let ms ← decodeAs Decoder.u64 (← need st "ms")
        pure ((c, p, now + ms.toNat), Json.null)
      | "set_probe" => pure ((c, { p with reading := ← readingOf (← need st "reading") }, now), Json.null)
      | "probe_fail" =>
        pure ((c, { p with failing := ← decodeAs Decoder.bool (← need st "fail") }, now), Json.null)
      | other => unknownStep other
    return ((c, p, now), .obj [("result", result), ("probe_calls", Json.ofNat p.calls)])
  return results out

end ScaleControl.Wire
