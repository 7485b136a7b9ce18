import ScaleControl.Wire.ControllerSession
/-!
# Autoscaler requests

A whole autoscaler over a scripted inventory, driven step by step: started, refreshed,
left to run for a while, elected or rejected as the active instance, asked for its health,
readiness and scheduled services, and shut down, while the platform and the probe change.

Building it needs an inventory source, a platform, a probe and at least one analyser
factory, and valid settings; the first of these missing or wrong is the answer. A new
autoscaler is not the active one, so it sends no command that changes instances until it is
elected. Platform commands are reported per service, since their order across services
depends on scheduling.
-/
namespace ScaleControl.Wire

/-- The analyser factory a request describes. -/
def factoryOf (w : World) (j : Json) : Answer (World × Factory) := do
  match ← textOf j "kind" with
  | "static" => return (w, .fixed (← decodeAs actionDecoder (← need j "action")))
  | "broken" => return (w, .broken)
  | "queue" =>
    let settings ← queueSettingsOf j
    let source ← queueSourceOf j
    return ({ w with sources := w.sources.push source }, .queue settings w.sources.size)
  | other => .error (.badInput ("unknown factory kind '" ++ other ++ "'"))

/-- The factories of a request, one answering no action for `queue` when it gives none. -/
def factoriesOf (w : World) (req : Json) : Answer (World × Keyed Factory) := do
  match req.field? "factories" with
  | some (.obj fields) =>
    fields.foldlM (fun (acc : World × Keyed Factory) (metric, j) => do
      let (w, f) ← factoryOf acc.1 j
      return (w, acc.2.put metric f)) (w, [])
  | _ => return (w, [("queue", .fixed .noAction)])

/-- Why the autoscaler cannot be built, if it cannot. -/
def buildFailure (omitted : List String) (factories : Keyed Factory) (s : Settings) :
    Option ScaleError :=
  if omitted.contains "source" then some (.config "Service source is required")
  else if omitted.contains "scaler" then some (.config "Scaler is required")
  else if omitted.contains "probe" then some (.config "Resource probe is required")
  else if factories.isEmpty then
    some (.config "At least one workload analyser factory is required")
  else match s.validate with
    | .error e => some e
    | .ok () => none

/-- Starts the autoscaler: its reporters, a first refresh, the refresh loop, readiness. -/
def startAutoscaler (w : World) : Answer World := do
  let a := w.autoscaler
  let reporters : Keyed Reporter := [("source", .source), ("scaler", .scaler)] ++
    a.factories.map (fun (metric, _) => ("workload." ++ metric, .workload)) ++
    [("scheduler", .scheduler)]
  let health := reporters.foldl (fun h (name, r) => h.addReporter name r) a.health
  let w := w.withAutoscaler fun a => { a with health := health.register "refresh" }
  let (w, refreshed) := w.refresh
  if let .error crash := refreshed then .error (.panic crash)
  let (w, token) := w.newToken (some w.autoscaler.stop)
  let (w, job) := w.spawn (.refresh token (w.autoscaler.refreshPeriodSecs * 1000))
  return w.withAutoscaler fun a =>
    { a with refreshJob := some job
             health := { a.health with ready := true } }

/-- Waits for a loop to end. -/
def joinLoop (w : World) (job : Nat) : Answer World := do
  let (w, _) ← runDriver w (Prog.request (.join job))
  return w

/-- Shuts the reconciler down: forgets every scheduled service and cancels every controller,
then, service by service, unregisters it and waits for its loop to end. -/
def shutdownReconciler (w : World) : Answer World := do
  let drained := w.autoscaler.scheduled
  let w := (w.withAutoscaler fun a => { a with scheduled := [] }).cancel w.autoscaler.root
  drained.foldlM (fun w (id, s) => joinLoop { w with governor := w.governor.remove id } s.job) w

/-- Shuts the autoscaler down: stops the refresh loop, then the reconciler. -/
def shutdownAutoscaler (w : World) : Answer World := do
  let w := w.cancel w.autoscaler.stop
  let w ← match w.autoscaler.refreshJob with
    | some job => joinLoop (w.withAutoscaler fun a => { a with refreshJob := none }) job
    | none => pure w
  let w ← shutdownReconciler w
  return w.withAutoscaler fun a => { a with health := { a.health with ready := false } }

/-- The scheduled services as a value. -/
def scheduledJson (w : World) : Json :=
  let services := w.autoscaler.scheduled
  .obj [("count", Json.ofNat services.length),
    ("services", .obj (services.map fun (id, s) => (id, descriptorJson s.descriptor)))]

/-- One autoscaler step and its result. -/
def coreStep (w : World) (st : Json) : Answer (World × Json) := do
  let name ← stepName st
  match name with
  | "start" => return (← startAutoscaler w, .null)
  | "set_inventory" =>
    let services ← (← itemsOf st "services").mapM (decodeAs descriptorDecoder)
    return (w.withAutoscaler fun a => { a with inventory := services }, .null)
  | "inventory_fail" =>
    let fail ← decodeAs Decoder.bool (← need st "fail")
    return (w.withAutoscaler fun a => { a with inventoryFails := fail }, .null)
  | "refresh" =>
    match w.refresh with
    | (_, .error crash) => .error (.panic crash)
    | (w, .ok r) => return (w, outcomeJson (fun n => .obj [("scheduled", Json.ofNat n)]) r)
  | "sleep" =>
    let ms ← decodeAs Decoder.u64 (← need st "ms")
    let (w, ()) ← runDriver w (Prog.request (.pause ms.toNat))
    return (w, .null)
  | "elect" => return ({ w with active := true }, .bool true)
  | "reject" => return ({ w with active := false }, .bool false)
  | "health" => return (w, healthJson (w.autoscaler.health.health w.report))
  | "readiness" => return (w, readinessJson (w.autoscaler.health.readiness w.report))
  | "scheduled" => return (w, scheduledJson w)
  | "update" =>
    let services ← (← itemsOf st "services").mapM (decodeAs descriptorDecoder)
    match w.reconcile services with
    | (_, some crash) => .error (.panic crash)
    | (w, none) => return (w, Json.ofNat w.autoscaler.scheduled.length)
  | "shutdown" => return (← shutdownAutoscaler w, .null)
  | other =>
    match platformStep w st other with
    | some r => return (← r, .null)
    | none => unknownStep other

/-- The `core` request. -/
def coreAnswer (req : Json) : Answer Json := do
  let s ← settingsOf req "settings"
  let omitted ← (← itemsOf req "omit").mapM (decodeAs Decoder.string)
  let w ← worldOf req s
  let (w, factories) ← factoriesOf w req
  let inventory ← (← itemsOf req "inventory").mapM (decodeAs descriptorDecoder)
  match buildFailure omitted factories s with
  | some e => return .obj [("build", errorJson e)]
  | none =>
    let (w, root) := w.newToken none
    let (w, stop) := w.newToken none
    let w := { w with active := false
                      autoscaler := { inventory, factories, known := factories.map (·.1)
                                      root, stop
                                      initialDelaySecs := s.initialDelaySecs.toNat
                                      delayIncrementSecs := s.delayIncrementSecs.toNat
                                      refreshPeriodSecs := s.sourceRefreshSecs.toNat } }
    let out ← runSteps (← itemsOf req "steps") w fun w st => do
      let (w', result) ← coreStep w st
      return (w', stepReport true w w' result)
    return .obj [("build", .str "ok"), ("results", .arr out)]

end ScaleControl.Wire
