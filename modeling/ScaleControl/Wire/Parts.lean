import ScaleControl.Wire.Codec
import ScaleControl.Json.Print
import ScaleControl.Pressure
import ScaleControl.Backoff
import ScaleControl.Convergence
import ScaleControl.Inventory
import ScaleControl.Queue
/-!
# Requests on single parts

Requests that exercise one part at a time: the models, a descriptor's backoff limits, a
rolling window, a backoff, the shutdown thresholds, the stage classifier, the convergence
policy, the queue profiles, the settings and the descriptor check.
-/
namespace ScaleControl.Wire

/-- Runs `step` over the items of `steps`, threading a state, collecting the answers. -/
def runSteps {σ : Type} (steps : List Json) (s : σ) (step : σ → Json → Answer (σ × Json)) :
    Answer (List Json) :=
  let run : Answer (σ × List Json) := steps.foldlM (fun (acc : σ × List Json) j => do
      let (s', out) ← step acc.1 j
      return (s', out :: acc.2)) (s, [])
  run.map fun r => r.2.reverse

/-- The items as the value of a `results` member. -/
def results (items : List Json) : Json := .obj [("results", .arr items)]

/-- A stage by the name reports use. -/
def stageJson (s : Stage) : Json := .str s.label

/-- What the models answer for one item. -/
def modelItem (j : Json) : Answer Json := do
  if let some v := j.field? "snapshot" then
    let s ← decodeAs snapshotDecoder v
    return .obj [("total", countJson s.total), ("opted_out", .bool s.optedOut),
      ("converged", .bool s.converged)]
  if let some v := j.field? "action" then
    let a ← decodeAs actionDecoder v
    return .obj [("display", .str a.display), ("no_op", .bool a.isNoOp),
      ("operation", .str a.operation.name)]
  if let some v := j.field? "stages" then
    let s ← decodeAs stagesDecoder v
    return .obj [("memory", stageJson s.memory), ("disk", stageJson s.disk),
      ("highest", stageJson s.highest)]
  if let some v := j.field? "error" then
    let e ← scaleErrorOf v
    return .obj [("kind", .str e.kind), ("display", .str e.message),
      ("recoverable", .bool e.recoverable)]
  if let some v := j.field? "utilisation" then
    return readingJson (← decodeAs readingDecoder v)
  .error (.badInput "item needs snapshot, action, stages, error or utilisation")

/-- The `models` request. -/
def modelsAnswer (req : Json) : Answer Json := do
  return results (← (← itemsOf req "items").mapM modelItem)

/-- The `descriptor` request. -/
def descriptorAnswer (req : Json) : Answer Json := do
  let d ← decodeAs descriptorDecoder (← need req "service")
  return .obj [("interval_secs", wordJson d.intervalSecs),
    ("backoff_limit", .obj [("none", countJson (d.backoffLimit .none)),
      ("scale_up", countJson (d.backoffLimit .scaleUp)),
      ("scale_down", countJson (d.backoffLimit .scaleDown))]),
    ("descriptor", descriptorJson d)]

/-- A window of doubles as a value, with what the last push evicted. -/
def windowJson (w : Window Float) (evicted : Option Float) : Json :=
  .obj [("evicted", Json.ofOption Json.ofFloat evicted), ("len", Json.ofNat w.length),
    ("is_empty", .bool w.items.isEmpty), ("capacity", Json.ofNat w.capacity),
    ("mean", Json.ofOption Json.ofFloat (w.mean id)),
    ("items", .arr (w.items.map Json.ofFloat))]

/-- The `window` request. -/
def windowAnswer (req : Json) : Answer Json := do
  let cap ← decodeAs Decoder.u64 (← need req "capacity")
  let out ← runSteps (← itemsOf req "steps") (Window.empty cap.toNat : Window Float) fun w st => do
    match ← stepName st with
    | "push" =>
      let (ev, w) := w.push (← floatAs (st.field "value"))
      return (w, windowJson w ev)
    | "inspect" => return (w, windowJson w none)
    | other => unknownStep other
  return results out

/-- The `backoff` request. -/
def backoffAnswer (req : Json) : Answer Json := do
  let d ← decodeAs descriptorDecoder (← need req "service")
  let out ← runSteps (← itemsOf req "steps") ((d, {}) : Descriptor × Backoff) fun (d, b) st => do
    let (d, b, result) ← match ← stepName st with
      | "enter" =>
        let op ← decodeAs operationDecoder (← need st "operation")
        pure (d, b.enter op, Json.null)
      | "should_skip" =>
        let d ← match st.field? "service" with
          | some .null | none => pure d
          | some v => decodeAs descriptorDecoder v
        match b.shouldSkip d with
        | some (skip, b) => pure (d, b, Json.bool skip)
        | none => throw (.panic "attempt to add with overflow")
      | "is_backing_off" => pure (d, b, Json.bool b.active)
      | other => unknownStep other
    return ((d, b), .obj [("result", result), ("backing_off", .bool b.active)])
  return results out

/-- Reads shutdown thresholds; a missing one keeps its default. -/
def thresholdsDecoder : Decoder Thresholds :=
  let dflt : Thresholds := {}
  Decoder.record "ShutdownThresholds" 3 <|
    (fun a b c => (⟨a, b, c⟩ : Thresholds))
      <$> Fields.withDefault "stage_one" Decoder.i32 dflt.stageOne
      <*> Fields.withDefault "stage_two" Decoder.i32 dflt.stageTwo
      <*> Fields.withDefault "stage_three" Decoder.i32 dflt.stageThree

/-- The thresholds of a request, the defaults when it gives none. -/
def thresholdsOf (req : Json) : Answer Thresholds := do
  return (← optionalAs thresholdsDecoder req "thresholds").getD {}

/-- The `should_shed` request. -/
def shouldShedAnswer (req : Json) : Answer Json := do
  let t ← thresholdsOf req
  let out ← (← itemsOf req "cases").mapM fun c => do
    let stage ← decodeAs stageDecoder (← need c "stage")
    let p ← decodeAs Decoder.i32 (← need c "priority")
    return .obj [("shed", .bool (t.shouldShed stage p)),
      ("threshold", Json.ofOption Json.ofInt (t.forStage stage))]
  return results out

/-- The `classify` request. -/
def classifyAnswer (req : Json) : Answer Json := do
  let m ← match req.field? "settings" with
    | some v => decodeAs monitoringDecoder v
    | none => pure {}
  let out ← (← itemsOf req "readings").mapM fun r => do
    let r ← readingOf r
    let s := m.classify r
    return .obj [("memory", stageJson s.memory), ("disk", stageJson s.disk),
      ("highest", stageJson s.highest), ("memory_alert_due", .bool (m.memoryAlertDue r)),
      ("disk_alert_due", .bool (m.diskAlertDue r))]
  return results out

/-- The most delays a report lists. -/
def listedDelays : Nat := 64

/-- Rounds with more attempts than this are not counted in reports. -/
def countedAttempts : Nat := 100000

/-- A convergence policy as reported. -/
def convergenceJson (c : Convergence) : Json :=
  .obj [("attempts", Json.ofNat c.attempts),
    ("delays_ms", .arr ((c.firstDelays listedDelays).map Json.ofNat)),
    ("delay_count", if c.attempts > countedAttempts then .null else Json.ofNat c.attempts),
    ("settle_delay_ms", Json.ofNat c.settleMs),
    ("max_capacity_requests", Json.ofNat c.maxCapacityRequests)]

/-- The `convergence` request. -/
def convergenceAnswer (req : Json) : Answer Json := do
  let c ← match req.field? "convergence" with
    | some v => decodeAs convergenceDecoder v
    | none => pure {}
  return convergenceJson c.policy

/-- The queue settings of a request, the defaults when it gives none. -/
def queueSettingsOf (req : Json) : Answer QueueSettings :=
  match req.field? "queue_settings" with
  | some v => decodeAs queueDecoder v
  | none => .ok {}

/-- The `profile` request. -/
def profileAnswer (req : Json) : Answer Json := do
  let q ← queueSettingsOf req
  let out ← (← itemsOf req "names").mapM fun n => do
    let name ← decodeAs (Decoder.option Decoder.string) n
    return profileJson (q.profile name)
  return results out

/-- The `settings` request: the settings with their derived values, once valid. -/
def settingsAnswer (req : Json) : Answer Json := do
  let s ← decodeAs settingsDecoder (← need req "settings")
  match s.validate with
  | .error e => return errorJson e
  | .ok () =>
    let m := s.monitoring
    return .obj [("source_refresh_period_secs", wordJson s.sourceRefreshSecs),
      ("initial_scaling_delay_secs", wordJson s.initialDelaySecs),
      ("scaling_delay_increment_secs", wordJson s.delayIncrementSecs),
      ("memory_limits", .arr [Json.ofFloat m.memoryStageOne, Json.ofFloat m.memoryStageTwo,
        Json.ofFloat m.memoryStageThree]),
      ("disk_free_limits_mb", .arr [wordJson m.diskStageOne, wordJson m.diskStageTwo,
        wordJson m.diskStageThree]),
      ("shutdown_thresholds", .arr [Json.ofInt m.shutdownOne, Json.ofInt m.shutdownTwo,
        Json.ofInt m.shutdownThree]),
      ("memory_alert_threshold", Json.ofFloat m.memoryAlert),
      ("disk_alert_threshold_mb", wordJson m.diskAlert),
      ("refresh_interval_secs", wordJson m.refreshIntervalSecs),
      ("alert_disabled", .bool s.alerts.disabled),
      ("alert_frequency_secs", Json.ofNat s.alerts.frequencySecs),
      ("convergence", convergenceJson s.convergence.policy),
      ("profiles", .obj (s.queue.profiles.map fun (n, p) => (n, profileJson p))),
      ("staging_queue_indicator", Json.ofOption Json.str s.queue.stagingIndicator)]

/-- The written form of a descriptor with its members in key order. -/
def descriptorKey (d : Descriptor) : String :=
  match descriptorJson d with
  | .obj fields => Json.render (.obj (Decoder.sortMembers fields))
  | j => Json.render j

/-- Descriptors in report order: by id, then by their written form. -/
def sortDescriptors (ds : List Descriptor) : List Descriptor :=
  ds.mergeSort fun a b =>
    a.id < b.id || (a.id == b.id && decide (descriptorKey a ≤ descriptorKey b))

/-- Keeps the first of equal descriptors. -/
def dedupDescriptors (ds : List Descriptor) : List Descriptor :=
  ds.foldl (fun acc d => if acc.contains d then acc else acc ++ [d]) []

/-- The `validate_descriptors` request. -/
def validateAnswer (req : Json) : Answer Json := do
  let known ← (← itemsOf req "known_metrics").mapM (decodeAs Decoder.string)
  let ds ← (← itemsOf req "services").mapM (decodeAs descriptorDecoder)
  let valid := sortDescriptors (validated known (dedupDescriptors ds))
  return .obj [("valid", .arr (valid.map descriptorJson))]

end ScaleControl.Wire
