import ScaleControl.Wire.Basic
import ScaleControl.Service
import ScaleControl.Settings
/-!
# The program's types on the wire

Decoders and writers for descriptors, snapshots, actions, stages, readings and settings,
with the field names, declaration orders and defaults of their wire form. Stages are read
as `no_stage`, `stage1`, `stage2`, `stage3` but reported as `no_stage`, `stage_1`, …
-/
namespace ScaleControl.Wire

open Fields

/-- Reads a descriptor. -/
def descriptorDecoder : Decoder Descriptor :=
  Decoder.record "ServiceDescriptor" 10 <|
    (fun id iv mn mx b up dn wm st sp => (⟨id, iv, mn, mx, b, up, dn, wm, st, sp⟩ : Descriptor))
      <$> required "id" Decoder.string
      <*> required "interval_secs" Decoder.u64
      <*> required "min_instances" Decoder.u32
      <*> required "max_instances" Decoder.u32
      <*> required "backoff_amount" Decoder.u32
      <*> optional "scale_up_backoff_amount" Decoder.u32
      <*> optional "scale_down_backoff_amount" Decoder.u32
      <*> required "workload_metric" Decoder.string
      <*> required "scaling_target" Decoder.string
      <*> optional "scaling_profile" Decoder.string

/-- A count as a value. -/
def countJson (n : UInt32) : Json := Json.ofNat n.toNat

/-- A 64-bit number as a value. -/
def wordJson (n : UInt64) : Json := Json.ofNat n.toNat

/-- A descriptor as a value. -/
def descriptorJson (d : Descriptor) : Json :=
  .obj [("id", .str d.id), ("interval_secs", wordJson d.intervalSecs),
    ("min_instances", countJson d.minInstances), ("max_instances", countJson d.maxInstances),
    ("backoff_amount", countJson d.backoffAmount),
    ("scale_up_backoff_amount", Json.ofOption countJson d.scaleUpBackoff),
    ("scale_down_backoff_amount", Json.ofOption countJson d.scaleDownBackoff),
    ("workload_metric", .str d.workloadMetric), ("scaling_target", .str d.scalingTarget),
    ("scaling_profile", Json.ofOption Json.str d.scalingProfile)]

/-- Reads a snapshot. -/
def snapshotDecoder : Decoder Snapshot :=
  Decoder.record "InstanceSnapshot" 4 <|
    (fun r s t p => (⟨r, s, t, p⟩ : Snapshot))
      <$> required "running" Decoder.u32
      <*> required "staging" Decoder.u32
      <*> required "total_registered" Decoder.u32
      <*> required "shutdown_priority" Decoder.i32

/-- Reads an operation by name. -/
def operationDecoder : Decoder Operation :=
  Decoder.variant [("none", .none), ("scale_up", .scaleUp), ("scale_down", .scaleDown)]

/-- Reads an action. -/
def actionDecoder : Decoder Action :=
  Decoder.record "ScalingAction" 2 <|
    (fun o a => (⟨o, a⟩ : Action))
      <$> required "operation" operationDecoder
      <*> required "amount" Decoder.u32

/-- An action as a value. -/
def actionJson (a : Action) : Json :=
  .obj [("operation", .str a.operation.name), ("amount", countJson a.amount)]

/-- Reads a stage by its input name. -/
def stageDecoder : Decoder Stage :=
  Decoder.variant [("no_stage", .none), ("stage1", .one), ("stage2", .two), ("stage3", .three)]

/-- Reads the stages of memory and disk. -/
def stagesDecoder : Decoder Stages :=
  Decoder.record "ResourceLimitStagesReached" 2 <|
    (fun m d => (⟨m, d⟩ : Stages))
      <$> required "memory" stageDecoder
      <*> required "disk" stageDecoder

/-- Reads a resource reading. -/
def readingDecoder : Decoder Reading :=
  Decoder.record "ResourceUtilisation" 2 <|
    (fun m d => (⟨m, d⟩ : Reading))
      <$> required "memory_used_percent" Decoder.f64
      <*> optional "disk_free_mb" Decoder.u64

/-- Reads a resource reading given in a request: the percentage may also be `nan`, `inf`
or `-inf`. -/
def readingOf (j : Json) : Answer Reading := do
  let m ← floatAs (j.field "memory_used_percent")
  let d ← optionalAs Decoder.u64 j "disk_free_mb"
  return ⟨m, d⟩

/-- A reading as a value. -/
def readingJson (r : Reading) : Json :=
  .obj [("memory_used_percent", Json.ofFloat r.memoryUsedPercent),
    ("disk_free_mb", Json.ofOption wordJson r.diskFreeMb)]

/-- Reads a queue profile. -/
def profileDecoder : Decoder QueueProfile :=
  Decoder.record "QueueProfileSettings" 2 <|
    (fun s b => (⟨s, b⟩ : QueueProfile))
      <$> required "scaling_delay" Decoder.u32
      <*> required "backlog_goal" Decoder.u32

/-- A queue profile as a value. -/
def profileJson (p : QueueProfile) : Json :=
  .obj [("scaling_delay", countJson p.scalingDelay), ("backlog_goal", countJson p.backlogGoal)]

/-- Reads the resource monitoring settings. -/
def monitoringDecoder : Decoder MonitoringSettings :=
  let dflt : MonitoringSettings := {}
  Decoder.record "ResourceMonitoringSettings" 12 <|
    (fun m1 m2 m3 d1 d2 d3 s1 s2 s3 ma da ri =>
        (⟨m1, m2, m3, d1, d2, d3, s1, s2, s3, ma, da, ri⟩ : MonitoringSettings))
      <$> withDefault "memory_limit_stage_one" Decoder.f64 dflt.memoryStageOne
      <*> withDefault "memory_limit_stage_two" Decoder.f64 dflt.memoryStageTwo
      <*> withDefault "memory_limit_stage_three" Decoder.f64 dflt.memoryStageThree
      <*> withDefault "disk_free_mb_limit_stage_one" Decoder.u64 dflt.diskStageOne
      <*> withDefault "disk_free_mb_limit_stage_two" Decoder.u64 dflt.diskStageTwo
      <*> withDefault "disk_free_mb_limit_stage_three" Decoder.u64 dflt.diskStageThree
      <*> withDefault "resource_limit_one_shutdown_threshold" Decoder.i32 dflt.shutdownOne
      <*> withDefault "resource_limit_two_shutdown_threshold" Decoder.i32 dflt.shutdownTwo
      <*> withDefault "resource_limit_three_shutdown_threshold" Decoder.i32 dflt.shutdownThree
      <*> optional "memory_alert_dispatch_threshold" Decoder.f64
      <*> optional "disk_alert_dispatch_threshold_mb" Decoder.u64
      <*> withDefault "refresh_interval_secs" Decoder.u64 dflt.refreshIntervalSecs

/-- Reads the alert settings. -/
def alertDecoder : Decoder AlertSettings :=
  let dflt : AlertSettings := {}
  Decoder.record "AlertDispatchSettings" 2 <|
    (fun d f => (⟨d, f⟩ : AlertSettings))
      <$> withDefault "disable_alert_dispatch" Decoder.bool dflt.disabled
      <*> withDefault "alert_dispatch_frequency_mins" Decoder.u64 dflt.frequencyMins

/-- Reads the convergence settings. -/
def convergenceDecoder : Decoder ConvergenceSettings :=
  let dflt : ConvergenceSettings := {}
  Decoder.record "ConvergenceSettings" 5 <|
    (fun a i m s r => (⟨a, i, m, s, r⟩ : ConvergenceSettings))
      <$> withDefault "attempts" Decoder.u32 dflt.attempts
      <*> withDefault "initial_delay_ms" Decoder.u64 dflt.initialDelayMs
      <*> withDefault "max_delay_ms" Decoder.u64 dflt.maxDelayMs
      <*> withDefault "settle_delay_ms" Decoder.u64 dflt.settleDelayMs
      <*> withDefault "max_capacity_requests" Decoder.u32 dflt.maxCapacityRequests

/-- Reads the queue analyser settings. -/
def queueDecoder : Decoder QueueSettings :=
  let dflt : QueueSettings := {}
  Decoder.record "QueueAnalyserSettings" 2 <|
    (fun p i => (⟨p, i⟩ : QueueSettings))
      <$> withDefault "profiles" (Decoder.members profileDecoder) dflt.profiles
      <*> optional "staging_queue_indicator" Decoder.string

/-- Reads all settings. -/
def settingsDecoder : Decoder Settings :=
  let dflt : Settings := {}
  Decoder.record "AutoscaleSettings" 7 <|
    (fun s i d m a c q => (⟨s, i, d, m, a, c, q⟩ : Settings))
      <$> withDefault "source_refresh_period_secs" Decoder.u64 dflt.sourceRefreshSecs
      <*> withDefault "initial_scaling_delay_secs" Decoder.u64 dflt.initialDelaySecs
      <*> withDefault "scaling_delay_increment_secs" Decoder.u64 dflt.delayIncrementSecs
      <*> withDefault "resource_monitoring" monitoringDecoder {}
      <*> withDefault "alert_dispatch" alertDecoder {}
      <*> withDefault "convergence" convergenceDecoder {}
      <*> withDefault "queue_analyser" queueDecoder {}

/-- The settings of a request: its field `key` when present, else the defaults. -/
def settingsOf (j : Json) (key : String) : Answer Settings :=
  match j.field? key with
  | some v => decodeAs settingsDecoder v
  | none => .ok {}

/-- Reads a scaling error written as `{"error": kind, "message": text}`; an unknown
workload metric takes `service` and `metric` in place of the message. -/
def scaleErrorOf (j : Json) : Answer ScaleError := do
  let kind ← textOf j "error"
  let text : Answer String := textOf j "message"
  match kind with
  | "scaler" => return .scaler (← text)
  | "telemetry" => return .telemetry (← text)
  | "queue_not_found" => return .queueNotFound (← text)
  | "interrupted" => return .interrupted (← text)
  | "insufficient_capacity" => return .insufficientCapacity (← text)
  | "not_registered" => return .notRegistered (← text)
  | "unknown_workload_metric" => return .unknownWorkloadMetric (← textOf j "service") (← textOf j "metric")
  | "config" => return .config (← text)
  | "dispatch" => return .dispatch (← text)
  | "internal" => return .internal (← text)
  | other => .error (.badInput ("unknown error kind '" ++ other ++ "'"))

end ScaleControl.Wire
