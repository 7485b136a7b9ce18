import ScaleControl.Error
/-!
# Settings

The autoscaler's settings with their defaults: how often the inventory is read and how the
first ticks are staggered, the resource limits of the messaging platform and the shutdown
priorities they shed, alerting, how a scale-up waits to converge, and the queue analyser's
profiles. `Settings.validate` refuses settings the control loops cannot work with, naming
the first rule broken.
-/
namespace ScaleControl

/-- Resource limits, shutdown thresholds and alert thresholds. -/
structure MonitoringSettings where
  memoryStageOne : Float := 70.0
  memoryStageTwo : Float := 80.0
  memoryStageThree : Float := 90.0
  diskStageOne : UInt64 := 400
  diskStageTwo : UInt64 := 200
  diskStageThree : UInt64 := 100
  shutdownOne : Int := 1
  shutdownTwo : Int := 3
  shutdownThree : Int := 5
  memoryAlertThreshold : Option Float := none
  diskAlertThresholdMb : Option UInt64 := none
  refreshIntervalSecs : UInt64 := 10

/-- Whether alerts go out, and the least time between two of one category. -/
structure AlertSettings where
  disabled : Bool := false
  frequencyMins : UInt64 := 20

/-- How a scale-up waits for its instances. -/
structure ConvergenceSettings where
  attempts : UInt32 := 6
  initialDelayMs : UInt64 := 1000
  maxDelayMs : UInt64 := 16000
  settleDelayMs : UInt64 := 1000
  maxCapacityRequests : UInt32 := 3

/-- How many samples the queue analyser gathers before it decides, and the backlog one
worker is meant to clear. -/
structure QueueProfile where
  scalingDelay : UInt32
  backlogGoal : UInt32
  deriving DecidableEq

/-- The name of the profile used when a service names none, or an unknown one. -/
def defaultProfileName : String := "default"

/-- The queue analyser's profiles, by name, and the text that marks staging queues. -/
structure QueueSettings where
  profiles : List (String × QueueProfile) := [(defaultProfileName, ⟨10, 300⟩)]
  stagingIndicator : Option String := none

/-- All settings. -/
structure Settings where
  sourceRefreshSecs : UInt64 := 30
  initialDelaySecs : UInt64 := 30
  delayIncrementSecs : UInt64 := 1
  monitoring : MonitoringSettings := {}
  alerts : AlertSettings := {}
  convergence : ConvergenceSettings := {}
  queue : QueueSettings := {}

/-- The memory alert threshold: its own when set, else the first memory limit. -/
def MonitoringSettings.memoryAlert (m : MonitoringSettings) : Float :=
  m.memoryAlertThreshold.getD m.memoryStageOne

/-- The disk alert threshold: its own when set, else the first disk limit. -/
def MonitoringSettings.diskAlert (m : MonitoringSettings) : UInt64 :=
  m.diskAlertThresholdMb.getD m.diskStageOne

/-- The least time between two alerts of one category, in seconds, saturating. -/
def AlertSettings.frequencySecs (a : AlertSettings) : Nat :=
  min (a.frequencyMins.toNat * 60) (Nat.pow 2 64 - 1)

/-- The first rule the settings break, if any. -/
def Settings.validate (s : Settings) : Outcome Unit :=
  let m := s.monitoring
  let q := s.queue
  if s.sourceRefreshSecs = 0 then
    .error (.config "source_refresh_period_secs must be at least 1")
  else if !(m.memoryStageOne ≤ m.memoryStageTwo && m.memoryStageTwo ≤ m.memoryStageThree) then
    .error (.config "memory stage limits must be ascending (stage one <= two <= three)")
  else if !(m.diskStageOne ≥ m.diskStageTwo && m.diskStageTwo ≥ m.diskStageThree) then
    .error (.config "disk free limits must be descending (stage one >= two >= three)")
  else if !(q.profiles.any (·.1 == defaultProfileName)) then
    .error (.config ("queue analyser profiles must include a '" ++ defaultProfileName ++
      "' profile"))
  else match q.profiles.find? (fun (_, p) => p.scalingDelay = 0 || p.backlogGoal = 0) with
    | some (name, _) =>
      .error (.config ("profile '" ++ name ++
        "' must have scaling_delay and backlog_goal of at least 1"))
    | none =>
      if q.stagingIndicator = some "" then
        .error (.config "staging_queue_indicator must not be empty when set")
      else if s.convergence.attempts = 0 then
        .error (.config "convergence attempts must be at least 1")
      else .ok ()

end ScaleControl
