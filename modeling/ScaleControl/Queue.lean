import ScaleControl.Service
import ScaleControl.Settings
import ScaleControl.Window
/-!
# Queue workload analysis

The analyser of a service watches its target queue and, when a staging indicator is set,
the staging queues whose names start with the target and the indicator. Each sampling call
adds the target's statistics and the staging queues' statistics to two rolling windows of
`scaling_delay` samples. After `scaling_delay` samples it decides: the mean consume rate
per running worker gives how many workers clear the current backlog within the backlog
goal; more are asked for, at most five at a time, or fewer.

A call samples nothing while instances are starting, and asks for one instance, without
sampling, when there is a backlog and no instance. The backlog is the target's messages
plus every staging queue's; a backlog beyond 64 bits is an arithmetic overflow.
-/
namespace ScaleControl

/-- Statistics of the target queue. -/
structure QueueStats where
  messages : UInt64
  publishRate : Float
  consumeRate : Float

/-- Statistics of one staging queue. -/
structure StagingStats where
  name : String
  messages : UInt64
  publishRate : Float

/-- The most instances one decision adds. -/
def maxScaleUp : UInt32 := 5

/-- The profile for a name: the named profile, else the default one, else ten samples and
a goal of 300 seconds. -/
def QueueSettings.profile (q : QueueSettings) (name : Option String) : QueueProfile :=
  let named := name.bind fun n => (q.profiles.find? (·.1 == n)).map (·.2)
  let dflt := (q.profiles.find? (·.1 == defaultProfileName)).map (·.2)
  (named.orElse fun _ => dflt).getD ⟨10, 300⟩

/-- The pattern of the staging queues of `target`. -/
def stagingPattern (target : String) (indicator : Option String) : Option String :=
  indicator.map fun i => "^" ++ target ++ i ++ ".+$"

/-- The analyser of one service. -/
structure QueueAnalyser where
  target : String
  profile : QueueProfile
  pattern : Option String
  targetSamples : Window QueueStats
  stagingSamples : Window (List StagingStats)
  ticks : Nat

/-- A fresh analyser of `target`. -/
def QueueAnalyser.create (target : String) (profile : QueueProfile) (indicator : Option String) :
    QueueAnalyser :=
  { target, profile
    pattern := stagingPattern target indicator
    targetSamples := Window.empty profile.scalingDelay.toNat
    stagingSamples := Window.empty profile.scalingDelay.toNat
    ticks := 0 }

/-- An analyser as the settings make it for `target` and a profile name. -/
def QueueSettings.analyser (q : QueueSettings) (target : String) (name : Option String) :
    QueueAnalyser :=
  QueueAnalyser.create target (q.profile name) q.stagingIndicator

/-- What the telemetry answers when asked: the target's statistics, and the staging
queues' statistics for the analyser's pattern. -/
structure Telemetry where
  queue : Outcome QueueStats
  staging : Outcome (List StagingStats)

/-- The result of one analysis: an action, an error, or an overflowing backlog. -/
inductive Analysis where
  | action (a : Action)
  | failed (e : ScaleError)
  | overflow

/-- Which telemetry one analysis asked for. -/
structure Asked where
  queue : Bool := false
  staging : Option String := none

namespace QueueAnalyser

/-- The workers that clear `backlog` within the goal at the mean consume rate per running
worker; at least one while there is demand. Without consumption: none when nothing is
published or waiting, else the current instances (at least one). -/
def workersNeeded (a : QueueAnalyser) (backlog : UInt64) (s : Snapshot) : UInt32 :=
  let consume := (a.targetSamples.mean (·.consumeRate)).getD 0.0
  let publish := (a.targetSamples.mean (·.publishRate)).getD 0.0
  let targetAvg := (a.targetSamples.mean fun q => wordToDouble q.messages).getD 0.0
  let counts := a.stagingSamples.items.flatten.map fun st => wordToDouble st.messages
  let stagingAvg :=
    if counts.isEmpty then 0.0 else Window.sum counts / counts.length.toUInt64.toFloat
  let demand := targetAvg + stagingAvg
  if consume > 0.0 then
    let perWorker := consume / countToDouble (max s.running 1)
    let least : UInt32 := if demand > 0.0 then 1 else 0
    let needed := (wordToDouble backlog / countToDouble a.profile.backlogGoal / perWorker).round
    max least needed.toUInt32
  else if publish == 0.0 && demand == 0.0 then 0
  else max s.total 1

/-- The action for `needed` workers against `current` instances. -/
def decide (needed current : UInt32) : Action :=
  if needed > current then .up (min maxScaleUp (needed - current))
  else if needed < current then .down (current - needed)
  else .noAction

/-- The largest 64-bit word. -/
def wordLimit : Nat := Nat.pow 2 64 - 1

/-- One analysis of the instances `s` with the telemetry `t`, and what it asked for. -/
def analyse (a : QueueAnalyser) (s : Snapshot) (t : Telemetry) :
    QueueAnalyser × Analysis × Asked :=
  if s.staging > 0 then (a, .action .noAction, {})
  else match t.queue with
    | .error e => (a, .failed e, { queue := true })
    | .ok target =>
      let asked : Asked := { queue := true, staging := a.pattern }
      let staging : Outcome (List StagingStats) :=
        if a.pattern.isSome then t.staging else .ok []
      match staging with
      | .error e => (a, .failed e, asked)
      | .ok staging =>
        let backlog := staging.foldl (fun acc st => acc + st.messages.toNat) target.messages.toNat
        if backlog > wordLimit then (a, .overflow, asked)
        else if backlog > 0 && s.total = 0 then (a, .action (.up 1), asked)
        else
          let a := { a with
            targetSamples := (a.targetSamples.push target).2
            stagingSamples := (a.stagingSamples.push staging).2
            ticks := a.ticks + 1 }
          if a.ticks < a.profile.scalingDelay.toNat then (a, .action .noAction, asked)
          else
            let needed := a.workersNeeded backlog.toUInt64 s
            ({ a with ticks := 0 }, .action (decide needed s.total), asked)

/-- The memory warning for a used percentage written as text. -/
def memoryWarning (a : QueueAnalyser) (used : String) : String :=
  "To whom it may concern,\nThe messaging platform serving queue " ++ a.target ++
    " is experiencing issues.\nIt has used " ++ used ++ "% of its high watermark memory allowance.\n"

/-- The disk warning for free megabytes written as text. -/
def diskWarning (a : QueueAnalyser) (free : String) : String :=
  "To whom it may concern,\nThe messaging platform serving queue " ++ a.target ++
    " is experiencing issues.\nIt has only " ++ free ++ " MB of free disk space left.\n"

end QueueAnalyser

end ScaleControl
