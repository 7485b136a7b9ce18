import ScaleControl.Wire.Parts
import ScaleControl.Queue
/-!
# Queue analyser requests

A queue analyser driven step by step, with the telemetry of each step given in the
request: the target queue's statistics (zeros when not given) and the staging queues'
(none when not given), either of which may be an error instead.
-/
namespace ScaleControl.Wire

/-- A count field of the request, zero when missing. -/
def wordOr0 (j : Json) (key : String) : Answer UInt64 := do
  return (← optionalAs Decoder.u64 j key).getD 0

/-- A double field of the request, zero when missing. -/
def floatOr0 (j : Json) (key : String) : Answer Float :=
  match j.field? key with
  | some v => floatAs v
  | none => .ok 0.0

/-- The statistics of a target queue, or the error given in their place. -/
def queueStatsOf (j : Json) : Answer (Outcome QueueStats) := do
  if (j.field? "error").isSome then return .error (← scaleErrorOf j)
  return .ok ⟨← wordOr0 j "messages", ← floatOr0 j "publish_rate", ← floatOr0 j "consume_rate"⟩

/-- The statistics of staging queues, or the error given in their place. -/
def stagingStatsOf (j : Json) : Answer (Outcome (List StagingStats)) := do
  match j with
  | .arr items =>
    let stats ← items.mapM fun s => do
      let name ← match s.field? "name" with
        | some v => decodeAs Decoder.string v
        | none => pure ""
      return (⟨name, ← wordOr0 s "messages", ← floatOr0 s "publish_rate"⟩ : StagingStats)
    return .ok stats
  | _ =>
    if (j.field? "error").isSome then return .error (← scaleErrorOf j)
    else return .ok []

/-- The telemetry given with a step. -/
def telemetryOf (st : Json) : Answer Telemetry := do
  let queue ← match st.field? "queue" with
    | some .null | none => pure (.ok ⟨0, 0.0, 0.0⟩)
    | some v => queueStatsOf v
  let staging ← match st.field? "staging" with
    | some .null | none => pure (.ok [])
    | some v => stagingStatsOf v
  return ⟨queue, staging⟩

/-- What an overflowing backlog answers with. -/
def overflowFailure : Failure := .panic "attempt to add with overflow"

/-- One analysis as answered: the action or error, with the telemetry asked for. -/
def analysisJson (r : Outcome Action) (asked : Asked) : Json :=
  let extra := [("queue_called", Json.bool asked.queue),
    ("staging_pattern", Json.ofOption Json.str asked.staging)]
  match r with
  | .ok a => .obj ([("action", actionJson a)] ++ extra)
  | .error e => .obj ([("error", .str e.kind), ("message", .str e.message)] ++ extra)

/-- The queue analyser of `target` that `req` describes: by a profile and a staging
indicator, or by queue settings and a profile name. -/
def queueAnalyserOf (req : Json) (target : String) : Answer QueueAnalyser := do
  match req.field? "profile" with
  | some p =>
    if let .null := p then
      let q ← queueSettingsOf req
      return q.analyser target (← decodeAs (Decoder.option Decoder.string) (req.field "profile_name"))
    let profile ← decodeAs profileDecoder p
    let indicator ← optionalAs Decoder.string req "staging_indicator"
    return QueueAnalyser.create target profile indicator
  | none =>
    let q ← queueSettingsOf req
    return q.analyser target (← decodeAs (Decoder.option Decoder.string) (req.field "profile_name"))

/-- The analyser a request describes. -/
def analyserOf (req : Json) : Answer QueueAnalyser := do
  queueAnalyserOf req (← textOf req "scaling_target")

/-- The `analyser` request. -/
def analyserAnswer (req : Json) : Answer Json := do
  let a ← analyserOf req
  let out ← runSteps (← itemsOf req "steps") a fun a st => do
    match ← stepName st with
    | "analyse" =>
      let s ← decodeAs snapshotDecoder (← need st "instances")
      let t ← telemetryOf st
      let (a, r, asked) := a.analyse s t
      match r with
      | .action act => return (a, analysisJson (.ok act) asked)
      | .failed e => return (a, analysisJson (.error e) asked)
      | .overflow => .error overflowFailure
    | "memory_warning" => return (a, .str (a.memoryWarning (← textOf st "value")))
    | "disk_warning" => return (a, .str (a.diskWarning (← textOf st "value")))
    | other => unknownStep other
  return results out

end ScaleControl.Wire
