import ScaleControl.Wire.Scenario
/-!
# Controller requests

Controllers of the request's services, sharing one platform, probe, alerter and governor,
driven step by step: ticks, capacity requests, cancellations, run loops for a while, and
changes to the governor, the platform, the probe and the queue telemetry.

A service is registered with the governor and offered as a donor unless the request says
otherwise. Its analyser is a script of actions and errors, or a real queue analyser over
its own scripted telemetry.
-/
namespace ScaleControl.Wire

/-- An action or an error given in a script. -/
def scriptEntryOf (j : Json) : Answer (Outcome Action) := do
  if (j.field? "error").isSome then return .error (← scaleErrorOf j)
  return .ok (← decodeAs actionDecoder j)

/-- The queue telemetry scripts given with an analyser. -/
def queueSourceOf (j : Json) : Answer QueueSource := do
  return { queue := ← (← itemsOf j "queue_script").mapM queueStatsOf
           staging := ← (← itemsOf j "staging_script").mapM stagingStatsOf }

/-- Adds the analyser a service describes for descriptor `d`. -/
def serviceAnalyserOf (w : World) (d : Descriptor) (j : Json) : Answer (World × Analyser) := do
  match j with
  | .null => return (w, .scripted [])
  | _ =>
    match ← textOf j "kind" with
    | "scripted" => return (w, .scripted (← (← itemsOf j "script").mapM scriptEntryOf))
    | "queue" =>
      let a ← queueAnalyserOf j d.scalingTarget
      let source ← queueSourceOf j
      return ({ w with sources := w.sources.push source }, .queue a w.sources.size)
    | other => .error (.badInput ("unknown analyser kind '" ++ other ++ "'"))

/-- Adds the controller of one service of the request. -/
def addService (w : World) (j : Json) : Answer World := do
  let d ← decodeAs descriptorDecoder (← need j "descriptor")
  let register ← flagOr j "register" true
  let listen ← flagOr j "listen" true
  let (w, analyser) ← serviceAnalyserOf w d (j.field "analyser")
  let w := if register then { w with governor := w.governor.register d } else w
  let (w, i) := w.addController d analyser none
  return if listen then { w with governor := w.governor.listen d.id i } else w

/-- The controller of a service named in a step: the last one added for it. -/
def controllerNamed (w : World) (st : Json) : Answer ControllerRef := do
  let id ← textOf st "id"
  let found := (List.range w.controllers.size).foldl (fun acc i =>
    match w.controllerRef i with
    | some c => if c.service == id then some c else acc
    | none => acc) none
  match found with
  | some c => return c
  | none => .error (.badInput ("unknown service '" ++ id ++ "'"))

/-- Replaces the telemetry scripts of a service's queue analyser by the entries a step
gives. -/
def replaceTelemetry (w : World) (st : Json) : Answer World := do
  let c ← controllerNamed w st
  match (w.controllers[c.index]?).map (·.analyser) with
  | some (Analyser.queue _ source) =>
    let queue ← match st.field? "queue" with
      | some .null | none => pure none
      | some v => some <$> queueStatsOf v
    let staging ← match st.field? "staging" with
      | some .null | none => pure none
      | some v => some <$> stagingStatsOf v
    return { w with sources := w.sources.modify source fun s =>
      { queue := queue.elim s.queue fun q => [q], staging := staging.elim s.staging fun t => [t] } }
  | _ => .error (.badInput ("service '" ++ c.service ++ "' has no queue analyser"))

/-- Runs a controller's loop for `forMs`, then cancels it and waits for its end: whether it
had ended before, and how it ended. -/
def runFor (w : World) (c : ControllerRef) (initialMs forMs : Nat) : Answer (World × Json) := do
  let intervalMs := ((w.controllers[c.index]?).elim 0 (·.descriptor.intervalSecs.toNat)) * 1000
  let (w, job) := w.spawn (.run c initialMs intervalMs .starting)
  let (w, ()) ← runDriver w (Prog.request (.pause forMs))
  let early := w.jobEnded job
  let (w, e) ← runDriver (w.cancel c.token) (Prog.request (.join job))
  match e with
  | .finished r => return (w, .obj [("finished_early", .bool early), ("outcome", doneJson r)])
  | .crashed message => .error (.panic message)

/-- One controller step and its result. -/
def controllerStep (w : World) (st : Json) : Answer (World × Json) := do
  let name ← stepName st
  match name with
  | "tick" =>
    let c ← controllerNamed w st
    let (w, r) ← runDriver w (tick w.ctx c).run
    return (w, doneJson r)
  | "scale_down_now" =>
    let c ← controllerNamed w st
    let n ← decodeAs Decoder.u32 (← need st "amount")
    let (w, r) ← runDriver w (scaleDown w.ctx c n).run
    return (w, doneJson r)
  | "cancel" =>
    let c ← controllerNamed w st
    return (w.cancel c.token, .null)
  | "run" =>
    let c ← controllerNamed w st
    let initial ← decodeAs Decoder.u64 (← need st "initial_delay_ms")
    let span ← decodeAs Decoder.u64 (← need st "for_ms")
    runFor w c initial.toNat span.toNat
  | "governor_remove" => return ({ w with governor := w.governor.remove (← textOf st "id") }, .null)
  | "governor_record" =>
    let s ← decodeAs snapshotDecoder (← need st "snapshot")
    return ({ w with governor := w.governor.record (← textOf st "id") s }, .null)
  | "relative_difference" =>
    return (w, Json.ofOption Json.ofFloat (w.governor.relativeDifference (← textOf st "id")))
  | "advance" =>
    let ms ← decodeAs Decoder.u64 (← need st "ms")
    return (w.advance ms.toNat, .null)
  | "queue" => return (← replaceTelemetry w st, .null)
  | other =>
    match platformStep w st other with
    | some r => return (← r, .null)
    | none => unknownStep other

/-- The `controller` request. -/
def controllerAnswer (req : Json) : Answer Json := do
  let s ← settingsOf req "settings"
  let w ← worldOf req s
  let w ← (← itemsOf req "services").foldlM addService w
  let out ← runSteps (← itemsOf req "steps") w fun w st => do
    let (w', result) ← controllerStep w st
    return (w', stepReport false w w' result)
  return results out

end ScaleControl.Wire
