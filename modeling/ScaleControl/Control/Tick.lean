import ScaleControl.Control.Program
import ScaleControl.Convergence
import ScaleControl.Pressure
import ScaleControl.Decimal.Fixed
/-!
# One control cycle

A tick of a service's controller, unless it is backing off: read the resource pressure
and the service's instances; unless the service opted out, send the due alerts and shed
every instance when the pressure stage covers the service's shutdown priority; otherwise
record the instances with the governor, ask the analyser for an action, have the governor
arbitrate it, and carry it out.

A scale-up asks the platform for instances and waits for them to start: a round polls the
instances after delays that double from the initial delay up to the maximum; after a round
that does not converge the governor is asked to have a donor give up one instance, at most
`maxCapacityRequests` times, before the scale-up is abandoned as lacking capacity. A
scale-down asks the platform for fewer instances, lets them settle and records the result.
Either then starts the controller's backoff. Every wait ends early with `interrupted` when
the controller's token is cancelled.
-/
namespace ScaleControl

/-- The settings every controller shares. -/
structure Context where
  monitoring : MonitoringSettings
  convergence : Convergence

/-- A program that may fail with a scaling error. -/
abbrev Attempt := ExceptT ScaleError Prog

namespace Attempt

/-- A call whose reply is never an error. -/
def call (c : Call) : Attempt c.Reply := ExceptT.lift (Prog.call c)

/-- The current resource reading. -/
def reading : Attempt Reading := ExceptT.mk (Prog.call .reading)

/-- The platform's snapshot of a service. -/
def instances (service : String) : Attempt Snapshot := ExceptT.mk (Prog.call (.instances service))

/-- Gives the governor a snapshot. -/
def record (service : String) (s : Snapshot) : Attempt Unit :=
  ExceptT.lift (Prog.call (.record service s))

/-- Starts a controller's backoff. -/
def enterBackoff (c : ControllerRef) (op : Operation) : Attempt Unit :=
  ExceptT.lift (Prog.call (.enterBackoff c.index op))

/-- Waits `ms` milliseconds on the controller's token; a cancellation is `interrupted`. -/
def sleepFor (c : ControllerRef) (ms : Nat) : Attempt Unit := do
  let slept : Bool ← ExceptT.lift (Prog.request (.sleep c.token ms))
  if slept then pure () else throw (.interrupted c.service)

/-- Ends the task with a crash. -/
def crash {α : Type} (message : String) : Attempt α :=
  ExceptT.lift (Prog.ask (.crash message) fun e => nomatch (e : Empty))

end Attempt

open Attempt

variable (ctx : Context)

/-- Scales a service down by `n`, waits for the instances to settle, records them and
starts the backoff. -/
def scaleDown (c : ControllerRef) (n : UInt32) : Attempt Unit := do
  ExceptT.mk (Prog.call (.scaleDown c.service n))
  sleepFor c ctx.convergence.settleMs
  let s ← instances c.service
  record c.service s
  enterBackoff c .scaleDown

/-- Polls the instances after each of the next `n` delays, starting with `delay`: whether
they converged. -/
def pollRound (c : ControllerRef) : Nat → Nat → Attempt Bool
  | 0, _ => pure false
  | n + 1, delay => do
    sleepFor c delay
    let s ← instances c.service
    record c.service s
    if s.converged then return true
    pollRound c n (ctx.convergence.nextDelay delay)

/-- Asks the governor's donor for the service to give up one instance: whether it did. -/
def freeUp (c : ControllerRef) : Attempt Bool := do
  let donor : Option ControllerRef ← ExceptT.lift (Prog.call (.donor c.service))
  match donor with
  | none => return false
  | some d =>
    let r ← ExceptT.lift (scaleDown ctx d 1).run
    return r matches .ok _

/-- Polling rounds until the instances converge, with `left` donor requests still allowed. -/
def awaitConvergence (c : ControllerRef) : Nat → Attempt Unit
  | 0 => do
    if ← pollRound ctx c ctx.convergence.attempts ctx.convergence.firstDelay then return
    throw (.insufficientCapacity c.service)
  | left + 1 => do
    if ← pollRound ctx c ctx.convergence.attempts ctx.convergence.firstDelay then return
    if !(← freeUp ctx c) then throw (.insufficientCapacity c.service)
    awaitConvergence c left

/-- Scales a service up by `n`, waits for the instances to start and starts the backoff. -/
def scaleUp (c : ControllerRef) (n : UInt32) : Attempt Unit := do
  ExceptT.mk (Prog.call (.scaleUp c.service n))
  awaitConvergence ctx c ctx.convergence.maxCapacityRequests
  enterBackoff c .scaleUp

/-- Sends an alert worded by the controller's analyser; a failed dispatch is dropped. -/
def sendAlert (c : ControllerRef) (category : Category) (figure : String) : Attempt Unit := do
  let text : String ← ExceptT.lift (Prog.call (.warning c.index category figure))
  let _ : Outcome Bool ← ExceptT.lift (Prog.call (.alert category text))

/-- Sends the due alerts and sheds the service when the stage covers its priority: whether
the tick ends here. -/
def relievePressure (c : ControllerRef) (u : Reading) (stages : Stages) (s : Snapshot) :
    Attempt Bool := do
  if ctx.monitoring.memoryAlertDue u then
    sendAlert c .memoryOverload (Decimal.fixed 2 u.memoryUsedPercent)
  if let some free := u.diskFreeMb then
    if ctx.monitoring.diskAlertDue u then
      sendAlert c .diskSpaceLow (Decimal.fixed 2 (wordToDouble free))
  if !ctx.monitoring.thresholds.shouldShed stages.highest s.priority then return false
  if s.total = 0 then
    record c.service s
    return true
  scaleDown ctx c s.total
  return true

/-- Carries out an arbitrated action. -/
def apply (c : ControllerRef) (a : Action) : Attempt Unit :=
  if a.isNoOp then pure ()
  else match a.operation with
    | .scaleUp => scaleUp ctx c a.amount
    | .scaleDown => scaleDown ctx c a.amount
    | .none => pure ()

/-- One control cycle without the backoff check. -/
def analyse (c : ControllerRef) : Attempt Unit := do
  let u ← reading
  let stages := ctx.monitoring.classify u
  let s ← instances c.service
  if !s.optedOut then
    if ← relievePressure ctx c u stages s then return
  record c.service s
  let analysis : Analysis ← ExceptT.lift (Prog.call (.analyse c.index s))
  let requested ← match analysis with
    | .action a => pure a
    | .failed e => throw e
    | .overflow => crash "attempt to add with overflow"
  let a ← ExceptT.mk (Prog.call (.govern c.service requested stages))
  apply ctx c a

/-- One control cycle, skipped while the controller backs off; a backoff count that
overflows crashes it. -/
def tick (c : ControllerRef) : Attempt Unit := do
  let skip : Option Bool ← ExceptT.lift (Prog.call (.skipTick c.index))
  match skip with
  | some true => pure ()
  | some false => analyse ctx c
  | none => crash "attempt to add with overflow"

end ScaleControl
