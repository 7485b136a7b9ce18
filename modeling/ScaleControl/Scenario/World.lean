import ScaleControl.Control.Loop
import ScaleControl.Scenario.Platform
import ScaleControl.Scenario.Analysers
import ScaleControl.Scenario.Probe
import ScaleControl.Scenario.Dispatchers
import ScaleControl.Governor
import ScaleControl.Health
import ScaleControl.Backoff
/-!
# The world of a scenario

Everything a scenario's programs act on: the simulated platform, the probe and its reading
cache, the alerter and its dispatchers, the governor, the controllers, and, when the
scenario runs a whole autoscaler, its inventory, reconciler and health registry.

Time is virtual and passes only when every task waits. The world keeps the clock, the
pending timers, the cancellation tokens, the spawned loops and the queue of loops ready to
go on. Timers that end at the same instant fire in the order they were set. Cancelling a
token (which also cancels the tokens made from it) ends at once every wait on it: the
waiting loop is queued with the answer that its sleep was cut short.
-/
namespace ScaleControl

/-- A cancellation token; cancelling one also cancels the tokens made from it. -/
structure Token where
  parent : Option Nat
  cancelled : Bool := false

/-- Who waits on a timer: the driver, or spawned loop number `index`. -/
inductive Waiter where
  | driver
  | loop (index : Nat)

/-- A pending wait: when it ends, its place in the order of registration, who waits, and the
token whose cancellation ends it early. -/
structure Timer where
  deadline : Nat
  seq : Nat
  waiter : Waiter
  token : Option Nat

/-- What woke the driver: the end of its sleep (whether it slept through), or the end of
the loop it waited for. -/
inductive Wake where
  | slept (full : Bool)
  | joined (e : LoopEnd)

/-- Where a spawned loop's program stands: waiting in a sleep, to go on with whether it
slept through, or ended. -/
inductive JobState where
  | waiting (k : Bool → Prog (Outcome Unit))
  | ended (e : LoopEnd)

/-- A spawned loop. -/
structure Job where
  loop : Loop
  state : JobState

/-- A controller of the scenario. -/
structure Controller where
  descriptor : Descriptor
  token : Nat
  backoff : Backoff := {}
  analyser : Analyser

/-- How the analysers of a workload metric are made. -/
inductive Factory where
  /-- Analysers that always answer `a`. -/
  | fixed (a : Action)
  /-- Analysers that always fail. -/
  | broken
  /-- Queue analysers over the shared queue source number `source`. -/
  | queue (settings : QueueSettings) (source : Nat)

/-- A new analyser of a factory for a scaling target and profile name. -/
def Factory.analyser (target : String) (profile : Option String) : Factory → Analyser
  | .fixed a => .fixed a
  | .broken => .broken
  | .queue settings source => .queue (settings.analyser target profile) source

/-- A component whose health is asked of it when health is reported. -/
inductive Reporter where
  | source
  | scaler
  | workload
  | scheduler

/-- A service the reconciler runs a controller for. -/
structure Scheduled where
  descriptor : Descriptor
  controller : Nat
  job : Nat

/-- The autoscaler of a scenario: its inventory, its factories, the reconciler's services,
its tokens, its refresh loop and its health registry. -/
structure Autoscaler where
  inventory : List Descriptor := []
  inventoryFails : Bool := false
  factories : Keyed Factory := []
  /-- The workload metrics the inventory's validator accepts. -/
  known : List String := []
  scheduled : Keyed Scheduled := []
  /-- The token every controller's token is made from. -/
  root : Nat := 0
  /-- The token the refresh loop's token is made from. -/
  stop : Nat := 0
  refreshJob : Option Nat := none
  health : HealthRegistry Reporter := {}
  initialDelaySecs : Nat := 0
  delayIncrementSecs : Nat := 0
  refreshPeriodSecs : Nat := 0

/-- The world of a scenario. -/
structure World where
  ctx : Context
  clock : Nat := 0
  seq : Nat := 0
  timers : List Timer := []
  /-- Spawned loops ready to go on, with the answer to the sleep they waited in. -/
  ready : List (Nat × Bool) := []
  jobs : Array Job := #[]
  tokens : Array Token := #[]
  wake : Option Wake := none
  /-- The loop the driver waits for. -/
  joining : Option Nat := none
  platform : Platform
  probe : Probe
  cache : ReadingCache
  alerter : Alerter
  dispatchers : List Bool
  /-- Texts delivered by the dispatchers, oldest first. -/
  alerts : List String := []
  governor : Governor Nat
  controllers : Array Controller := #[]
  sources : Array QueueSource := #[]
  /-- Whether platform commands that change instances are sent. -/
  active : Bool := true
  autoscaler : Autoscaler := {}

/-- Whether token `t` or one it was made from is cancelled, looking at most `fuel` tokens
up. -/
def tokenCancelled (tokens : Array Token) : Nat → Nat → Bool
  | 0, _ => false
  | fuel + 1, t =>
    match tokens[t]? with
    | none => false
    | some tok =>
      tok.cancelled ||
        match tok.parent with
        | some p => tokenCancelled tokens fuel p
        | none => false

namespace World

/-- Whether a token is cancelled. -/
def cancelled (w : World) (t : Nat) : Bool := tokenCancelled w.tokens (w.tokens.size + 1) t

/-- A new token, made from `parent` if given. -/
def newToken (w : World) (parent : Option Nat) : World × Nat :=
  ({ w with tokens := w.tokens.push { parent } }, w.tokens.size)

/-- Ends a wait: the driver is woken, a loop is queued. -/
def wakeWaiter (w : World) (waiter : Waiter) (full : Bool) : World :=
  match waiter with
  | .driver => { w with wake := some (.slept full) }
  | .loop i => { w with ready := w.ready ++ [(i, full)] }

/-- Cancels a token, and ends every wait on a token now cancelled. -/
def cancel (w : World) (t : Nat) : World :=
  let w := { w with tokens := w.tokens.modify t fun tok => { tok with cancelled := true } }
  let cut := fun (tm : Timer) => match tm.token with
    | some k => w.cancelled k
    | none => false
  let w' := { w with timers := w.timers.filter fun tm => !cut tm }
  (w.timers.filter cut).foldl (fun w tm => w.wakeWaiter tm.waiter false) w'

/-- Sets a timer of `ms` milliseconds for `waiter`. -/
def setTimer (w : World) (waiter : Waiter) (ms : Nat) (token : Option Nat) : World :=
  { w with timers := w.timers ++ [⟨w.clock + ms, w.seq, waiter, token⟩], seq := w.seq + 1 }

/-- Fires, in order, the timers due by the clock. -/
def fireDue (w : World) : World :=
  let due := (w.timers.filter fun tm => tm.deadline ≤ w.clock).mergeSort
    fun a b => a.deadline ≤ b.deadline
  let w' := { w with timers := w.timers.filter fun tm => w.clock < tm.deadline }
  due.foldl (fun w tm => w.wakeWaiter tm.waiter true) w'

/-- The earliest deadline of the pending timers. -/
def nextDeadline (w : World) : Option Nat :=
  w.timers.foldl (fun acc tm => match acc with
    | some d => some (min d tm.deadline)
    | none => some tm.deadline) none

/-- Moves the clock on to the earliest pending timer and fires the timers due then; `none`
when no timer is pending. -/
def park (w : World) : Option World :=
  (w.nextDeadline).map fun d => { w with clock := max w.clock d }.fireDue

/-- Moves the clock on by `ms` and fires the timers due by then. -/
def advance (w : World) (ms : Nat) : World := { w with clock := w.clock + ms }.fireDue

/-- Spawns a loop; it is queued to start. -/
def spawn (w : World) (loop : Loop) : World × Nat :=
  let i := w.jobs.size
  ({ w with jobs := w.jobs.push ⟨loop, .waiting fun _ => loop.program w.ctx⟩,
            ready := w.ready ++ [(i, true)] }, i)

/-- How a loop ended, if it did. -/
def jobEnd (w : World) (i : Nat) : Option LoopEnd :=
  match w.jobs[i]? with
  | some ⟨_, .ended e⟩ => some e
  | _ => none

/-- Whether a loop ended. -/
def jobEnded (w : World) (i : Nat) : Bool := (w.jobEnd i).isSome

/-- Ends a loop, waking the driver if it waits for it. -/
def endJob (w : World) (i : Nat) (e : LoopEnd) : World :=
  let w := { w with jobs := w.jobs.modify i fun j => { j with state := .ended e } }
  if w.joining = some i then { w with joining := none, wake := some (.joined e) } else w

/-- Changes the autoscaler's part of the world. -/
def withAutoscaler (w : World) (f : Autoscaler → Autoscaler) : World :=
  { w with autoscaler := f w.autoscaler }

/-- The reference of controller `i`. -/
def controllerRef (w : World) (i : Nat) : Option ControllerRef :=
  (w.controllers[i]?).map fun c => ⟨i, c.descriptor.id, c.token⟩

/-- Adds a controller for a descriptor with an analyser; it gets a token made from
`parent`. -/
def addController (w : World) (d : Descriptor) (analyser : Analyser) (parent : Option Nat) :
    World × Nat :=
  let (w, token) := w.newToken parent
  let i := w.controllers.size
  ({ w with controllers := w.controllers.push { descriptor := d, token, analyser } }, i)

end World

end ScaleControl
