import ScaleControl.Scenario.Calls
/-!
# Running programs

The driver of a scenario runs one program at a time; while it waits, the spawned loops run.
A spawned loop runs until its program waits in a sleep, ends, or crashes; when a stage's
program ends, the loop's next stage starts at once.

Whenever the driver waits, the loops ready to go on run first, in the order they became
ready, including those that become ready meanwhile. When none is ready and the driver is
not woken, the clock moves on to the earliest pending timer, and the timers due then fire in
the order they were set. The driver, once woken, goes on before the loops that the same
instant made ready.

Every run is bounded by fuel: a run that uses it up stops where it is, as if stalled.
-/
namespace ScaleControl

/-- How far a spawned loop's program got in one run. -/
inductive Progress where
  /-- It waits in a sleep. -/
  | waiting
  /-- It ended with a result. -/
  | finished (r : Outcome Unit)
  /-- It crashed. -/
  | crashed (message : String)

/-- How a driver's program ended. -/
inductive Finish (α : Type) where
  | value (a : α)
  | crashed (message : String)
  /-- Nothing is left that could wake the driver, or the fuel ran out. -/
  | stalled

namespace World

/-- Keeps the continuation of loop `i`, waiting in a sleep. -/
def suspend (w : World) (i : Nat) (k : Bool → Prog (Outcome Unit)) : World :=
  { w with jobs := w.jobs.modify i fun j => { j with state := .waiting k } }

/-- Runs loop `i`'s program until it waits, ends or crashes. -/
def runJob (w : World) (i : Nat) : Prog (Outcome Unit) → World × Progress
  | .done r => (w, .finished r)
  | .ask (.call c) k =>
    let (w, x) := w.perform c
    w.runJob i (k x)
  | .ask (.sleep token ms) k =>
    if w.cancelled token then w.runJob i (k false)
    else if ms = 0 then w.runJob i (k true)
    else ((w.suspend i k).setTimer (.loop i) ms (some token), .waiting)
  | .ask (.pause ms) k =>
    if ms = 0 then w.runJob i (k ())
    else ((w.suspend i fun _ => k ()).setTimer (.loop i) ms none, .waiting)
  | .ask (.join j) k =>
    match w.jobEnd j with
    | some e => w.runJob i (k e)
    | none => (w, .crashed "a loop cannot wait for another")
  | .ask (.crash message) _ => (w, .crashed message)

/-- Runs loop `i` from program `p`, going on to its next stages, at most `fuel` of them. -/
def stepJob : Nat → World → Nat → Prog (Outcome Unit) → World
  | 0, w, _, _ => w
  | fuel + 1, w, i, p =>
    match w.jobs[i]? with
    | none => w
    | some job =>
      match w.runJob i p with
      | (w, .waiting) => w
      | (w, .crashed message) => w.endJob i (.crashed message)
      | (w, .finished r) =>
        match job.loop.next r with
        | .inl loop =>
          let w := { w with jobs := w.jobs.modify i fun j => { j with loop } }
          stepJob fuel w i (loop.program w.ctx)
        | .inr result => w.endJob i (.finished result)

/-- Lets loop `i` go on with the answer to its sleep. -/
def resume (fuel : Nat) (w : World) (i : Nat) (full : Bool) : World :=
  match w.jobs[i]? with
  | some ⟨_, .waiting k⟩ => stepJob fuel w i (k full)
  | _ => w

/-- Runs the ready loops and moves time on until the driver is woken. -/
def settle : Nat → World → World
  | 0, w => w
  | fuel + 1, w =>
    match w.ready with
    | (i, full) :: rest => settle fuel (resume fuel { w with ready := rest } i full)
    | [] =>
      if w.wake.isSome then w
      else match w.park with
        | none => w
        | some w => if w.wake.isSome then w else settle fuel w

/-- Takes what woke the driver. -/
def takeWake (w : World) : World × Option Wake := ({ w with wake := none }, w.wake)

/-- Runs a program as the driver, with at most `fuel` steps. -/
def drive {α : Type} : Nat → World → Prog α → World × Finish α
  | 0, w, _ => (w, .stalled)
  | _ + 1, w, .done a => (w, .value a)
  | fuel + 1, w, .ask r k =>
    match r, k with
    | .call c, k =>
      let (w, x) := w.perform c
      drive fuel w (k x)
    | .sleep token ms, k =>
      if w.cancelled token then drive fuel w (k false)
      else if ms = 0 then drive fuel w (k true)
      else match ((w.setTimer .driver ms (some token)).settle fuel).takeWake with
        | (w, some (.slept full)) => drive fuel w (k full)
        | (w, _) => (w, .stalled)
    | .pause ms, k =>
      if ms = 0 then drive fuel w (k ())
      else match ((w.setTimer .driver ms none).settle fuel).takeWake with
        | (w, some (.slept _)) => drive fuel w (k ())
        | (w, _) => (w, .stalled)
    | .join j, k =>
      match w.jobEnd j with
      | some e => drive fuel w (k e)
      | none =>
        match ({ w with joining := some j }.settle fuel).takeWake with
        | (w, some (.joined e)) => drive fuel w (k e)
        | (w, _) => (w, .stalled)
    | .crash message, _ => (w, .crashed message)

end World

end ScaleControl
