import ScaleControl.Control.Tick
/-!
# Long-running loops

Two loops run on their own: a controller's run loop and the inventory refresh loop. Each is
a small state machine whose every stage is a program; when a stage's program ends, its
result picks the next stage or ends the loop, and the next stage starts at once.

A controller's run loop waits out its initial delay, then ticks and waits out its interval,
over and over. A recoverable tick failure is only noted and the loop goes on; an
unrecoverable one ends the loop with that error. A cancelled wait ends the loop normally,
and so does a cancellation during the initial delay, before any tick.

The refresh loop waits out its period and then refreshes the inventory, whose failures it
only notes, until its token is cancelled.
-/
namespace ScaleControl

/-- Where a controller's run loop stands. -/
inductive RunStage where
  /-- Waiting out the initial delay. -/
  | starting
  /-- Ticking. -/
  | ticking
  /-- Waiting out the interval. -/
  | waiting
  deriving DecidableEq

/-- What follows a run-loop stage that ended with `r`: the next stage, or the loop's result. -/
def RunStage.next : RunStage → Outcome Unit → RunStage ⊕ Outcome Unit
  | .starting, .ok () => .inl .ticking
  | .starting, .error _ => .inr (.ok ())
  | .ticking, .ok () => .inl .waiting
  | .ticking, .error e => if e.recoverable then .inl .waiting else .inr (.error e)
  | .waiting, .ok () => .inl .ticking
  | .waiting, .error _ => .inr (.ok ())

/-- A loop that runs on its own, at some stage. -/
inductive Loop where
  /-- A controller's run loop, with its initial delay and interval in milliseconds. -/
  | run (c : ControllerRef) (initialMs intervalMs : Nat) (stage : RunStage)
  /-- The inventory refresh loop, waiting on `token` for `periodMs` between refreshes. -/
  | refresh (token periodMs : Nat)

namespace Loop

/-- The refresh loop's stage: wait out the period, then refresh, whatever the refresh
answers. A cancelled wait ends the stage as interrupted, which ends the loop. -/
def refreshOnce (token periodMs : Nat) : Prog (Outcome Unit) := do
  let slept : Bool ← Prog.request (.sleep token periodMs)
  if slept then
    let refreshed : Except String (Outcome Nat) ← Prog.call .refresh
    match refreshed with
    | .ok _ => return .ok ()
    | .error message => Prog.ask (.crash message) fun e => nomatch (e : Empty)
  else return .error (.interrupted "")

/-- The program of the loop's current stage. -/
def program (ctx : Context) : Loop → Prog (Outcome Unit)
  | .run c initialMs _ .starting => (Attempt.sleepFor c initialMs).run
  | .run c _ _ .ticking => (tick ctx c).run
  | .run c _ intervalMs .waiting => (Attempt.sleepFor c intervalMs).run
  | .refresh token periodMs => refreshOnce token periodMs

/-- What follows the current stage once its program ended with `r`: the loop at its next
stage, or the loop's result. -/
def next : Loop → Outcome Unit → Loop ⊕ Outcome Unit
  | .run c initialMs intervalMs stage, r =>
    match stage.next r with
    | .inl stage => .inl (.run c initialMs intervalMs stage)
    | .inr result => .inr result
  | .refresh token periodMs, .ok () => .inl (.refresh token periodMs)
  | .refresh _ _, .error _ => .inr (.ok ())

end Loop

end ScaleControl
