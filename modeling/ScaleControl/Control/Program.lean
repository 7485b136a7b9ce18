import ScaleControl.Queue
import ScaleControl.Alerter
/-!
# Programs over the world

The work of a controller, and of whoever drives it, is written as a program that asks the
world for things and continues with the answer. A program is a tree: either it is done
with a value, or it makes a request and has one continuation for every possible reply.

Most requests are calls that the world answers at once: a resource reading, the instances
of a service, a platform command, the governor's verdict, an alert. The others take time:
a sleep ends when its time has passed or early when its cancellation token is cancelled, a
pause is a sleep that nothing cuts short, a join waits for a spawned loop to end, and a
crash ends the task for good. Who runs a program decides what the answers are; the program
only fixes what is asked and in which order.
-/
namespace ScaleControl

/-- A request the world answers at once. -/
inductive Call where
  /-- Whether controller `controller` is backing off this tick (and counts the tick); no
  answer when counting the tick overflows. -/
  | skipTick (controller : Nat)
  /-- The current resource reading. -/
  | reading
  /-- The platform's snapshot of a service. -/
  | instances (service : String)
  /-- The text of an alert of a category, as the controller's analyser words it. -/
  | warning (controller : Nat) (category : Category) (figure : String)
  /-- Sends an alert. -/
  | alert (category : Category) (message : String)
  /-- Gives the governor a service's latest snapshot. -/
  | record (service : String) (snapshot : Snapshot)
  /-- Asks controller `controller`'s analyser for an action. -/
  | analyse (controller : Nat) (snapshot : Snapshot)
  /-- Asks the governor to arbitrate an action. -/
  | govern (service : String) (action : Action) (stages : Stages)
  /-- Asks the platform for more instances. -/
  | scaleUp (service : String) (amount : UInt32)
  /-- Asks the platform for fewer instances. -/
  | scaleDown (service : String) (amount : UInt32)
  /-- Starts controller `controller`'s backoff after an operation. -/
  | enterBackoff (controller : Nat) (operation : Operation)
  /-- The controller that gives up an instance for a service in need of room. -/
  | donor (service : String)
  /-- Reads the service inventory and reconciles the controllers with it: the number of
  services scheduled, or a crash when the staggered start delays overflow. -/
  | refresh

/-- What names a controller in requests: its number, the service it scales and the token
that cancels its waits. -/
structure ControllerRef where
  index : Nat
  service : String
  token : Nat

/-- The type of the world's answer to a call. -/
def Call.Reply : Call → Type
  | .skipTick _ => Option Bool
  | .reading => Outcome Reading
  | .instances _ => Outcome Snapshot
  | .warning _ _ _ => String
  | .alert _ _ => Outcome Bool
  | .record _ _ => Unit
  | .analyse _ _ => Analysis
  | .govern _ _ _ => Outcome Action
  | .scaleUp _ _ => Outcome Unit
  | .scaleDown _ _ => Outcome Unit
  | .enterBackoff _ _ => Unit
  | .donor _ => Option ControllerRef
  | .refresh => Except String (Outcome Nat)

/-- How a spawned loop ended: with its result, or by crashing. -/
inductive LoopEnd where
  | finished (result : Outcome Unit)
  | crashed (message : String)

/-- A request of a program. -/
inductive Request where
  /-- A call answered at once. -/
  | call (c : Call)
  /-- Waits `ms` milliseconds unless `token` is (or gets) cancelled. -/
  | sleep (token : Nat) (ms : Nat)
  /-- Waits `ms` milliseconds. -/
  | pause (ms : Nat)
  /-- Waits for spawned loop `loop` to end. -/
  | join (loop : Nat)
  /-- Ends the task with a crash. -/
  | crash (message : String)

/-- The type of the answer to a request: a sleep answers whether its time passed (rather
than its token being cancelled), and a crash has no answer. -/
def Request.Reply : Request → Type
  | .call c => c.Reply
  | .sleep _ _ => Bool
  | .pause _ => Unit
  | .join _ => LoopEnd
  | .crash _ => Empty

/-- A program: done with a value, or a request with a continuation for each reply. -/
inductive Prog (α : Type) where
  | done (a : α)
  | ask (r : Request) (k : r.Reply → Prog α)

namespace Prog

/-- Runs `p`, then `f` on its value. -/
def bind {α β : Type} : Prog α → (α → Prog β) → Prog β
  | .done a, f => f a
  | .ask r k, f => .ask r fun x => bind (k x) f

instance : Monad Prog where
  pure := .done
  bind := bind

/-- Makes one request and is done with the reply. -/
def request (r : Request) : Prog r.Reply := .ask r .done

/-- Makes one call and is done with the reply. -/
def call (c : Call) : Prog c.Reply := .ask (.call c) .done

@[simp] theorem bind_done {α β : Type} (a : α) (f : α → Prog β) : bind (.done a) f = f a := rfl

@[simp] theorem bind_ask {α β : Type} (r : Request) (k : r.Reply → Prog α) (f : α → Prog β) :
    bind (.ask r k) f = .ask r fun x => bind (k x) f := rfl

theorem bind_done_right {α : Type} (p : Prog α) : bind p .done = p := by
  induction p with
  | done a => rfl
  | ask r k ih => simp only [bind_ask, ih]

theorem bind_assoc {α β γ : Type} (p : Prog α) (f : α → Prog β) (g : β → Prog γ) :
    bind (bind p f) g = bind p fun a => bind (f a) g := by
  induction p with
  | done a => rfl
  | ask r k ih => simp only [bind_ask, ih]

instance : LawfulMonad Prog :=
  LawfulMonad.mk' Prog (fun p => bind_done_right p) (fun _ _ => rfl) bind_assoc

end Prog

end ScaleControl
