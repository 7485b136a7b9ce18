import Mathlib
import ScaleControl.Scenario.Drive
/-!
# Scheduling operations

What the world's own operations do to it. Cancelling a token marks it, drops the timers on
tokens now cancelled, and queues their loops, in order, with the answer that their sleep was
cut short; spawning a loop queues it to start; adding a controller gives it a fresh token.
None of them touches the governor, the reconciler's services or the controllers already
there.

A cancelled token stays cancelled (`cancelled_cancel`, `cancelled_newToken`): cancelling
marks tokens and never clears a mark, and a new token changes no token's parent. Cancelling
a token that exists cancels it (`cancelled_cancel_self`).
-/
namespace ScaleControl

/-! ### Cancellation of tokens -/

/-- Whether a token is cancelled can only grow from `tokens` to `tokens'` if every token keeps
its parent and its mark, with as much fuel or more. -/
theorem tokenCancelled_mono {tokens tokens' : Array Token}
    (h : ∀ (t : Nat) (tok : Token), tokens[t]? = some tok →
      ∃ tok' : Token, tokens'[t]? = some tok' ∧ tok'.parent = tok.parent ∧
        (tok.cancelled = true → tok'.cancelled = true)) :
    ∀ fuel fuel' t, fuel ≤ fuel' → tokenCancelled tokens fuel t = true →
      tokenCancelled tokens' fuel' t = true := by
  intro fuel
  induction fuel with
  | zero => intro _ _ _ hc; simp [tokenCancelled] at hc
  | succ fuel ih =>
    intro fuel' t hle hc
    obtain ⟨f', rfl⟩ : ∃ f', fuel' = f' + 1 := ⟨fuel' - 1, by omega⟩
    simp only [tokenCancelled] at hc ⊢
    cases ht : tokens[t]? with
    | none => rw [ht] at hc; exact absurd hc Bool.false_ne_true
    | some tok =>
      rw [ht] at hc
      obtain ⟨tok', ht', hparent, hmark⟩ := h t tok ht
      rw [ht']
      dsimp only at hc ⊢
      rw [hparent]
      -- the token itself is marked, or the search goes on to the same parent
      rcases Bool.or_eq_true_iff.mp hc with hself | hup
      · rw [hmark hself, Bool.true_or]
      · rw [Bool.or_eq_true_iff]
        right
        cases hp : tok.parent with
        | none => rw [hp] at hup; exact absurd hup Bool.false_ne_true
        | some p =>
          rw [hp] at hup
          exact ih f' p (by omega) hup

/-- Marking one token keeps every token's parent and mark. -/
theorem tokens_modify_mark (tokens : Array Token) (u : Nat) (t : Nat) (tok : Token)
    (h : tokens[t]? = some tok) :
    ∃ tok' : Token, (tokens.modify u fun tok => { tok with cancelled := true })[t]? = some tok' ∧
      tok'.parent = tok.parent ∧ (tok.cancelled = true → tok'.cancelled = true) := by
  rw [Array.getElem?_modify, h]
  split
  · exact ⟨_, rfl, rfl, fun _ => rfl⟩
  · exact ⟨tok, rfl, rfl, id⟩

/-- Adding a token keeps every token's parent and mark. -/
theorem tokens_push_keep (tokens : Array Token) (new : Token) (t : Nat) (tok : Token)
    (h : tokens[t]? = some tok) :
    ∃ tok' : Token, (tokens.push new)[t]? = some tok' ∧ tok'.parent = tok.parent ∧
      (tok.cancelled = true → tok'.cancelled = true) := by
  have ht : t < tokens.size := (Array.getElem?_eq_some_iff.mp h).1
  rw [Array.getElem?_push, if_neg (Nat.ne_of_lt ht), h]
  exact ⟨tok, rfl, rfl, id⟩

namespace World

/-- The loops among the waiters of timers `ts`, each to go on with `full`. -/
def loopWakes (ts : List Timer) (full : Bool) : List (Nat × Bool) :=
  ts.filterMap fun tm => match tm.waiter with
    | .loop i => some (i, full)
    | .driver => none

@[simp] theorem loopWakes_nil (full : Bool) : loopWakes [] full = [] := rfl

/-- Waking the waiters of timers `ts` queues, in order, the loops among them, and may wake
the driver; nothing else changes. -/
theorem foldl_wakeWaiter (ts : List Timer) (full : Bool) (w : World) :
    ∃ wake, ts.foldl (fun w tm => w.wakeWaiter tm.waiter full) w =
      { w with ready := w.ready ++ loopWakes ts full, wake } := by
  induction ts generalizing w with
  | nil => exact ⟨w.wake, by simp⟩
  | cons tm ts ih =>
    obtain ⟨wake, h⟩ := ih (w.wakeWaiter tm.waiter full)
    refine ⟨wake, ?_⟩
    rw [List.foldl_cons, h]
    cases hw : tm.waiter with
    | driver => simp [wakeWaiter, hw, loopWakes]
    | loop i => simp [wakeWaiter, hw, loopWakes]

/-- Whether cancelling token `t` cuts timer `tm`: its token is cancelled once `t` is. -/
def cuts (w : World) (t : Nat) (tm : Timer) : Bool :=
  match tm.token with
  | some k =>
    let tokens := w.tokens.modify t fun tok => { tok with cancelled := true }
    tokenCancelled tokens (tokens.size + 1) k
  | none => false

/-- Cancelling a token marks it, drops the timers it cuts and queues their waiters. -/
theorem cancel_eq (w : World) (t : Nat) :
    ∃ wake, w.cancel t =
      { w with tokens := w.tokens.modify t fun tok => { tok with cancelled := true },
               timers := w.timers.filter fun tm => !w.cuts t tm,
               ready := w.ready ++ loopWakes (w.timers.filter (w.cuts t)) false, wake } := by
  obtain ⟨wake, h⟩ := foldl_wakeWaiter (w.timers.filter (w.cuts t)) false
    { w with tokens := w.tokens.modify t fun tok => { tok with cancelled := true },
             timers := w.timers.filter fun tm => !w.cuts t tm }
  exact ⟨wake, h⟩

@[simp] theorem governor_cancel (w : World) (t : Nat) : (w.cancel t).governor = w.governor := by
  obtain ⟨_, h⟩ := cancel_eq w t
  rw [h]

@[simp] theorem autoscaler_cancel (w : World) (t : Nat) :
    (w.cancel t).autoscaler = w.autoscaler := by
  obtain ⟨_, h⟩ := cancel_eq w t
  rw [h]

@[simp] theorem controllers_cancel (w : World) (t : Nat) :
    (w.cancel t).controllers = w.controllers := by
  obtain ⟨_, h⟩ := cancel_eq w t
  rw [h]

@[simp] theorem jobs_cancel (w : World) (t : Nat) : (w.cancel t).jobs = w.jobs := by
  obtain ⟨_, h⟩ := cancel_eq w t
  rw [h]

@[simp] theorem ctx_cancel (w : World) (t : Nat) : (w.cancel t).ctx = w.ctx := by
  obtain ⟨_, h⟩ := cancel_eq w t
  rw [h]

@[simp] theorem tokens_cancel (w : World) (t : Nat) :
    (w.cancel t).tokens = w.tokens.modify t fun tok => { tok with cancelled := true } := by
  obtain ⟨_, h⟩ := cancel_eq w t
  rw [h]

/-- A cancelled token stays cancelled when another is cancelled. -/
theorem cancelled_cancel {w : World} {k : Nat} (h : w.cancelled k = true) (t : Nat) :
    (w.cancel t).cancelled k = true := by
  unfold World.cancelled at h ⊢
  rw [tokens_cancel, Array.size_modify]
  exact tokenCancelled_mono (tokens_modify_mark w.tokens t) _ _ k (Nat.le_refl _) h

/-- Cancelling a token that exists cancels it. -/
theorem cancelled_cancel_self {w : World} {t : Nat} (ht : t < w.tokens.size) :
    (w.cancel t).cancelled t = true := by
  unfold World.cancelled
  rw [tokens_cancel, Array.size_modify]
  obtain ⟨tok, htok⟩ : ∃ tok, w.tokens[t]? = some tok := ⟨w.tokens[t], by simp [ht]⟩
  simp [tokenCancelled, Array.getElem?_modify, htok]

/-- A cancelled token stays cancelled when a token is added. -/
theorem cancelled_newToken {w : World} {k : Nat} (h : w.cancelled k = true) (parent : Option Nat) :
    (w.newToken parent).1.cancelled k = true := by
  unfold World.cancelled at h ⊢
  exact tokenCancelled_mono (tokens_push_keep w.tokens { parent }) _ _ k
    (by simp [newToken]) h

/-! ### Spawning loops and adding controllers -/

theorem spawn_eq (w : World) (loop : Loop) :
    w.spawn loop = ({ w with jobs := w.jobs.push ⟨loop, .waiting fun _ => loop.program w.ctx⟩,
                             ready := w.ready ++ [(w.jobs.size, true)] }, w.jobs.size) := rfl

theorem addController_eq (w : World) (d : Descriptor) (analyser : Analyser) (parent : Option Nat) :
    w.addController d analyser parent =
      ({ w with tokens := w.tokens.push { parent },
                controllers := w.controllers.push { descriptor := d, token := w.tokens.size, analyser } },
        w.controllers.size) := rfl

end World

end ScaleControl
