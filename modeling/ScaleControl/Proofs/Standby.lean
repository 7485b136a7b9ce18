import Mathlib
import ScaleControl.Proofs.ReconcilerRuns
/-!
# A standby autoscaler changes no instances

An autoscaler is built standby. An election makes it active and a rejection standby again;
no other step changes that. Every platform command, whether from a controller's loop (a tick,
a shedding, the scale-down of a donor) or from the autoscaler's own steps, goes through the
world's calls, and those answer a command that changes instances as done, without sending it,
while the autoscaler is standby. A read of a service's instances is always sent as it is.

`Forwards w w'` is what every part of a run keeps from `w` to `w'`: the autoscaler stays
active or standby, and the platform's log only grows, by no command that changes instances
unless the autoscaler is active. Each call forwards (`forwards_perform`), hence each run of a
loop and each wait of the driver (`forwards_drive`), and every step of an autoscaler but an
election or a rejection (`coreStep_sends`). Along a whole run, a step sends a command that
changes instances only when the steps before it leave the autoscaler elected
(`platform_changes_only_while_elected`).
-/
namespace ScaleControl

namespace PlatformCall

/-- Whether a command changes a service's instances: every command but a read. -/
def changes : PlatformCall → Bool
  | .info _ => false
  | .scaleUp _ _ => true
  | .scaleDown _ _ => true

end PlatformCall

namespace Platform

variable (p : Platform) (id : String)

/-- A read is logged, whether the platform answers it or not. -/
theorem log_info : (p.info id).1.log = p.log ++ [.info id] := by
  unfold info
  dsimp only
  split
  · rfl
  · split <;> rfl

theorem log_scaleUp (n : UInt32) : (p.scaleUp id n).1.log = p.log ++ [.scaleUp id n] := by
  unfold scaleUp
  dsimp only
  split <;> rfl

theorem log_scaleDown (n : UInt32) : (p.scaleDown id n).1.log = p.log ++ [.scaleDown id n] := by
  unfold scaleDown
  dsimp only
  split <;> rfl

end Platform

namespace World

/-- The commands sent from `w` to `w'`: the platform's log grows by them, and none of them
changes instances unless the autoscaler is active in `w`. -/
def Sends (w w' : World) : Prop :=
  ∃ cs : List PlatformCall, w'.platform.log = w.platform.log ++ cs ∧
    (w.active = false → ∀ c ∈ cs, c.changes = false)

/-- What every part of a run keeps: the autoscaler stays active or standby, and what it sends
changes no instances while it is standby. -/
structure Forwards (w w' : World) : Prop where
  active : w'.active = w.active
  sends : w.Sends w'

namespace Forwards

theorem refl (w : World) : Forwards w w := ⟨rfl, [], by simp, fun _ _ h => by cases h⟩

theorem trans {w₁ w₂ w₃ : World} (h₁ : Forwards w₁ w₂) (h₂ : Forwards w₂ w₃) :
    Forwards w₁ w₃ := by
  obtain ⟨cs₁, hlog₁, hquiet₁⟩ := h₁.sends
  obtain ⟨cs₂, hlog₂, hquiet₂⟩ := h₂.sends
  refine ⟨h₂.active.trans h₁.active, cs₁ ++ cs₂, by rw [hlog₂, hlog₁, List.append_assoc], ?_⟩
  intro hoff c hc
  -- standby at the start, the autoscaler is still standby in the middle
  rcases List.mem_append.mp hc with hc | hc
  · exact hquiet₁ hoff c hc
  · exact hquiet₂ (h₁.active.trans hoff) c hc

/-- What forwards to a world forwards to any world with its log and its activity. -/
theorem congr_right {w v w' : World} (h : Forwards w v) (hlog : w'.platform.log = v.platform.log)
    (hactive : w'.active = v.active) : Forwards w w' := by
  obtain ⟨cs, hcs, hquiet⟩ := h.sends
  exact ⟨hactive.trans h.active, cs, hlog.trans hcs, hquiet⟩

/-- A change that keeps the platform's log and whether the autoscaler is active forwards. -/
theorem of_log {w w' : World} (hlog : w'.platform.log = w.platform.log)
    (hactive : w'.active = w.active) : Forwards w w' :=
  ⟨hactive, [], by simp [hlog], fun _ _ h => by cases h⟩

end Forwards

/-! ### Reconciling -/

theorem forwards_cancel (w : World) (t : Nat) : Forwards w (w.cancel t) := by
  obtain ⟨wake, h⟩ := cancel_eq w t
  rw [h]
  exact Forwards.of_log rfl rfl

theorem forwards_unschedule (w : World) (id : String) : Forwards w (w.unschedule id) := by
  unfold unschedule
  split
  · exact Forwards.refl w
  · split
    · rename_i c _
      exact (forwards_cancel w c.token).trans (Forwards.of_log rfl rfl)
    · exact Forwards.of_log rfl rfl

theorem forwards_schedule {w w' : World} {d : Descriptor} {δ : Nat} (hs : w.schedule d δ = some w') :
    Forwards w w' := by
  obtain ⟨f, -, rfl⟩ := Option.map_eq_some_iff.mp hs
  exact Forwards.of_log rfl rfl

theorem forwards_forget (w : World) (id : String) : Forwards w (w.forget id) := by
  refine (forwards_unschedule w id).trans ?_
  exact Forwards.of_log rfl rfl

theorem forwards_place (w : World) (d : Descriptor) (δ : Nat) : Forwards w (w.place d δ) := by
  unfold place
  split
  · refine (forwards_unschedule w d.id).trans ?_
    exact Forwards.of_log rfl rfl
  · rename_i w' hs
    exact (forwards_unschedule w d.id).trans (forwards_schedule hs)

/-- Reconciling forwards: it stops and schedules controllers, and sends nothing. -/
theorem forwards_reconcile (w : World) (D : List Descriptor) : Forwards w (w.reconcile D).1 :=
  reconcile_carries Forwards Forwards.refl (fun _ _ _ => Forwards.trans) forwards_forget
    forwards_place w D

theorem forwards_refresh (w : World) : Forwards w w.refresh.1 := by
  unfold refresh
  split
  · exact Forwards.of_log rfl rfl
  · have hhealth : Forwards w (w.setHealth "refresh" .healthy) := Forwards.of_log rfl rfl
    have hrec := hhealth.trans (forwards_reconcile (w.setHealth "refresh" .healthy)
      (w.setHealth "refresh" .healthy).autoscaler.inventory)
    dsimp only
    split
    · rename_i w₁ crash heq
      rw [heq] at hrec
      exact hrec
    · rename_i w₁ heq
      rw [heq] at hrec
      exact hrec

/-! ### Calls -/

/-- A command sent while the autoscaler is active forwards, whatever it is. -/
theorem forwards_of_active {w w' : World} (hon : w.active = true) (c : PlatformCall)
    (hlog : w'.platform.log = w.platform.log ++ [c]) (hactive : w'.active = w.active) :
    Forwards w w' :=
  ⟨hactive, [c], hlog, fun hoff => by rw [hon] at hoff; cases hoff⟩

/-- Every call forwards: a read is sent as it is, and a command that changes instances is sent
only while the autoscaler is active. -/
theorem forwards_perform (w : World) (c : Call) : Forwards w (w.perform c).1 := by
  cases c with
  | instances service =>
    refine ⟨rfl, [.info service], w.platform.log_info service, fun _ c hc => ?_⟩
    rw [List.mem_singleton.mp hc]
    rfl
  | scaleUp service n =>
    simp only [perform, scaleUp]
    split
    · exact Forwards.refl w
    · rename_i hon
      exact forwards_of_active (by simpa using hon) _ (w.platform.log_scaleUp service n) rfl
  | scaleDown service n =>
    simp only [perform, scaleDown]
    split
    · exact Forwards.refl w
    · rename_i hon
      exact forwards_of_active (by simpa using hon) _ (w.platform.log_scaleDown service n) rfl
  | skipTick i =>
    simp only [perform, skipTick]
    split
    · exact Forwards.of_log rfl rfl
    · split <;> exact Forwards.of_log rfl rfl
  | analyse i s =>
    simp only [perform, analyse]
    split <;> exact Forwards.of_log rfl rfl
  | refresh => exact forwards_refresh w
  | reading | warning | alert | record | govern | enterBackoff | donor =>
    exact Forwards.of_log rfl rfl

/-! ### Loops and waits -/

/-- A loop's run forwards: it is made of calls, and of waits that change only the loops. -/
theorem forwards_runJob (i : Nat) (p : Prog (Outcome Unit)) (w : World) :
    Forwards w (w.runJob i p).1 := by
  induction p generalizing w with
  | done r => exact Forwards.refl w
  | ask r k ih =>
    cases r with
    | call c => exact (forwards_perform w c).trans (ih _ _)
    | sleep token ms =>
      simp only [runJob]
      split
      · exact ih _ w
      · split
        · exact ih _ w
        · exact Forwards.of_log rfl rfl
    | pause ms =>
      simp only [runJob]
      split
      · exact ih _ w
      · exact Forwards.of_log rfl rfl
    | join j =>
      simp only [runJob]
      split
      · exact ih _ w
      · exact Forwards.refl w
    | crash m => exact Forwards.refl w

theorem forwards_endJob (w : World) (i : Nat) (e : LoopEnd) : Forwards w (w.endJob i e) := by
  unfold endJob
  dsimp only
  split <;> exact Forwards.of_log rfl rfl

/-- A loop going on through its stages forwards. -/
theorem forwards_stepJob (fuel : Nat) :
    ∀ (w : World) (i : Nat) (p : Prog (Outcome Unit)), Forwards w (stepJob fuel w i p) := by
  induction fuel with
  | zero => exact fun w _ _ => Forwards.refl w
  | succ fuel ih =>
    intro w i p
    have hrun := forwards_runJob i p w
    simp only [stepJob]
    split
    · exact Forwards.refl w
    · split
      · rename_i w₁ heq
        rw [heq] at hrun
        exact hrun
      · rename_i w₁ m heq
        rw [heq] at hrun
        exact hrun.trans (forwards_endJob _ _ _)
      · rename_i w₁ r heq
        rw [heq] at hrun
        split
        · -- the next stage starts at once
          refine hrun.trans (Forwards.trans ?_ (ih _ _ _))
          exact Forwards.of_log rfl rfl
        · exact hrun.trans (forwards_endJob _ _ _)

theorem forwards_fireDue (w : World) : Forwards w w.fireDue := by
  -- the timers due wake their waiters: only the timers, the queue and the wake change
  obtain ⟨wake, hfire⟩ := foldl_wakeWaiter
    ((w.timers.filter fun tm => tm.deadline ≤ w.clock).mergeSort fun a b => a.deadline ≤ b.deadline)
    true { w with timers := w.timers.filter fun tm => w.clock < tm.deadline }
  have hw : w.fireDue = _ := hfire
  rw [hw]
  exact Forwards.of_log rfl rfl

/-- While the driver waits, the loops that run and the timers that fire forward. -/
theorem forwards_settle (fuel : Nat) : ∀ w : World, Forwards w (settle fuel w) := by
  induction fuel with
  | zero => exact Forwards.refl
  | succ fuel ih =>
    intro w
    unfold settle
    split
    · rename_i i full rest _
      -- the first ready loop goes on with the answer to its sleep
      have hresume : Forwards { w with ready := rest } (resume fuel { w with ready := rest } i full) := by
        unfold resume
        split
        · exact forwards_stepJob fuel _ i _
        · exact Forwards.refl _
      refine (Forwards.trans ?_ hresume).trans (ih _)
      exact Forwards.of_log rfl rfl
    · split
      · exact Forwards.refl w
      · split
        · exact Forwards.refl w
        · rename_i w' hpark
          obtain ⟨d, -, rfl⟩ := Option.map_eq_some_iff.mp hpark
          have hclock : Forwards w { w with clock := max w.clock d } := Forwards.of_log rfl rfl
          have hpark' := hclock.trans (forwards_fireDue _)
          split
          · exact hpark'
          · exact hpark'.trans (ih _)

/-- The driver's run of any program forwards, with the loops that run while it waits. -/
theorem forwards_drive {α : Type} (fuel : Nat) :
    ∀ (w : World) (p : Prog α), Forwards w (w.drive fuel p).1 := by
  induction fuel with
  | zero => exact fun w _ => Forwards.refl w
  | succ fuel ih =>
    intro w p
    -- after a wait: the world the loops leave, with the driver's wake taken
    have hwait : ∀ (w₁ w' : World) (x : Option Wake), (w₁.settle fuel).takeWake = (w', x) →
        Forwards w w₁ → Forwards w w' := fun w₁ w' x heq h₁ => by
      obtain rfl := congrArg Prod.fst heq
      exact (h₁.trans (forwards_settle fuel w₁)).trans (Forwards.of_log rfl rfl)
    cases p with
    | done a => exact Forwards.refl w
    | ask r k =>
      cases r with
      | call c => exact (forwards_perform w c).trans (ih _ _)
      | sleep token ms =>
        simp only [drive]
        split
        · exact ih _ _
        · split
          · exact ih _ _
          · split
            · rename_i w' full heq
              exact (hwait _ _ _ heq (Forwards.of_log rfl rfl)).trans (ih _ _)
            · rename_i w' _ _ heq
              exact hwait _ _ _ heq (Forwards.of_log rfl rfl)
      | pause ms =>
        simp only [drive]
        split
        · exact ih _ _
        · split
          · rename_i w' full heq
            exact (hwait _ _ _ heq (Forwards.of_log rfl rfl)).trans (ih _ _)
          · rename_i w' _ _ heq
            exact hwait _ _ _ heq (Forwards.of_log rfl rfl)
      | join j =>
        simp only [drive]
        split
        · exact ih _ _
        · split
          · rename_i w' e heq
            exact (hwait _ _ _ heq (Forwards.of_log rfl rfl)).trans (ih _ _)
          · rename_i w' _ _ heq
            exact hwait _ _ _ heq (Forwards.of_log rfl rfl)
      | crash m => exact Forwards.refl w

end World

namespace Wire

open World

/-- An answer built on a successful one comes from a value of it. -/
theorem bind_eq_ok {α β : Type} {x : Answer α} {f : α → Answer β} {b : β}
    (h : (x >>= f) = .ok b) : ∃ a, x = .ok a ∧ f a = .ok b := by
  cases x with
  | error e => cases h
  | ok a => exact ⟨a, rfl, h⟩

/-- Starting the autoscaler forwards: a first refresh, and its refresh loop spawned. -/
theorem forwards_startAutoscaler {w w' : World} (h : startAutoscaler w = .ok w') :
    Forwards w w' := by
  unfold startAutoscaler at h
  dsimp only at h
  split at h
  · -- a first refresh that crashes starts nothing
    cases h
  · cases h
    refine Forwards.trans ?_ ((forwards_refresh _).congr_right rfl rfl)
    exact Forwards.of_log rfl rfl

/-- A fold whose every step forwards forwards. -/
theorem forwards_foldlM {β : Type} {f : World → β → Answer World}
    (hf : ∀ w b w', f w b = .ok w' → Forwards w w') :
    ∀ (bs : List β) (w w' : World), bs.foldlM f w = .ok w' → Forwards w w'
  | [], w, w', h => by
    cases h
    exact Forwards.refl w
  | b :: bs, w, w', h => by
    rw [List.foldlM_cons] at h
    obtain ⟨w₁, h₁, h₂⟩ := bind_eq_ok h
    exact (hf w b w₁ h₁).trans (forwards_foldlM hf bs w₁ w' h₂)

/-- Waiting for a loop to end forwards: the loops run meanwhile. -/
theorem forwards_joinLoop {w w' : World} {job : Nat} (h : joinLoop w job = .ok w') :
    Forwards w w' := by
  rw [joinLoop_eq h]
  exact forwards_drive _ _ _

theorem forwards_shutdownReconciler {w w' : World} (h : shutdownReconciler w = .ok w') :
    Forwards w w' := by
  unfold shutdownReconciler at h
  dsimp only at h
  refine Forwards.trans ?_ (forwards_foldlM (fun v e v' hv => ?_) _ _ _ h)
  · refine Forwards.trans ?_ (forwards_cancel _ _)
    exact Forwards.of_log rfl rfl
  · -- each service is unregistered, then its loop waited for
    obtain ⟨id, sc⟩ := e
    refine Forwards.trans ?_ (forwards_joinLoop hv)
    exact Forwards.of_log rfl rfl

/-- Shutting the autoscaler down forwards: it cancels loops and waits for them to end. -/
theorem forwards_shutdownAutoscaler {w w' : World} (h : shutdownAutoscaler w = .ok w') :
    Forwards w w' := by
  unfold shutdownAutoscaler at h
  dsimp only at h
  -- the refresh loop, if there is one, is waited for; then the reconciler shuts down
  split at h
  · obtain ⟨w₁, h₁, h₂⟩ := bind_eq_ok h
    obtain ⟨w₂, h₃, h₄⟩ := bind_eq_ok h₂
    cases h₄
    refine (((forwards_cancel w w.autoscaler.stop).trans ?_).trans (forwards_shutdownReconciler h₃)).congr_right
      rfl rfl
    refine Forwards.trans ?_ (forwards_joinLoop h₁)
    exact Forwards.of_log rfl rfl
  · simp only [pure_bind] at h
    obtain ⟨w₂, h₃, h₄⟩ := bind_eq_ok h
    cases h₄
    exact ((forwards_cancel w w.autoscaler.stop).trans (forwards_shutdownReconciler h₃)).congr_right rfl rfl

/-- A step on the platform or the probe forwards: it changes the platform's records, never its
log. -/
theorem forwards_platformStep {w w' : World} {st : Json} {name : String}
    (h : platformStep w st name = some (.ok w')) : Forwards w w' := by
  unfold platformStep at h
  split at h
  · obtain ⟨j, -, h⟩ := bind_eq_ok (Option.some.inj h)
    obtain ⟨r, -, h⟩ := bind_eq_ok h
    cases h
    exact Forwards.of_log rfl rfl
  · obtain ⟨j, -, h⟩ := bind_eq_ok (Option.some.inj h)
    obtain ⟨b, -, h⟩ := bind_eq_ok h
    cases h
    exact Forwards.of_log rfl rfl
  · obtain ⟨id, -, h⟩ := bind_eq_ok (Option.some.inj h)
    obtain ⟨d, -, h⟩ := bind_eq_ok h
    cases h
    exact Forwards.of_log rfl rfl
  · obtain ⟨id, -, h⟩ := bind_eq_ok (Option.some.inj h)
    cases h
    exact Forwards.of_log rfl rfl
  · obtain ⟨c, -, h⟩ := bind_eq_ok (Option.some.inj h)
    cases h
    exact Forwards.of_log rfl rfl
  · obtain ⟨r, -, h⟩ := bind_eq_ok (Option.some.inj h)
    obtain ⟨u, -, h⟩ := bind_eq_ok h
    obtain ⟨d, -, h⟩ := bind_eq_ok h
    cases h
    exact Forwards.of_log rfl rfl
  · cases h

/-- The driver's run of a program, as a step's answer, forwards. -/
theorem forwards_runDriver {α : Type} {w : World} {p : Prog α} {x : World × α}
    (h : runDriver w p = .ok x) : Forwards w x.1 := by
  unfold runDriver at h
  obtain ⟨a, -, h⟩ := bind_eq_ok h
  cases h
  exact forwards_drive _ _ _

/-- Whether the autoscaler is active after step `st`, from `a`: an election makes it active,
a rejection standby, and any other step leaves it as it was. -/
def activeAfter (a : Bool) (st : Json) : Bool :=
  match stepName st with
  | .ok "elect" => true
  | .ok "reject" => false
  | _ => a

theorem activeAfter_of_ne {st : Json} {name : String} (hname : stepName st = .ok name)
    (helect : name ≠ "elect") (hreject : name ≠ "reject") (a : Bool) : activeAfter a st = a := by
  unfold activeAfter
  rw [hname]
  split
  · rename_i h
    cases h
    exact absurd rfl helect
  · rename_i h
    cases h
    exact absurd rfl hreject
  · rfl

/-- What a step of an autoscaler does to the platform and to whether it is active: an
election makes it active and a rejection standby, changing nothing else that matters here,
and every other step forwards. -/
theorem coreStep_cases {w w' : World} {st out : Json} (h : coreStep w st = .ok (w', out)) :
    (stepName st = .ok "elect" ∧ w' = { w with active := true }) ∨
      (stepName st = .ok "reject" ∧ w' = { w with active := false }) ∨
      (activeAfter w.active st = w.active ∧ Forwards w w') := by
  unfold coreStep at h
  obtain ⟨name, hname, h⟩ := bind_eq_ok h
  split at h
  · obtain ⟨v, hv, h⟩ := bind_eq_ok h
    cases h
    exact .inr (.inr ⟨activeAfter_of_ne hname (by decide) (by decide) _, forwards_startAutoscaler hv⟩)
  · obtain ⟨items, -, h⟩ := bind_eq_ok h
    obtain ⟨services, -, h⟩ := bind_eq_ok h
    cases h
    exact .inr (.inr ⟨activeAfter_of_ne hname (by decide) (by decide) _, Forwards.of_log rfl rfl⟩)
  · obtain ⟨j, -, h⟩ := bind_eq_ok h
    obtain ⟨fail, -, h⟩ := bind_eq_ok h
    cases h
    exact .inr (.inr ⟨activeAfter_of_ne hname (by decide) (by decide) _, Forwards.of_log rfl rfl⟩)
  · refine .inr (.inr ⟨activeAfter_of_ne hname (by decide) (by decide) _, ?_⟩)
    have hrefresh := forwards_refresh w
    split at h
    · cases h
    · rename_i w₁ r heq
      cases h
      rw [heq] at hrefresh
      exact hrefresh
  · refine .inr (.inr ⟨activeAfter_of_ne hname (by decide) (by decide) _, ?_⟩)
    obtain ⟨j, -, h⟩ := bind_eq_ok h
    obtain ⟨ms, -, h⟩ := bind_eq_ok h
    obtain ⟨⟨v, ⟨⟩⟩, hv, h⟩ := bind_eq_ok h
    cases h
    exact forwards_runDriver hv
  · cases h
    exact .inl ⟨hname, rfl⟩
  · cases h
    exact .inr (.inl ⟨hname, rfl⟩)
  · cases h
    exact .inr (.inr ⟨activeAfter_of_ne hname (by decide) (by decide) _, Forwards.refl w⟩)
  · cases h
    exact .inr (.inr ⟨activeAfter_of_ne hname (by decide) (by decide) _, Forwards.refl w⟩)
  · cases h
    exact .inr (.inr ⟨activeAfter_of_ne hname (by decide) (by decide) _, Forwards.refl w⟩)
  · refine .inr (.inr ⟨activeAfter_of_ne hname (by decide) (by decide) _, ?_⟩)
    obtain ⟨items, -, h⟩ := bind_eq_ok h
    obtain ⟨services, -, h⟩ := bind_eq_ok h
    have hrec := forwards_reconcile w services
    split at h
    · cases h
    · rename_i w₁ heq
      cases h
      rw [heq] at hrec
      exact hrec
  · obtain ⟨v, hv, h⟩ := bind_eq_ok h
    cases h
    exact .inr (.inr ⟨activeAfter_of_ne hname (by decide) (by decide) _,
      forwards_shutdownAutoscaler hv⟩)
  · -- any other name: a step on the platform or the probe, or no step at all
    rename_i _ _ _ _ _ helect hreject _ _ _ _ _
    refine .inr (.inr ⟨activeAfter_of_ne hname helect hreject _, ?_⟩)
    split at h
    · rename_i r heq
      obtain ⟨v, hv, h⟩ := bind_eq_ok h
      cases h
      rw [hv] at heq
      exact forwards_platformStep heq
    · cases h

/-- A step leaves the autoscaler active as `activeAfter` says, and what it sends changes no
instances unless the autoscaler was active before it. -/
theorem coreStep_sends {w w' : World} {st out : Json} (h : coreStep w st = .ok (w', out)) :
    w'.active = activeAfter w.active st ∧ w.Sends w' := by
  rcases coreStep_cases h with ⟨hname, rfl⟩ | ⟨hname, rfl⟩ | ⟨hkeep, hfw⟩
  · exact ⟨by simp [activeAfter, hname], (Forwards.refl w).sends⟩
  · exact ⟨by simp [activeAfter, hname], (Forwards.refl w).sends⟩
  · exact ⟨hfw.active.trans hkeep.symm, hfw.sends⟩

/-- The worlds an autoscaler passes through from `w`, step after step, while no step fails. -/
inductive CoreRun (w : World) : List Json → World → Prop
  | nil : CoreRun w [] w
  | step {sts : List Json} {w₁ w₂ : World} {st out : Json} :
      CoreRun w sts w₁ → coreStep w₁ st = .ok (w₂, out) → CoreRun w (sts ++ [st]) w₂

/-- Along a run, the autoscaler is active as its elections and rejections leave it. -/
theorem CoreRun.active {w w' : World} {sts : List Json} (h : CoreRun w sts w') :
    w'.active = sts.foldl activeAfter w.active := by
  induction h with
  | nil => rfl
  | step _ hstep ih =>
    rw [List.foldl_append, List.foldl_cons, List.foldl_nil, ← ih]
    exact (coreStep_sends hstep).1

/-- The steps `sts` leave an autoscaler elected: one of them is an election, and no rejection
comes after it. -/
def Elected (sts : List Json) : Prop :=
  ∃ pre e post, sts = pre ++ e :: post ∧ stepName e = .ok "elect" ∧
    ∀ s ∈ post, stepName s ≠ .ok "reject"

/-- An active autoscaler stays active through any steps but a rejection. -/
theorem foldl_activeAfter_true {post : List Json} (hpost : ∀ s ∈ post, stepName s ≠ .ok "reject") :
    post.foldl activeAfter true = true := by
  induction post with
  | nil => rfl
  | cons s post ih =>
    have hs : activeAfter true s = true := by
      unfold activeAfter
      split
      · rfl
      · rename_i h
        exact absurd h (hpost s List.mem_cons_self)
      · rfl
    rw [List.foldl_cons, hs]
    exact ih fun s' hs' => hpost s' (List.mem_cons_of_mem s hs')

/-- An autoscaler built standby is active after steps `sts` exactly when they leave it
elected. -/
theorem foldl_activeAfter_false_iff (sts : List Json) :
    sts.foldl activeAfter false = true ↔ Elected sts := by
  constructor
  · -- the last election or rejection decides, and it is an election
    intro h
    induction sts using List.reverseRecOn with
    | nil => cases h
    | append_singleton sts st ih =>
      rw [List.foldl_append, List.foldl_cons, List.foldl_nil] at h
      by_cases helect : stepName st = .ok "elect"
      · exact ⟨sts, st, [], by simp, helect, by simp⟩
      · have hreject : stepName st ≠ .ok "reject" := by
          intro hreject
          simp [activeAfter, hreject] at h
        have hkeep : activeAfter (sts.foldl activeAfter false) st = sts.foldl activeAfter false := by
          unfold activeAfter
          split
          · rename_i hname
            exact absurd hname helect
          · rename_i hname
            exact absurd hname hreject
          · rfl
        obtain ⟨pre, e, post, rfl, he, hpost⟩ := ih (hkeep ▸ h)
        refine ⟨pre, e, post ++ [st], by simp, he, fun s hs => ?_⟩
        rcases List.mem_append.mp hs with hs | hs
        · exact hpost s hs
        · rw [List.mem_singleton.mp hs]
          exact hreject
  · rintro ⟨pre, e, post, rfl, he, hpost⟩
    have helect : activeAfter (pre.foldl activeAfter false) e = true := by
      simp [activeAfter, he]
    rw [List.foldl_append, List.foldl_cons, helect]
    exact foldl_activeAfter_true hpost

end Wire

/-- Along every run of an autoscaler built standby, it is active exactly while its steps leave
it elected, and a step sends the platform a command that changes instances only when the steps
before it leave the autoscaler elected, whatever loops, reconciles, waits and shutdowns the
step runs. Every read of a service's instances goes to the platform as it is, and while the
autoscaler is not elected a command that changes instances is answered as done and not sent. -/
theorem platform_changes_only_while_elected {w₀ w w' : World} {sts : List Json} {st out : Json}
    (hbuilt : w₀.active = false) (hrun : Wire.CoreRun w₀ sts w)
    (hstep : Wire.coreStep w st = .ok (w', out)) :
    (w.active = true ↔ Wire.Elected sts) ∧
      (∃ cs, w'.platform.log = w.platform.log ++ cs ∧
        ((∃ c ∈ cs, c.changes = true) → Wire.Elected sts)) ∧
      (∀ service, (w.perform (.instances service)).1.platform = (w.platform.info service).1 ∧
        (w.perform (.instances service)).2 = (w.platform.info service).2) ∧
      (¬ Wire.Elected sts → ∀ service n,
        w.perform (.scaleUp service n) = (w, .ok ()) ∧ w.perform (.scaleDown service n) = (w, .ok ())) := by
  have hactive : w.active = true ↔ Wire.Elected sts := by
    rw [hrun.active, hbuilt]
    exact Wire.foldl_activeAfter_false_iff sts
  obtain ⟨-, cs, hlog, hquiet⟩ := Wire.coreStep_sends hstep
  refine ⟨hactive, ⟨cs, hlog, fun ⟨c, hc, hchanges⟩ => ?_⟩, fun service => ⟨rfl, rfl⟩,
    fun hstandby service n => ?_⟩
  · -- a standby autoscaler would have sent only reads
    by_contra hstandby
    have hoff : w.active = false := Bool.eq_false_iff.mpr fun hon => hstandby (hactive.mp hon)
    rw [hquiet hoff c hc] at hchanges
    cases hchanges
  · have hoff : w.active = false := Bool.eq_false_iff.mpr fun hon => hstandby (hactive.mp hon)
    have hup : w.scaleUp service n = (w, .ok ()) := by simp [World.scaleUp, hoff]
    have hdown : w.scaleDown service n = (w, .ok ()) := by simp [World.scaleDown, hoff]
    exact ⟨hup, hdown⟩

/-- The step that elects an autoscaler. -/
def electStep : Json := .obj [("do", .str "elect")]

/-- The step that rejects an autoscaler. -/
def rejectStep : Json := .obj [("do", .str "reject")]

/-- An autoscaler with one factory, built standby and then elected, is active, and its
rejection sends nothing. -/
theorem elected_then_rejected :
    ({ World.queueWorld with active := false } : World).active = false ∧
      Wire.CoreRun { World.queueWorld with active := false } [electStep] World.queueWorld ∧
      Wire.coreStep World.queueWorld rejectStep =
        .ok ({ World.queueWorld with active := false }, .bool false) ∧
      (World.queueWorld.active = true ↔ Wire.Elected [electStep]) := by
  have hrun : Wire.CoreRun { World.queueWorld with active := false } ([] ++ [electStep])
      World.queueWorld := .step .nil rfl
  have hstep : Wire.coreStep World.queueWorld rejectStep =
      .ok ({ World.queueWorld with active := false }, .bool false) := rfl
  exact ⟨rfl, hrun, hstep, (platform_changes_only_while_elected rfl hrun hstep).1⟩

end ScaleControl
