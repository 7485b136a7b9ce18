import Mathlib
import ScaleControl.Proofs.TickEffects
/-!
# A controller's run loop

The run loop of a controller is a state machine over three stages: the initial delay, a tick,
and the interval, ticks and intervals in turn. Each stage is a program; its outcome picks the
next stage or ends the loop.

Over any outcomes of its stages, the loop ends at the first outcome that ends its stage: a
sleep cut short, which ends it well, or a tick that failed with an error that is not
recoverable, which ends it with that error (`feed_nth_eq_inr_iff`). A recoverable error ends
only the tick, and the loop waits out its interval and ticks again. Nothing after the ending
outcome is looked at.

No stage ever asks for a refresh of the inventory (`program_noRefresh`), the one request that
reconciles; a sleep stage is one sleep on the controller's token whose answer is the stage's
outcome (`program_of_sleeping`).
-/
namespace ScaleControl

namespace Exchange

/-- An exchange that is not a refresh of the inventory, the one request that reconciles. -/
def NoRefresh (e : Exchange) : Prop := e.request ≠ .call .refresh

theorem Settles.noRefresh {c : ControllerRef} {e : Exchange} (h : e.Settles c) : e.NoRefresh := by
  obtain ⟨r, x⟩ := e
  rintro (rfl : r = .call .refresh)
  exact h

end Exchange

namespace Prog.Always

variable {α : Type} {good : Exchange → Prop}

theorem run_lift {p : Prog α} (hp : p.Always good) : (ExceptT.lift p : Attempt α).run.Always good :=
  bind hp fun _ => trivial

end Prog.Always

open Attempt Exchange

variable (ctx : Context)

theorem crash_noRefresh {α : Type} (message : String) : (crash message : Attempt α).run.Always NoRefresh :=
  fun x => nomatch x

theorem scaleDown_noRefresh (c : ControllerRef) (n : UInt32) :
    (scaleDown ctx c n).run.Always NoRefresh := by
  unfold scaleDown
  refine Prog.Always.run_bind (Prog.Always.call fun _ => nofun) fun _ => ?_
  refine Prog.Always.run_bind ((sleepFor_settles c _).mono fun _ => Settles.noRefresh) fun _ => ?_
  refine Prog.Always.run_bind (Prog.Always.call fun _ => nofun) fun s => ?_
  exact Prog.Always.run_bind (Prog.Always.run_lift_call fun _ => nofun)
    fun _ => Prog.Always.run_lift_call fun _ => nofun

theorem freeUp_noRefresh (c : ControllerRef) : (freeUp ctx c).run.Always NoRefresh := by
  unfold freeUp
  refine Prog.Always.run_bind (Prog.Always.run_lift_call fun _ => nofun) fun donor => ?_
  cases donor with
  | none => exact Prog.Always.run_pure _
  | some d =>
    exact Prog.Always.run_bind (Prog.Always.run_lift (scaleDown_noRefresh ctx d 1))
      fun _ => Prog.Always.run_pure _

theorem awaitConvergence_noRefresh (c : ControllerRef) :
    ∀ left, (awaitConvergence ctx c left).run.Always NoRefresh := by
  have hpoll : (pollRound ctx c ctx.convergence.attempts ctx.convergence.firstDelay).run.Always
      NoRefresh := (pollRound_settles ctx c _ _).mono fun _ => Settles.noRefresh
  intro left
  induction left with
  | zero =>
    rw [awaitConvergence]
    refine Prog.Always.run_bind hpoll fun converged => ?_
    cases converged
    · exact Prog.Always.run_throw _
    · exact Prog.Always.run_pure _
  | succ left ih =>
    rw [awaitConvergence]
    refine Prog.Always.run_bind hpoll fun converged => ?_
    cases converged
    · refine Prog.Always.run_bind (freeUp_noRefresh ctx c) fun freed => ?_
      cases freed
      · exact Prog.Always.run_throw _
      · exact ih
    · exact Prog.Always.run_pure _

theorem scaleUp_noRefresh (c : ControllerRef) (n : UInt32) :
    (scaleUp ctx c n).run.Always NoRefresh := by
  unfold scaleUp
  refine Prog.Always.run_bind (Prog.Always.call fun _ => nofun) fun _ => ?_
  exact Prog.Always.run_bind (awaitConvergence_noRefresh ctx c _)
    fun _ => Prog.Always.run_lift_call fun _ => nofun

theorem apply_noRefresh (c : ControllerRef) (a : Action) : (apply ctx c a).run.Always NoRefresh := by
  unfold apply
  split
  · exact Prog.Always.run_pure _
  · split
    · exact scaleUp_noRefresh ctx c _
    · exact scaleDown_noRefresh ctx c _
    · exact Prog.Always.run_pure _

theorem alertIf_noRefresh (c : ControllerRef) (due : Bool) (category : Category) (figure : String) :
    (alertIf c due category figure).run.Always NoRefresh := by
  cases due
  · exact Prog.Always.run_pure _
  · exact Prog.Always.run_bind (Prog.Always.run_lift_call fun _ => nofun)
      fun _ => Prog.Always.run_lift_call fun _ => nofun

theorem relievePressure_noRefresh (c : ControllerRef) (u : Reading) (stages : Stages) (s : Snapshot) :
    (relievePressure ctx c u stages s).run.Always NoRefresh := by
  rw [relievePressure_eq]
  refine Prog.Always.run_bind (alertIf_noRefresh c _ _ _) fun _ => ?_
  refine Prog.Always.run_bind (alertIf_noRefresh c _ _ _) fun _ => ?_
  unfold shedding
  split
  · exact Prog.Always.run_pure _
  · split
    · exact Prog.Always.run_bind (Prog.Always.run_lift_call fun _ => nofun)
        fun _ => Prog.Always.run_pure _
    · exact Prog.Always.run_bind (scaleDown_noRefresh ctx c _) fun _ => Prog.Always.run_pure _

theorem analysisPath_noRefresh (c : ControllerRef) (stages : Stages) (s : Snapshot) :
    (analysisPath ctx c stages s).run.Always NoRefresh := by
  unfold analysisPath
  refine Prog.Always.run_bind (Prog.Always.run_lift_call fun _ => nofun) fun _ => ?_
  refine Prog.Always.run_bind (Prog.Always.run_lift_call fun _ => nofun) fun analysis => ?_
  -- the action asked for, if the analyser gave one, goes to the governor and is carried out
  have hverdict : ∀ requested : Action, (ExceptT.mk (Prog.call (.govern c.service requested stages))
      >>= apply ctx c).run.Always NoRefresh := fun requested =>
    Prog.Always.run_bind (Prog.Always.call fun _ => nofun) fun a => apply_noRefresh ctx c a
  cases analysis with
  | action a => exact Prog.Always.run_bind (Prog.Always.run_pure a) hverdict
  | failed e => exact Prog.Always.run_bind (Prog.Always.run_throw e) hverdict
  | overflow => exact Prog.Always.run_bind (crash_noRefresh _) hverdict

theorem tick_noRefresh (c : ControllerRef) : (tick ctx c).run.Always NoRefresh := by
  unfold tick analyse
  refine Prog.Always.run_bind (Prog.Always.run_lift_call fun _ => nofun) fun skip => ?_
  rcases skip with _ | _ | _
  · exact crash_noRefresh _
  · refine Prog.Always.run_bind (Prog.Always.call fun _ => nofun) fun u => ?_
    refine Prog.Always.run_bind (Prog.Always.call fun _ => nofun) fun s => ?_
    have hpath := analysisPath_noRefresh ctx c (ctx.monitoring.classify u) s
    split
    · exact Prog.Always.run_bind (relievePressure_noRefresh ctx c u _ s) fun stop => by
        cases stop
        · exact hpath
        · exact Prog.Always.run_pure _
    · exact hpath
  · exact Prog.Always.run_pure _

/-! ### The stage programs -/

/-- Every stage of a controller's run loop leaves the inventory alone. -/
theorem program_noRefresh (c : ControllerRef) (initialMs intervalMs : Nat) (st : RunStage) :
    ((Loop.run c initialMs intervalMs st).program ctx).Always NoRefresh := by
  cases st with
  | starting => exact (sleepFor_settles c initialMs).mono fun _ => Settles.noRefresh
  | ticking => exact tick_noRefresh ctx c
  | waiting => exact (sleepFor_settles c intervalMs).mono fun _ => Settles.noRefresh

/-- What a sleep of controller `c` ends with: done if it slept through, interrupted if it
was cut short. -/
def sleepReply (c : ControllerRef) : Bool → Prog (Outcome Unit)
  | true => .done (.ok ())
  | false => .done (.error (.interrupted c.service))

theorem sleepFor_run (c : ControllerRef) (ms : Nat) :
    (sleepFor c ms).run = .ask (.sleep c.token ms) (sleepReply c) := by
  show Prog.ask (.sleep c.token ms) _ = _
  congr 1
  funext slept
  cases slept <;> rfl

/-- A stage other than a tick is one sleep on the controller's token. -/
theorem program_of_sleeping (c : ControllerRef) (initialMs intervalMs : Nat) {st : RunStage}
    (hst : st ≠ .ticking) : ∃ ms, (Loop.run c initialMs intervalMs st).program ctx =
      .ask (.sleep c.token ms) (sleepReply c) := by
  cases st with
  | starting => exact ⟨initialMs, sleepFor_run c initialMs⟩
  | ticking => exact absurd rfl hst
  | waiting => exact ⟨intervalMs, sleepFor_run c intervalMs⟩

/-! ### The stages over any outcomes -/

namespace RunStage

/-- The stage after `st`, when `st` does not end the loop. -/
def following : RunStage → RunStage
  | .starting => .ticking
  | .ticking => .waiting
  | .waiting => .ticking

/-- Whether a stage that ended with `r` ends its loop: a sleep cut short, or a tick that
failed with an error that is not recoverable. -/
def ends : RunStage → Outcome Unit → Bool
  | .ticking, .error e => !e.recoverable
  | _, .error _ => true
  | _, .ok () => false

/-- The loop's result when a stage ends it: the tick's error, or done after a sleep. -/
def result : RunStage → Outcome Unit → Outcome Unit
  | .ticking, r => r
  | _, _ => .ok ()

theorem next_eq (st : RunStage) (r : Outcome Unit) :
    st.next r = if st.ends r then .inr (st.result r) else .inl st.following := by
  cases st <;> rcases r with e | ⟨⟩
  case ticking.error => cases h : e.recoverable <;> simp [next, ends, result, following, h]
  all_goals simp [next, ends, result, following]

/-- The stage a run loop that has not ended is at after `n` stages: the initial delay, then
ticks and intervals in turn. -/
def nth : Nat → RunStage
  | 0 => .starting
  | n + 1 => if n % 2 = 0 then .ticking else .waiting

theorem nth_succ (n : Nat) : nth (n + 1) = (nth n).following := by
  induction n with
  | zero => rfl
  | succ n ih =>
    rw [ih]
    cases n with
    | zero => rfl
    | succ n =>
      simp only [nth]
      rcases Nat.mod_two_eq_zero_or_one n with h | h
      · have : (n + 1) % 2 = 1 := by omega
        simp [h, following]
      · have : (n + 1) % 2 = 0 := by omega
        simp [h, following]

/-- Where a run loop stands once its stages, from `st`, ended with `rs` in turn: at a stage,
or ended with a result. -/
def feed : RunStage → List (Outcome Unit) → RunStage ⊕ Outcome Unit
  | st, [] => .inl st
  | st, r :: rs =>
    match st.next r with
    | .inl st' => feed st' rs
    | .inr res => .inr res

/-- A loop at its `n`th stage ends on outcomes `rs` exactly at the first of them that ends its
stage, with that stage's result; the outcomes after it are never looked at. -/
theorem feed_nth_eq_inr_iff (n : Nat) (rs : List (Outcome Unit)) (res : Outcome Unit) :
    feed (nth n) rs = .inr res ↔
      ∃ pre r post, rs = pre ++ r :: post ∧
        (∀ j r', pre[j]? = some r' → (nth (n + j)).ends r' = false) ∧
        (nth (n + pre.length)).ends r = true ∧ res = (nth (n + pre.length)).result r := by
  induction rs generalizing n with
  | nil => simp [feed]
  | cons r rs ih =>
    rw [feed, next_eq]
    by_cases hend : (nth n).ends r = true
    · -- the first outcome ends the loop
      rw [if_pos hend]
      constructor
      · rintro ⟨⟩
        exact ⟨[], r, rs, rfl, by simp, hend, rfl⟩
      · rintro ⟨pre, r', post, hrs, hpre, -, rfl⟩
        cases pre with
        | nil =>
          obtain ⟨rfl, -⟩ := List.cons.inj hrs
          rfl
        | cons r₀ pre =>
          obtain ⟨rfl, -⟩ := List.cons.inj hrs
          exact absurd (hpre 0 _ rfl) (by simpa using hend)
    · -- the loop goes on to the following stage, the next one in turn
      rw [if_neg hend]
      simp only [Bool.not_eq_true] at hend
      dsimp only
      rw [← nth_succ, ih (n + 1)]
      constructor
      · rintro ⟨pre, r', post, rfl, hpre, hends, rfl⟩
        refine ⟨r :: pre, r', post, rfl, fun j r₁ hj => ?_, ?_, ?_⟩
        · cases j with
          | zero =>
            obtain rfl := Option.some.inj hj
            exact hend
          | succ j =>
            rw [← hpre j r₁ hj]
            congr 2
            omega
        · rw [List.length_cons, ← Nat.add_assoc, Nat.add_right_comm]
          exact hends
        · rw [List.length_cons, ← Nat.add_assoc, Nat.add_right_comm]
      · rintro ⟨pre, r', post, hrs, hpre, hends, rfl⟩
        cases pre with
        | nil =>
          obtain ⟨rfl, -⟩ := List.cons.inj hrs
          rw [List.length_nil, Nat.add_zero] at hends
          exact absurd hends (by simp [hend])
        | cons r₀ pre =>
          obtain ⟨rfl, rfl⟩ := List.cons.inj hrs
          refine ⟨pre, r', post, rfl, fun j r₁ hj => ?_, ?_, ?_⟩
          · rw [← hpre (j + 1) r₁ hj]
            congr 2
            omega
          · rw [List.length_cons, ← Nat.add_assoc, Nat.add_right_comm] at hends
            exact hends
          · rw [List.length_cons, ← Nat.add_assoc, Nat.add_right_comm]

/-- A loop at its `n`th stage that has not ended after outcomes `rs` ended no stage with them,
and is at the stage that many further on. -/
theorem feed_nth_eq_inl_iff (n : Nat) (rs : List (Outcome Unit)) (st : RunStage) :
    feed (nth n) rs = .inl st ↔
      (∀ j r, rs[j]? = some r → (nth (n + j)).ends r = false) ∧ st = nth (n + rs.length) := by
  induction rs generalizing n with
  | nil =>
    simp only [feed, Sum.inl.injEq, List.getElem?_nil, reduceCtorEq, false_implies, implies_true,
      true_and, List.length_nil, Nat.add_zero]
    exact eq_comm
  | cons r rs ih =>
    rw [feed, next_eq]
    by_cases hend : (nth n).ends r = true
    · rw [if_pos hend]
      simp only [reduceCtorEq, false_iff, not_and]
      intro hall
      exact absurd (hall 0 r rfl) (by simpa using hend)
    · rw [if_neg hend]
      simp only [Bool.not_eq_true] at hend
      dsimp only
      rw [← nth_succ, ih (n + 1)]
      constructor
      · rintro ⟨hall, rfl⟩
        refine ⟨fun j r' hj => ?_, by rw [List.length_cons, Nat.add_assoc, Nat.add_comm 1]⟩
        cases j with
        | zero =>
          obtain rfl := Option.some.inj hj
          exact hend
        | succ j =>
          rw [← hall j r' hj]
          congr 2
          omega
      · rintro ⟨hall, rfl⟩
        refine ⟨fun j r' hj => ?_, by rw [List.length_cons, Nat.add_assoc, Nat.add_comm 1]⟩
        rw [← hall (j + 1) r' hj]
        congr 2
        omega

end RunStage

end ScaleControl
