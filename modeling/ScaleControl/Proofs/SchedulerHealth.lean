import Mathlib
import ScaleControl.Proofs.ReconcilerRuns
/-!
# Stopped controllers and the scheduler's health

A controller's run loop waits out its initial delay, then ticks and waits out its interval in
turn. Over any outcomes of its stages it ends with an error exactly at the first tick that
fails with an error that is not recoverable, and ends done exactly at the first sleep that is
cut short; every stage before succeeded or was a tick that failed with a recoverable error, and
the outcomes after are never looked at. In the world a sleep is cut short only once the
controller's token is cancelled, so a loop that ended done had its token cancelled.

The scheduler's health names, in id order, the scheduled services whose loop ended while the
token of their controller is not cancelled. Along a reconciler's run these are exactly the loops
that ended with an error that is not recoverable, or crashed.
-/
namespace ScaleControl

/-- Only an internal error is not recoverable. -/
theorem ScaleError.recoverable_eq_false_iff (e : ScaleError) :
    e.recoverable = false ↔ ∃ m, e = .internal m := by
  cases e <;> simp [ScaleError.recoverable]

theorem ScaleError.recoverable_eq_true_iff (e : ScaleError) :
    e.recoverable = true ↔ ∀ m, e ≠ .internal m := by
  cases e <;> simp [ScaleError.recoverable]

namespace RunStage

theorem ends_eq_false_iff (st : RunStage) (r : Outcome Unit) :
    st.ends r = false ↔ r = .ok () ∨ ∃ e, r = .error e ∧ st = .ticking ∧ e.recoverable = true := by
  cases st <;> rcases r with e | ⟨⟩ <;> simp [ends]

/-- A run loop ends with an error exactly at a tick that fails with an error that is not
recoverable, when no stage before ended it. -/
theorem feed_starting_eq_error_iff (rs : List (Outcome Unit)) (e : ScaleError) :
    feed .starting rs = .inr (.error e) ↔
      ∃ pre post, rs = pre ++ .error e :: post ∧
        (∀ j r, pre[j]? = some r → (nth j).ends r = false) ∧
        nth pre.length = .ticking ∧ e.recoverable = false := by
  have h := feed_nth_eq_inr_iff 0 rs (.error e)
  simp only [Nat.zero_add] at h
  rw [show RunStage.starting = nth 0 from rfl, h]
  constructor
  · rintro ⟨pre, r, post, rfl, hpre, hends, hres⟩
    -- only a tick ends a loop with an error, and it is the tick's own
    cases hst : nth pre.length with
    | ticking =>
      rw [hst] at hends hres
      simp only [result] at hres
      subst hres
      exact ⟨pre, post, rfl, hpre, hst, by simpa [ends] using hends⟩
    | starting => rw [hst] at hres; cases hres
    | waiting => rw [hst] at hres; cases hres
  · rintro ⟨pre, post, rfl, hpre, hst, hrec⟩
    exact ⟨pre, .error e, post, rfl, hpre, by rw [hst]; simp [ends, hrec], by rw [hst]; rfl⟩

/-- A run loop ends done exactly at a sleep that is cut short, when no stage before ended it. -/
theorem feed_starting_eq_ok_iff (rs : List (Outcome Unit)) :
    feed .starting rs = .inr (.ok ()) ↔
      ∃ pre e post, rs = pre ++ .error e :: post ∧
        (∀ j r, pre[j]? = some r → (nth j).ends r = false) ∧ nth pre.length ≠ .ticking := by
  have h := feed_nth_eq_inr_iff 0 rs (.ok ())
  simp only [Nat.zero_add] at h
  rw [show RunStage.starting = nth 0 from rfl, h]
  constructor
  · rintro ⟨pre, r, post, rfl, hpre, hends, hres⟩
    -- a tick that ends the loop fails, so the stage is a sleep, which ends only when cut short
    have hst : nth pre.length ≠ .ticking := fun hst => by
      rw [hst] at hends hres
      simp only [result] at hres
      subst hres
      simp [ends] at hends
    rcases r with e | ⟨⟩
    · exact ⟨pre, e, post, rfl, hpre, hst⟩
    · have hok : (nth pre.length).ends (.ok ()) = false := by cases nth pre.length <;> rfl
      rw [hok] at hends
      cases hends
  · rintro ⟨pre, e, post, rfl, hpre, hst⟩
    refine ⟨pre, .error e, post, rfl, hpre, ?_, ?_⟩ <;> cases hs : nth pre.length
    all_goals first | exact absurd hs hst | rfl

end RunStage

namespace World

variable {w : World}

theorem jobEnd_eq_some_iff {i : Nat} {e : LoopEnd} :
    w.jobEnd i = some e ↔ ∃ l, w.jobs[i]? = some ⟨l, .ended e⟩ := by
  unfold jobEnd
  cases h : w.jobs[i]? with
  | none => simp
  | some j =>
    obtain ⟨l, s⟩ := j
    cases s <;> simp

/-! ### The stopped services -/

theorem pairwise_stoppedServices (w : World) : w.stoppedServices.Pairwise (· ≤ ·) := by
  unfold stoppedServices
  refine List.Pairwise.imp (fun h => of_decide_eq_true h) (List.pairwise_mergeSort ?_ ?_ _)
  · intro a b c hab hbc
    exact decide_eq_true (String.le_trans (of_decide_eq_true hab) (of_decide_eq_true hbc))
  · intro a b
    rcases String.le_total a b with h | h <;> simp [h]

theorem nodup_stoppedServices (h : (w.autoscaler.scheduled.map (·.1)).Nodup) :
    w.stoppedServices.Nodup := by
  unfold stoppedServices
  exact (List.mergeSort_perm _ _).nodup_iff.mpr (h.sublist (List.filter_sublist.map _))

/-- With one entry per id, the stopped services are the scheduled ones whose loop ended while
their controller's token is not cancelled. -/
theorem mem_stoppedServices_iff (h : (w.autoscaler.scheduled.map (·.1)).Nodup) (k : String) :
    k ∈ w.stoppedServices ↔ ∃ sc, w.autoscaler.scheduled.get? k = some sc ∧
      w.jobEnded sc.job = true ∧ ∃ c, w.controllers[sc.controller]? = some c ∧
        w.cancelled c.token = false := by
  unfold stoppedServices
  rw [List.mem_mergeSort, List.mem_map]
  constructor
  · rintro ⟨⟨k', sc⟩, hmem, rfl⟩
    obtain ⟨hmem, hstop⟩ := List.mem_filter.mp hmem
    refine ⟨sc, (Keyed.get?_eq_some_iff_mem h).mpr hmem, ?_⟩
    cases hc : w.controllers[sc.controller]? with
    | none => simp [hc] at hstop
    | some c =>
      simp only [hc, Bool.and_eq_true, Bool.not_eq_true'] at hstop
      exact ⟨hstop.1, c, rfl, hstop.2⟩
  · rintro ⟨sc, hsc, hended, c, hc, hcancel⟩
    refine ⟨(k, sc), List.mem_filter.mpr ⟨(Keyed.get?_eq_some_iff_mem h).mp hsc, ?_⟩, rfl⟩
    simp [hc, hended, hcancel]

/-- The scheduler is healthy when no service stopped; otherwise it names them. -/
theorem report_scheduler (w : World) :
    w.report .scheduler = if w.stoppedServices = [] then .healthy else
      ⟨.unhealthy, some ("Scaling controllers have stopped running. The service must be " ++
        "restarted to continue scaling. Affected services: " ++ ", ".intercalate w.stoppedServices)⟩ := by
  dsimp only [report]
  split
  · rename_i h
    rw [h, if_pos rfl]
  · rename_i h
    rw [if_neg h]

/-- A loop that stopped without its token cancelled ended with an error that is not
recoverable, or crashed: a loop that ended done had its token cancelled. -/
theorem ended_of_mem_stoppedServices (hs : w.loopPart.Sound) (ha : w.Agrees) {k : String}
    (hk : k ∈ w.stoppedServices) : ∃ sc, w.autoscaler.scheduled.get? k = some sc ∧
      ((∃ err, w.jobEnd sc.job = some (.finished (.error err)) ∧ err.recoverable = false) ∨
        ∃ m, w.jobEnd sc.job = some (.crashed m)) := by
  obtain ⟨sc, hsc, hended, c, hc, hcancel⟩ := (mem_stoppedServices_iff ha.keys k).mp hk
  obtain ⟨c', hc', -, -, j, hj, hloop⟩ := (ha.each k).running sc hsc
  rw [hc] at hc'
  cases hc'
  obtain ⟨e, he⟩ := Option.isSome_iff_exists.mp hended
  obtain ⟨l, hl⟩ := jobEnd_eq_some_iff.mp he
  rw [hj, Option.some.injEq] at hl
  subst hl
  refine ⟨sc, hsc, ?_⟩
  rcases e with r | m
  · rcases r with err | ⟨⟩
    · exact .inl ⟨err, he, hs.endedError sc.job l err hj⟩
    · -- the loop runs the controller, whose token would be cancelled
      obtain ⟨c₀, a, b, st, hrun⟩ := hs.runLoop sc.job _ hj
      simp only at hrun
      subst hrun
      simp only [Loop.controller?, Option.some.injEq] at hloop
      subst hloop
      have hok : w.cancelled c.token = true := hs.endedOk sc.job _ a b st hj
      rw [hcancel] at hok
      cases hok
  · exact .inr ⟨m, he⟩

end World

/-- A controller's run loop, over any outcomes of its stages, ends with an error exactly at the
first tick that fails with an internal error, returning it, and ends done exactly at the first
sleep cut short: every earlier stage succeeded or was a tick that failed with another error, and
no later outcome is looked at. Along a reconciler's run a loop that ended done had its token
cancelled, and one that ended with an error met an internal one. The scheduler's health names,
sorted and once each, exactly the scheduled services whose loop ended while their controller's
token is not cancelled, each of which ended with an internal error or crashed; with none, it is
healthy. -/
theorem scheduler_health_names_failed_loops {w : World} (hw : ReconcilerRun w) :
    (∀ rs e, RunStage.feed .starting rs = .inr (.error e) ↔
      ∃ pre post, rs = pre ++ .error e :: post ∧
        (∀ j r, pre[j]? = some r →
          r = .ok () ∨ ∃ e', r = .error e' ∧ RunStage.nth j = .ticking ∧ ∀ m, e' ≠ .internal m) ∧
        RunStage.nth pre.length = .ticking ∧ ∃ m, e = .internal m) ∧
    (∀ rs, RunStage.feed .starting rs = .inr (.ok ()) ↔
      ∃ pre e post, rs = pre ++ .error e :: post ∧
        (∀ j r, pre[j]? = some r →
          r = .ok () ∨ ∃ e', r = .error e' ∧ RunStage.nth j = .ticking ∧ ∀ m, e' ≠ .internal m) ∧
        RunStage.nth pre.length ≠ .ticking) ∧
    (∀ (i : Nat) (c : ControllerRef) (a b : Nat) (st : RunStage),
      w.jobs[i]? = some ⟨.run c a b st, .ended (.finished (.ok ()))⟩ →
      w.cancelled c.token = true) ∧
    (∀ (i : Nat) (l : Loop) (err : ScaleError),
      w.jobs[i]? = some ⟨l, .ended (.finished (.error err))⟩ → ∃ m, err = .internal m) ∧
    w.stoppedServices.Pairwise (· ≤ ·) ∧ w.stoppedServices.Nodup ∧
    (∀ k, k ∈ w.stoppedServices ↔ ∃ sc, w.autoscaler.scheduled.get? k = some sc ∧
      w.jobEnded sc.job = true ∧ ∃ c, w.controllers[sc.controller]? = some c ∧
        w.cancelled c.token = false) ∧
    (∀ k ∈ w.stoppedServices, ∃ sc, w.autoscaler.scheduled.get? k = some sc ∧
      ((∃ m, w.jobEnd sc.job = some (.finished (.error (.internal m)))) ∨
        ∃ m, w.jobEnd sc.job = some (.crashed m))) ∧
    w.report .scheduler = if w.stoppedServices = [] then .healthy else
      ⟨.unhealthy, some ("Scaling controllers have stopped running. The service must be " ++
        "restarted to continue scaling. Affected services: " ++
        ", ".intercalate w.stoppedServices)⟩ := by
  obtain ⟨hs, ha⟩ := hw.tracked
  refine ⟨fun rs e => ?_, fun rs => ?_, hs.endedOk,
    fun i l err hi => (ScaleError.recoverable_eq_false_iff err).mp (hs.endedError i l err hi),
    World.pairwise_stoppedServices w, World.nodup_stoppedServices ha.keys,
    World.mem_stoppedServices_iff ha.keys, fun k hk => ?_, World.report_scheduler w⟩
  · rw [RunStage.feed_starting_eq_error_iff]
    simp only [RunStage.ends_eq_false_iff, ScaleError.recoverable_eq_true_iff,
      ScaleError.recoverable_eq_false_iff]
  · rw [RunStage.feed_starting_eq_ok_iff]
    simp only [RunStage.ends_eq_false_iff, ScaleError.recoverable_eq_true_iff]
  · -- an error that is not recoverable is an internal one
    obtain ⟨sc, hsc, ⟨err, hend, hrec⟩ | hcrash⟩ := World.ended_of_mem_stoppedServices hs ha hk
    · obtain ⟨m, rfl⟩ := (ScaleError.recoverable_eq_false_iff err).mp hrec
      exact ⟨sc, hsc, .inl ⟨m, hend⟩⟩
    · exact ⟨sc, hsc, .inr hcrash⟩

/-- Once service "a" is scheduled, the scheduler names each stopped service at most once. -/
theorem queueService_stopped_nodup :
    ReconcilerRun (World.queueWorld.reconcile [World.queueService 3]).1 ∧
      (World.queueWorld.reconcile [World.queueService 3]).1.stoppedServices.Nodup :=
  ⟨ReconcilerRun.queueService,
    (scheduler_health_names_failed_loops ReconcilerRun.queueService).2.2.2.2.2.1⟩

end ScaleControl
