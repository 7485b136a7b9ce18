import Mathlib
import ScaleControl.Proofs.QueueBounds
/-!
# The queue analyser's arithmetic

Of the integer arithmetic an analysis does, only the backlog can overflow: the target's
messages plus the staging queues' messages, summed in 64 bits. An analysis overflows exactly
when no instance is starting, both reads succeed (the staging read only when a staging pattern
is set) and that sum passes `2^64 - 1` (`analyse_eq_overflow_iff`). Every other call ends with
an action or with the error of its read.

The rest stays in range. The count of samples since the last decision is below the period,
the scaling delay or one, before every call (`feed_ticks_lt_period`): a call adds one to it
only below the period and sets it to zero there. The period is a 32-bit scaling delay, so the
count plus one is a 32-bit word. A decision subtracts the instances from the workers needed
only when more are needed, and the other way only when fewer are, so its amounts are the
exact differences (`decide_exact`). The worker estimate goes from a double to a count by a
conversion that saturates, so that conversion cannot fail either.
-/
namespace ScaleControl

/-- Adding message counts in turn to `init` adds their sum. -/
theorem foldl_messages_eq (init : Nat) (xs : List StagingStats) :
    xs.foldl (fun acc st => acc + st.messages.toNat) init =
      init + (xs.map (·.messages.toNat)).sum := by
  induction xs generalizing init with
  | nil => simp
  | cons x xs ih =>
    rw [List.foldl_cons, ih, List.map_cons, List.sum_cons]
    omega

/-- The backlog of a sample: the target's messages plus the sum of the staging queues'. -/
theorem backlogOf_eq (target : QueueStats) (staging : List StagingStats) :
    backlogOf (target, staging) =
      target.messages.toNat + (staging.map (·.messages.toNat)).sum :=
  foldl_messages_eq _ _

namespace QueueAnalyser

/-- An analysis overflows exactly when no instance is starting, the target's statistics and
(with a staging pattern) the staging queues' are read, and their backlog passes 64 bits. -/
theorem analyse_eq_overflow_iff (a : QueueAnalyser) (s : Snapshot) (t : Telemetry) :
    (a.analyse s t).2.1 = .overflow ↔
      s.staging = 0 ∧ ∃ target staging, t.queue = .ok target ∧
        (if a.pattern.isSome then t.staging else .ok [] : Outcome (List StagingStats)) =
          .ok staging ∧ wordLimit < backlogOf (target, staging) := by
  constructor
  · intro h
    -- while instances are starting nothing is read, and nothing overflows
    have hs : ¬ 0 < s.staging := fun hs => by
      rw [analyse_of_staging a t hs] at h
      cases h
    have hzero : s.staging = 0 := by
      rw [UInt32.lt_iff_toNat_lt, UInt32.toNat_zero] at hs
      exact UInt32.toNat_inj.mp (by rw [UInt32.toNat_zero]; omega)
    cases hq : t.queue with
    | error e =>
      unfold analyse at h
      rw [if_neg hs, hq] at h
      cases h
    | ok target =>
      cases hst : (if a.pattern.isSome then t.staging else .ok [] :
          Outcome (List StagingStats)) with
      | error e =>
        unfold analyse at h
        rw [if_neg hs] at h
        simp only [hq, hst] at h
        cases h
      | ok staging =>
        refine ⟨hzero, target, staging, rfl, rfl, ?_⟩
        -- a backlog that fits gives an action on every branch
        by_contra hfit
        rw [analyse_of_read hq hst (Nat.le_of_not_lt hfit)] at h
        split_ifs at h
  · rintro ⟨hs, target, staging, hq, hst, hover⟩
    unfold analyse
    rw [if_neg (by rw [hs]; decide)]
    simp only [hq, hst]
    rw [show List.foldl (fun acc st => acc + st.messages.toNat) target.messages.toNat staging =
      backlogOf (target, staging) from rfl, if_pos hover]

/-- A decision's amounts are the exact differences: it adds the workers missing, at most five,
when more are needed, and removes the surplus when fewer are. Neither 32-bit subtraction
wraps. -/
theorem decide_exact (needed current : UInt32) :
    (∀ k, decide needed current = .up k →
      current.toNat < needed.toNat ∧ k.toNat = min 5 (needed.toNat - current.toNat)) ∧
    (∀ k, decide needed current = .down k →
      needed.toNat < current.toNat ∧ k.toNat = current.toNat - needed.toNat) := by
  have h5 : maxScaleUp.toNat = 5 := rfl
  unfold decide
  split
  · -- more are needed: the subtraction is below the comparison that guards it
    rename_i hmore
    rw [GT.gt, UInt32.lt_iff_toNat_lt] at hmore
    refine ⟨fun k hk => ?_, fun k hk => absurd hk (Action.up_ne_down _ _)⟩
    obtain rfl : min maxScaleUp (needed - current) = k := by simpa [Action.up] using hk
    rw [UInt32.toNat_min, h5, UInt32.toNat_sub_of_le _ _ (UInt32.le_iff_toNat_le.mpr hmore.le)]
    exact ⟨hmore, rfl⟩
  · split
    · -- fewer are needed
      rename_i _ hfewer
      rw [UInt32.lt_iff_toNat_lt] at hfewer
      refine ⟨fun k hk => absurd hk.symm (Action.up_ne_down _ _), fun k hk => ?_⟩
      obtain rfl : current - needed = k := by simpa [Action.down] using hk
      exact ⟨hfewer, UInt32.toNat_sub_of_le _ _ (UInt32.le_iff_toNat_le.mpr hfewer.le)⟩
    · refine ⟨fun k hk => ?_, fun k hk => absurd hk (Action.noAction_ne_down _)⟩
      simp [Action.noAction, Action.up] at hk

/-- Before every call of an analyser made from any profile and fed any calls, the count since
the last decision is below the period, the scaling delay or one, and the count plus one is a
32-bit word. -/
theorem feed_ticks_lt_period (target : String) (profile : QueueProfile)
    (indicator : Option String) (cs : List (Snapshot × Telemetry)) :
    ((create target profile indicator).feed cs).ticks < max profile.scalingDelay.toNat 1 ∧
      ((create target profile indicator).feed cs).ticks + 1 < 2 ^ 32 := by
  -- the count is the number of samples modulo the period
  have hlt : ((create target profile indicator).feed cs).ticks <
      max profile.scalingDelay.toNat 1 := by
    rw [feed_eq_ofSamples (create_ofSamples_nil target profile indicator) cs, ticks_ofSamples]
    exact Nat.mod_lt _ (period_pos _)
  have hdelay := UInt32.toNat_lt profile.scalingDelay
  exact ⟨hlt, by omega⟩

end QueueAnalyser

open QueueAnalyser in
/-- For every analyser, instances and telemetry, the analysis overflows exactly when no
instance is starting, both reads succeed and the target's messages plus the staging queues'
pass `2^64 - 1`. The other integer arithmetic stays in range: before every call of an analyser
fed any calls, its count is below the scaling delay (or one), so the count plus one is a 32-bit
word, and a decision's subtractions are guarded so that its amounts are the exact
differences. -/
theorem queue_arithmetic_in_range :
    (∀ (a : QueueAnalyser) (s : Snapshot) (t : Telemetry),
      (a.analyse s t).2.1 = .overflow ↔
        s.staging = 0 ∧ ∃ target staging, t.queue = .ok target ∧
          (if a.pattern.isSome then t.staging else .ok [] : Outcome (List StagingStats)) =
            .ok staging ∧
          wordLimit < target.messages.toNat + (staging.map (·.messages.toNat)).sum) ∧
    (∀ (target : String) (profile : QueueProfile) (indicator : Option String)
        (cs : List (Snapshot × Telemetry)),
      ((create target profile indicator).feed cs).ticks < max profile.scalingDelay.toNat 1 ∧
        ((create target profile indicator).feed cs).ticks + 1 < 2 ^ 32) ∧
    (∀ needed current : UInt32,
      (∀ k, QueueAnalyser.decide needed current = .up k →
        current.toNat < needed.toNat ∧ k.toNat = min 5 (needed.toNat - current.toNat)) ∧
      (∀ k, QueueAnalyser.decide needed current = .down k →
        needed.toNat < current.toNat ∧ k.toNat = current.toNat - needed.toNat)) := by
  refine ⟨fun a s t => ?_, fun target profile indicator cs => ?_, decide_exact⟩
  · simp only [analyse_eq_overflow_iff, backlogOf_eq]
  · exact feed_ticks_lt_period target profile indicator cs

/-- A target holding the largest 64-bit count with one more message in a staging queue
overflows the backlog; a decision for nine workers against two instances adds five. -/
theorem full_queue_overflows :
    let a := QueueAnalyser.create "jobs" ⟨10, 300⟩ (some "-in")
    let t : Telemetry := ⟨.ok ⟨18446744073709551615, 0.0, 0.0⟩, .ok [⟨"jobs-in-1", 1, 0.0⟩]⟩
    (a.analyse ⟨0, 0, 0, 0⟩ t).2.1 = .overflow ∧
      ((2 : UInt32).toNat < (9 : UInt32).toNat ∧
        (5 : UInt32).toNat = min 5 ((9 : UInt32).toNat - (2 : UInt32).toNat)) := by
  intro a t
  refine ⟨(queue_arithmetic_in_range.1 a ⟨0, 0, 0, 0⟩ t).mpr ⟨rfl, _, _, rfl, rfl, by decide⟩,
    (queue_arithmetic_in_range.2.2 9 2).1 5 rfl⟩

end ScaleControl
