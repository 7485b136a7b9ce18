import Mathlib
import ScaleControl.Queue
import ScaleControl.Proofs.RollingWindow
/-!
# What the queue analyser remembers

A call of the queue analyser samples when no instance is starting, the target queue's
statistics and, with a staging indicator, the staging queues' are read, the backlog fits in
64 bits (a larger one stops the program) and it is not a backlog without instances. Only a
sampling call changes the analyser: any other call leaves it as it was, and one made while
instances are starting reads no telemetry at all.

The analyser is then a function of the list of its samples (`feed_ofSamples`): after `n`
sampling calls its count is `n` modulo the period `p` (the scaling delay, at least one) and
each window holds the latest `min n p` samples, oldest first. The `n`-th sampling call decides,
from the workers those windows call for, exactly when `p` divides `n`, and asks for nothing
otherwise; each decision so averages the `p` samples taken since the one before
(`analyser_follows_samples`).
-/
namespace ScaleControl

/-- The backlog of a sample: the target's messages and every staging queue's. -/
def backlogOf (x : QueueStats × List StagingStats) : Nat :=
  x.2.foldl (fun acc st => acc + st.messages.toNat) x.1.messages.toNat

namespace QueueAnalyser

/-- The number of samples behind each decision: the scaling delay, at least one. -/
def period (a : QueueAnalyser) : Nat := max a.profile.scalingDelay.toNat 1

theorem period_pos (a : QueueAnalyser) : 0 < a.period := by
  unfold period
  omega

/-- The sample a call with instances `s` and telemetry `t` takes, if it samples: no instance
is starting, the target's statistics and (with a staging pattern) the staging queues' are read,
the backlog fits in 64 bits, and there is no backlog without instances. Of the analyser only
its staging pattern matters. -/
def sampleOf (a : QueueAnalyser) (s : Snapshot) (t : Telemetry) :
    Option (QueueStats × List StagingStats) :=
  if s.staging > 0 then none
  else
    match t.queue, (if a.pattern.isSome then t.staging else .ok []) with
    | .ok target, .ok staging =>
      if backlogOf (target, staging) > wordLimit ∨
          (backlogOf (target, staging) > 0 ∧ s.total = 0) then none
      else some (target, staging)
    | _, _ => none

/-- The analyser after the calls `cs`, each with its instances and telemetry, in order. -/
def feed (a : QueueAnalyser) (cs : List (Snapshot × Telemetry)) : QueueAnalyser :=
  cs.foldl (fun a c => (a.analyse c.1 c.2).1) a

/-- The samples of the sampling calls among `cs`, oldest first. -/
def samples (a : QueueAnalyser) (cs : List (Snapshot × Telemetry)) :
    List (QueueStats × List StagingStats) :=
  cs.filterMap fun c => a.sampleOf c.1 c.2

/-- The analyser as the samples `xs` make it: their number modulo the period as the count
since the last decision, and in each window the latest of them, as many as it keeps. -/
def ofSamples (a : QueueAnalyser) (xs : List (QueueStats × List StagingStats)) : QueueAnalyser :=
  { a with
    targetSamples := Window.latest a.period (xs.map (·.1))
    stagingSamples := Window.latest a.period (xs.map (·.2))
    ticks := xs.length % a.period }

section ofSamples

variable (a : QueueAnalyser) (xs : List (QueueStats × List StagingStats))

@[simp] theorem target_ofSamples : (a.ofSamples xs).target = a.target := rfl
@[simp] theorem profile_ofSamples : (a.ofSamples xs).profile = a.profile := rfl
@[simp] theorem pattern_ofSamples : (a.ofSamples xs).pattern = a.pattern := rfl
@[simp] theorem ticks_ofSamples : (a.ofSamples xs).ticks = xs.length % a.period := rfl
@[simp] theorem period_ofSamples : (a.ofSamples xs).period = a.period := rfl

@[simp] theorem sampleOf_ofSamples (s : Snapshot) (t : Telemetry) :
    (a.ofSamples xs).sampleOf s t = a.sampleOf s t := rfl

@[simp] theorem ofSamples_ofSamples (ys : List (QueueStats × List StagingStats)) :
    (a.ofSamples xs).ofSamples ys = a.ofSamples ys := rfl

/-- One more sample: both windows take it, and the count moves on modulo the period. -/
theorem ofSamples_append (x : QueueStats × List StagingStats) :
    a.ofSamples (xs ++ [x]) =
      { a with
        targetSamples := ((a.ofSamples xs).targetSamples.push x.1).2
        stagingSamples := ((a.ofSamples xs).stagingSamples.push x.2).2
        ticks := (xs.length + 1) % a.period } := by
  simp only [ofSamples, Window.push_latest a.period_pos, List.map_append, List.map_singleton,
    List.length_append, List.length_singleton]

@[simp] theorem targetSamples_items_ofSamples :
    (a.ofSamples xs).targetSamples.items = (xs.map (·.1)).drop (xs.length - a.period) := by
  simp [ofSamples, Window.latest]

@[simp] theorem stagingSamples_items_ofSamples :
    (a.ofSamples xs).stagingSamples.items = (xs.map (·.2)).drop (xs.length - a.period) := by
  simp [ofSamples, Window.latest]

end ofSamples

/-- A fresh analyser is the one no sample makes. -/
theorem create_ofSamples_nil (target : String) (profile : QueueProfile)
    (indicator : Option String) :
    (create target profile indicator).ofSamples [] = create target profile indicator := by
  simp [create, ofSamples, Window.empty, Window.latest, period]

/-- One more sample: the count goes on below the scaling delay exactly when the period does
not divide the new number of samples, and it is then that number modulo the period. -/
theorem count_step (a : QueueAnalyser) (n : Nat) :
    (n % a.period + 1 < a.profile.scalingDelay.toNat ↔ ¬ a.period ∣ n + 1) ∧
      (¬ a.period ∣ n + 1 → n % a.period + 1 = (n + 1) % a.period) := by
  unfold period
  generalize a.profile.scalingDelay.toNat = d
  rcases Nat.eq_zero_or_pos d with rfl | hd
  · simp
  · have hp : max d 1 = d := by omega
    rw [hp, Nat.dvd_iff_mod_eq_zero, ← Nat.mod_add_mod n d 1]
    have hr : n % d < d := Nat.mod_lt n hd
    by_cases hlt : n % d + 1 < d
    · simp [hlt, Nat.mod_eq_of_lt hlt]
    · -- the count reaches the period
      have heq : n % d + 1 = d := by omega
      simp [heq]

/-- While instances are starting, a call reads no telemetry and asks for nothing. -/
theorem analyse_of_staging (a : QueueAnalyser) (t : Telemetry) {s : Snapshot}
    (hs : 0 < s.staging) : a.analyse s t = (a, .action .noAction, {}) := by
  simp [analyse, hs]

/-- A call that takes no sample leaves the analyser as it was. -/
theorem analyse_fst_of_sampleOf_none {a : QueueAnalyser} {s : Snapshot} {t : Telemetry}
    (h : a.sampleOf s t = none) : (a.analyse s t).1 = a := by
  unfold sampleOf at h
  unfold analyse
  split
  · rfl
  · rename_i hs
    rw [if_neg hs] at h
    cases hq : t.queue with
    | error e => rfl
    | ok target =>
      cases hst : (if a.pattern.isSome then t.staging else .ok [] : Outcome (List StagingStats)) with
      | error e => rfl
      | ok staging =>
        simp only [hq, hst] at h
        split_ifs at h with hcut
        simp only [backlogOf] at hcut
        dsimp only
        -- the call is an overflow or a backlog without instances
        by_cases hover : List.foldl (fun acc st => acc + st.messages.toNat) target.messages.toNat
            staging > wordLimit
        · rw [if_pos hover]
        · obtain ⟨hpos, hidle⟩ := hcut.resolve_left hover
          rw [if_neg hover, if_pos (by simp [hpos, hidle])]

/-- A sampling call pushes its sample into both windows, moves the count on, and decides, from
the workers the windows then call for, when the count comes round. -/
theorem analyse_ofSamples {a : QueueAnalyser} {xs : List (QueueStats × List StagingStats)}
    {s : Snapshot} {t : Telemetry} {x : QueueStats × List StagingStats}
    (h : a.sampleOf s t = some x) :
    (a.ofSamples xs).analyse s t =
      (a.ofSamples (xs ++ [x]),
        (if a.period ∣ xs.length + 1 then
          .action (QueueAnalyser.decide
            ((a.ofSamples (xs ++ [x])).workersNeeded (backlogOf x).toUInt64 s) s.total)
        else .action .noAction),
        { queue := true, staging := a.pattern }) := by
  unfold sampleOf at h
  split at h
  · cases h
  · rename_i hs
    cases hq : t.queue with
    | error e => simp [hq] at h
    | ok target =>
      cases hst : (if a.pattern.isSome then t.staging else .ok [] : Outcome (List StagingStats)) with
      | error e => simp [hq, hst] at h
      | ok staging =>
        simp only [hq, hst] at h
        split_ifs at h with hcut
        obtain rfl := Option.some.inj h
        simp only [not_or, not_and, backlogOf] at hcut
        obtain ⟨hfit, hidle⟩ := hcut
        have hstep := count_step a xs.length
        -- the staging pattern is the analyser's own, whatever its samples
        have hst' : (if (a.ofSamples xs).pattern.isSome then t.staging else .ok [] :
            Outcome (List StagingStats)) = .ok staging := hst
        unfold analyse
        rw [if_neg hs]
        simp only [hq, hst']
        rw [if_neg hfit, if_neg (by simpa using hidle), ofSamples_append]
        simp only [ticks_ofSamples, profile_ofSamples]
        by_cases hdvd : a.period ∣ xs.length + 1
        · -- the count comes round: a decision, and the count starts again
          have hround : ¬ xs.length % a.period + 1 < a.profile.scalingDelay.toNat :=
            fun hlt => hstep.1.mp hlt hdvd
          simp only [hround, hdvd, if_false, if_true, Nat.dvd_iff_mod_eq_zero.mp hdvd]
          rfl
        · have hon := hstep.1.mpr hdvd
          simp only [hon, hdvd, if_false, if_true, ← hstep.2 hdvd]
          rfl

@[simp] theorem feed_nil (a : QueueAnalyser) : a.feed [] = a := rfl

@[simp] theorem feed_cons (a : QueueAnalyser) (c : Snapshot × Telemetry) (cs) :
    a.feed (c :: cs) = (a.analyse c.1 c.2).1.feed cs := rfl

@[simp] theorem samples_nil (a : QueueAnalyser) : a.samples [] = [] := rfl

theorem samples_cons (a : QueueAnalyser) (c : Snapshot × Telemetry) (cs) :
    a.samples (c :: cs) = (a.sampleOf c.1 c.2).toList ++ a.samples cs := by
  cases h : a.sampleOf c.1 c.2 <;> simp [samples, h]

/-- Fed any calls, the analyser of the samples `xs` becomes the analyser of `xs` and the
samples the calls take. -/
theorem feed_ofSamples (a : QueueAnalyser) (xs : List (QueueStats × List StagingStats))
    (cs : List (Snapshot × Telemetry)) :
    (a.ofSamples xs).feed cs = a.ofSamples (xs ++ a.samples cs) := by
  -- induction on the calls, from any list of samples taken before them
  induction cs generalizing xs with
  | nil => simp
  | cons c cs ih =>
    rw [feed_cons, samples_cons]
    cases hx : a.sampleOf c.1 c.2 with
    | none =>
      rw [analyse_fst_of_sampleOf_none (by simpa using hx), ih]
      simp
    | some x =>
      simp only [analyse_ofSamples hx, ih]
      simp

/-- An analyser that holds no sample, fed any calls, is the analyser of the samples they
take. -/
theorem feed_eq_ofSamples {a : QueueAnalyser} (h : a.ofSamples [] = a)
    (cs : List (Snapshot × Telemetry)) : a.feed cs = a.ofSamples (a.samples cs) := by
  conv_lhs => rw [← h]
  rw [feed_ofSamples, List.nil_append]

end QueueAnalyser

/-- A fresh queue analyser, fed any calls, is the analyser of the samples they take: its count
is their number modulo the period, and each window holds the latest of them, as many as the
period. The next call changes nothing unless it samples, and reads no telemetry while
instances are starting; a sampling call decides, from the workers the windows then call for,
exactly when the period divides the new number of samples, and otherwise asks for nothing. -/
theorem analyser_follows_samples (target : String) (profile : QueueProfile)
    (indicator : Option String) (cs : List (Snapshot × Telemetry)) (s : Snapshot)
    (t : Telemetry) :
    let a := QueueAnalyser.create target profile indicator
    let xs := a.samples cs
    (a.feed cs).ticks = xs.length % a.period ∧
      (a.feed cs).targetSamples.items = (xs.map (·.1)).drop (xs.length - a.period) ∧
      (a.feed cs).stagingSamples.items = (xs.map (·.2)).drop (xs.length - a.period) ∧
      (a.sampleOf s t = none → ((a.feed cs).analyse s t).1 = a.feed cs) ∧
      (0 < s.staging → ((a.feed cs).analyse s t).2.2 = {}) ∧
      ∀ x, a.sampleOf s t = some x →
        ((a.feed cs).analyse s t).2.1 =
          if a.period ∣ xs.length + 1 then
            .action (QueueAnalyser.decide
              ((a.ofSamples (xs ++ [x])).workersNeeded (backlogOf x).toUInt64 s) s.total)
          else .action .noAction := by
  intro a xs
  have hfeed : a.feed cs = a.ofSamples xs :=
    QueueAnalyser.feed_eq_ofSamples (QueueAnalyser.create_ofSamples_nil target profile indicator) cs
  refine ⟨by rw [hfeed]; rfl, by rw [hfeed]; simp, by rw [hfeed]; simp, ?_, ?_, ?_⟩
  · intro hnone
    exact QueueAnalyser.analyse_fst_of_sampleOf_none (by rw [hfeed]; exact hnone)
  · intro hs
    rw [QueueAnalyser.analyse_of_staging _ _ hs]
  · intro x hx
    rw [hfeed, QueueAnalyser.analyse_ofSamples hx]

end ScaleControl
