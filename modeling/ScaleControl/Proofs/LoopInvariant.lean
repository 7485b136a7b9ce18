import Mathlib
import ScaleControl.Proofs.RunLoop
import ScaleControl.Proofs.Scheduling
import ScaleControl.Proofs.GovernorTables
/-!
# The scheduler's loop invariant

The world runs every spawned loop as a job that waits, in a timer or in the queue of loops
ready to go on, and the driver steps the jobs in turn. `LoopPart.Sound` says what holds of
the jobs between steps when every job is a controller's run loop: each waiting job waits once,
to go on with a program that never asks for a refresh; at a sleep stage it waits in its
stage's one sleep, on its controller's token, and that sleep is cut short only once the token
is cancelled. A run loop that ended well had its token cancelled, and one that ended with an
error met an error that is not recoverable.

`Sound` changes in only a few ways (`pop`, `modifyJob`, `addTimer`, `wake`, `markTokens`,
`pushJob`); every step of the scheduler is proved from them. `drive_sound` carries the
invariant over a whole run of the driver, and `Steady` says what such a run leaves as it was:
the reconciler, the registrations, the tokens and what is known of each controller and loop.
-/
namespace ScaleControl

/-- What the reconciler knows of a controller: its descriptor and its token. -/
def Controller.key (c : Controller) : Descriptor × Nat := (c.descriptor, c.token)

/-- The controller of a loop, if it is a controller's run loop. -/
def Loop.controller? : Loop → Option ControllerRef
  | .run c _ _ _ => some c
  | .refresh _ _ => none

/-- The loop a timer wakes, if it wakes one. -/
def Timer.loop? (tm : Timer) : Option Nat :=
  match tm.waiter with
  | .loop i => some i
  | .driver => none

/-- The part of the world the loops live in: the context their programs are built in, the
loops, the tokens, the timers and the queue of loops ready to go on. -/
structure LoopPart where
  ctx : Context
  jobs : Array Job
  tokens : Array Token
  timers : List Timer
  ready : List (Nat × Bool)

namespace LoopPart

/-- Whether a token is cancelled. -/
def cancelled (p : LoopPart) (t : Nat) : Bool := tokenCancelled p.tokens (p.tokens.size + 1) t

/-- The loops waiting to go on: those a timer wakes, then those ready. -/
def pending (p : LoopPart) : List Nat := p.timers.filterMap Timer.loop? ++ p.ready.map (·.1)

theorem mem_pending {p : LoopPart} {i : Nat} :
    i ∈ p.pending ↔ (∃ tm ∈ p.timers, tm.loop? = some i) ∨ ∃ full, (i, full) ∈ p.ready := by
  simp [pending, List.mem_filterMap]

/-- The loops are controllers' run loops in good order. Each waiting loop waits once, in a
timer or in the ready queue, to go on with a program that never refreshes. At a sleep stage
that program is the stage's own or the answer to its one sleep, whose timer is on the
controller's token and which is cut short only once that token is cancelled. A loop that ended
well had its token cancelled, and one that ended with an error met one that is not
recoverable. -/
structure Sound (p : LoopPart) : Prop where
  nodup : p.pending.Nodup
  lt_size : ∀ i ∈ p.pending, i < p.jobs.size
  runLoop : ∀ (i : Nat) (j : Job), p.jobs[i]? = some j →
    ∃ (c : ControllerRef) (a b : Nat) (st : RunStage), j.loop = .run c a b st
  quiet : ∀ i ∈ p.pending, ∀ (l : Loop) (k : Bool → Prog (Outcome Unit)),
    p.jobs[i]? = some ⟨l, .waiting k⟩ → ∀ x, (k x).Always Exchange.NoRefresh
  sleeping : ∀ i ∈ p.pending, ∀ (c : ControllerRef) (a b : Nat) (st : RunStage)
    (k : Bool → Prog (Outcome Unit)), p.jobs[i]? = some ⟨.run c a b st, .waiting k⟩ →
    st ≠ .ticking → k = sleepReply c ∨ ∀ x, k x = (Loop.run c a b st).program p.ctx
  cut : ∀ (i : Nat), (i, false) ∈ p.ready → ∀ (c : ControllerRef) (a b : Nat) (st : RunStage)
    (s : JobState), p.jobs[i]? = some ⟨.run c a b st, s⟩ → st ≠ .ticking →
    p.cancelled c.token = true
  timer : ∀ tm ∈ p.timers, ∀ (i : Nat), tm.loop? = some i → ∀ (c : ControllerRef) (a b : Nat)
    (st : RunStage) (s : JobState), p.jobs[i]? = some ⟨.run c a b st, s⟩ → st ≠ .ticking →
    tm.token = some c.token
  endedOk : ∀ (i : Nat) (c : ControllerRef) (a b : Nat) (st : RunStage),
    p.jobs[i]? = some ⟨.run c a b st, .ended (.finished (.ok ()))⟩ → p.cancelled c.token = true
  endedError : ∀ (i : Nat) (l : Loop) (e : ScaleError),
    p.jobs[i]? = some ⟨l, .ended (.finished (.error e))⟩ → e.recoverable = false

namespace Sound

variable {p : LoopPart}

/-- Taking the first ready loop off the queue. -/
theorem pop (h : p.Sound) {i : Nat} {full : Bool} {rest : List (Nat × Bool)}
    (hready : p.ready = (i, full) :: rest) : Sound { p with ready := rest } := by
  have hsub : ∀ j ∈ ({ p with ready := rest } : LoopPart).pending, j ∈ p.pending := by
    intro j hj
    simp only [pending, hready, List.mem_append, List.map_cons, List.mem_cons] at hj ⊢
    tauto
  have hperm : p.pending.Perm (i :: ({ p with ready := rest } : LoopPart).pending) := by
    simp only [pending, hready, List.map_cons]
    exact List.perm_middle
  refine ⟨(hperm.nodup_iff.mp h.nodup).of_cons, fun j hj => h.lt_size j (hsub j hj), h.runLoop,
    fun j hj => h.quiet j (hsub j hj), fun j hj => h.sleeping j (hsub j hj),
    fun j hj => h.cut j (by rw [hready]; exact List.mem_cons_of_mem _ hj), h.timer, h.endedOk,
    h.endedError⟩

/-- The first ready loop waits nowhere else. -/
theorem not_mem_pending_pop (h : p.Sound) {i : Nat} {full : Bool} {rest : List (Nat × Bool)}
    (hready : p.ready = (i, full) :: rest) : i ∉ ({ p with ready := rest } : LoopPart).pending := by
  have hperm : p.pending.Perm (i :: ({ p with ready := rest } : LoopPart).pending) := by
    simp only [pending, hready, List.map_cons]
    exact List.perm_middle
  exact (List.nodup_cons.mp (hperm.nodup_iff.mp h.nodup)).1

/-- A timer of the driver changes nothing of the loops. -/
theorem addDriverTimer (h : p.Sound) {tm : Timer} (htm : tm.loop? = none) :
    Sound { p with timers := p.timers ++ [tm] } := by
  have hpending : ({ p with timers := p.timers ++ [tm] } : LoopPart).pending = p.pending := by
    simp [pending, List.filterMap_append, htm]
  refine { h with nodup := hpending ▸ h.nodup, lt_size := hpending ▸ h.lt_size,
                  quiet := hpending ▸ h.quiet, sleeping := hpending ▸ h.sleeping,
                  timer := fun tm' htm' n hn => ?_ }
  rcases List.mem_append.mp htm' with htm' | htm'
  · exact h.timer tm' htm' n hn
  · rw [List.mem_singleton.mp htm', htm] at hn
    cases hn

/-- Tokens may be marked and added: what was cancelled stays cancelled. -/
theorem markTokens (h : p.Sound) {tokens' : Array Token}
    (hmono : ∀ t, p.cancelled t = true → tokenCancelled tokens' (tokens'.size + 1) t = true) :
    Sound { p with tokens := tokens' } :=
  { h with cut := fun i hi c a b st s hs hst => hmono _ (h.cut i hi c a b st s hs hst),
           endedOk := fun i c a b st hi => hmono _ (h.endedOk i c a b st hi) }

theorem ne_of_pending {i n : Nat} (hi : i ∉ p.pending) (hn : n ∈ p.pending) : n ≠ i :=
  fun e => hi (e ▸ hn)

theorem mem_pending_of_ready {n : Nat} {full : Bool} (hn : (n, full) ∈ p.ready) : n ∈ p.pending :=
  mem_pending.mpr (.inr ⟨full, hn⟩)

theorem mem_pending_of_timer {tm : Timer} (htm : tm ∈ p.timers) {n : Nat} (hn : tm.loop? = some n) :
    n ∈ p.pending :=
  mem_pending.mpr (.inl ⟨tm, htm, hn⟩)

/-- A new run loop, queued to start its stage's program, keeps the loops sound. -/
theorem pushJob (h : p.Sound) (c : ControllerRef) (a b : Nat) (st : RunStage) :
    Sound { p with jobs := p.jobs.push ⟨.run c a b st, .waiting fun _ => (Loop.run c a b st).program p.ctx⟩,
                   ready := p.ready ++ [(p.jobs.size, true)] } := by
  have hpending : ∀ n, n ∈ (p.timers.filterMap Timer.loop? ++ (p.ready ++ [(p.jobs.size, true)]).map (·.1)) →
      n ∈ p.pending ∨ n = p.jobs.size := fun n hn => by
    simpa [pending, or_assoc] using hn
  have hget : ∀ n, (p.jobs.push ⟨.run c a b st, .waiting fun _ => (Loop.run c a b st).program p.ctx⟩)[n]? =
      if n = p.jobs.size then some ⟨.run c a b st, .waiting fun _ => (Loop.run c a b st).program p.ctx⟩
      else p.jobs[n]? := fun n => by
    rw [Array.getElem?_push]
  -- the loops already there keep what they were
  have hold : ∀ n ∈ p.pending, (p.jobs.push ⟨.run c a b st, .waiting fun _ =>
      (Loop.run c a b st).program p.ctx⟩)[n]? = p.jobs[n]? := fun n hn => by
    rw [hget, if_neg (Nat.ne_of_lt (h.lt_size n hn))]
  refine ⟨?_, fun n hn => ?_, fun n j' hj' => ?_, fun n hn l k hk => ?_,
    fun n hn c' a' b' st' k hk hst => ?_, fun n hn c' a' b' st' s hs hst => ?_,
    fun tm htm n hn c' a' b' st' s hs hst => ?_, fun n c' a' b' st' hn => ?_, fun n l e hn => ?_⟩
  · show (p.timers.filterMap Timer.loop? ++ (p.ready ++ [(p.jobs.size, true)]).map (·.1)).Nodup
    rw [List.map_append, ← List.append_assoc]
    exact List.Nodup.append h.nodup (List.nodup_singleton _)
      (fun n hn hn' => by
        rw [List.map_singleton, List.mem_singleton] at hn'
        subst hn'
        exact Nat.lt_irrefl _ (h.lt_size _ hn))
  · show n < (p.jobs.push _).size
    rw [Array.size_push]
    rcases hpending n hn with hn | rfl
    · exact Nat.lt_succ_of_lt (h.lt_size n hn)
    · exact Nat.lt_succ_self _
  · rw [hget] at hj'
    split at hj'
    · obtain rfl := Option.some.inj hj'
      exact ⟨c, a, b, st, rfl⟩
    · exact h.runLoop n j' hj'
  · rcases hpending n hn with hn | rfl
    · exact h.quiet n hn l k (by rwa [← hold n hn])
    · rw [hget, if_pos rfl] at hk
      cases hk
      exact fun _ => program_noRefresh p.ctx c a b st
  · rcases hpending n hn with hn | rfl
    · exact h.sleeping n hn c' a' b' st' k (by rwa [← hold n hn]) hst
    · rw [hget, if_pos rfl] at hk
      cases hk
      exact .inr fun _ => rfl
  · rcases List.mem_append.mp hn with hn | hn
    · exact h.cut n hn c' a' b' st' s (by rwa [← hold n (mem_pending_of_ready hn)]) hst
    · simp at hn
  · exact h.timer tm htm n hn c' a' b' st' s (by rwa [← hold n (@mem_pending_of_timer p tm htm n hn)]) hst
  · rw [hget] at hn
    split at hn
    · cases hn
    · exact h.endedOk n c' a' b' st' hn
  · rw [hget] at hn
    split at hn
    · cases hn
    · exact h.endedError n l e hn

/-- Changing a loop that waits for nothing, into a run loop that, if it ended, ended as a sound
loop does, keeps the loops sound. -/
theorem modifyJob (h : p.Sound) {i : Nat} (hi : i ∉ p.pending) {j : Job}
    (hj : p.jobs[i]? = some j) (f : Job → Job)
    (hrun : ∃ (c : ControllerRef) (a b : Nat) (st : RunStage), (f j).loop = .run c a b st)
    (hok : ∀ (c : ControllerRef) (a b : Nat) (st : RunStage),
      f j = ⟨.run c a b st, .ended (.finished (.ok ()))⟩ → p.cancelled c.token = true)
    (herr : ∀ (l : Loop) (e : ScaleError), f j = ⟨l, .ended (.finished (.error e))⟩ →
      e.recoverable = false) :
    Sound { p with jobs := p.jobs.modify i f } := by
  have hget : ∀ n, (p.jobs.modify i f)[n]? = if n = i then some (f j) else p.jobs[n]? := by
    intro n
    rw [Array.getElem?_modify]
    by_cases hn : n = i
    · subst hn
      simp [hj]
    · simp [hn, Ne.symm hn]
  -- the loops that wait are not `i`, and keep what they were
  have hother : ∀ n ∈ p.pending, (p.jobs.modify i f)[n]? = p.jobs[n]? := fun n hn => by
    rw [hget, if_neg (ne_of_pending hi hn)]
  refine ⟨h.nodup, fun n hn => by simpa using h.lt_size n hn, fun n j' hj' => ?_,
    fun n hn l k hk => h.quiet n hn l k (by rwa [← hother n hn]),
    fun n hn c a b st k hk => h.sleeping n hn c a b st k (by rwa [← hother n hn]),
    fun n hn c a b st s hs => h.cut n hn c a b st s
      (by rwa [← hother n (mem_pending_of_ready hn)]),
    fun tm htm n hn c a b st s hs => h.timer tm htm n hn c a b st s
      (by rwa [← hother n (mem_pending_of_timer htm hn)]),
    fun n c a b st hn => ?_, fun n l e hn => ?_⟩
  · rw [hget] at hj'
    split at hj'
    · obtain rfl := Option.some.inj hj'
      exact hrun
    · exact h.runLoop n j' hj'
  · rw [hget] at hn
    split at hn
    · exact hok c a b st (Option.some.inj hn)
    · exact h.endedOk n c a b st hn
  · rw [hget] at hn
    split at hn
    · exact herr l e (Option.some.inj hn)
    · exact h.endedError n l e hn

/-- A loop that waits for nothing, suspended with a program that never refreshes, may wait in a
timer; at a sleep stage it waits in the stage's sleep, on its controller's token. -/
theorem addTimer (h : p.Sound) {i : Nat} (hi : i ∉ p.pending) {l : Loop}
    {k : Bool → Prog (Outcome Unit)} (hj : p.jobs[i]? = some ⟨l, .waiting k⟩)
    (hk : ∀ x, (k x).Always Exchange.NoRefresh) {tm : Timer} (htm : tm.loop? = some i)
    (hsleep : ∀ (c : ControllerRef) (a b : Nat) (st : RunStage), l = .run c a b st →
      st ≠ .ticking → k = sleepReply c ∧ tm.token = some c.token) :
    Sound { p with timers := p.timers ++ [tm] } := by
  have hperm : ({ p with timers := p.timers ++ [tm] } : LoopPart).pending.Perm (i :: p.pending) := by
    simp only [pending, List.filterMap_append, List.filterMap_cons, htm, List.filterMap_nil,
      List.append_assoc, List.singleton_append]
    exact List.perm_middle
  have hmem : ∀ n ∈ ({ p with timers := p.timers ++ [tm] } : LoopPart).pending,
      n = i ∨ n ∈ p.pending := fun n hn => List.mem_cons.mp (hperm.subset hn)
  refine ⟨hperm.nodup_iff.mpr (List.nodup_cons.mpr ⟨hi, h.nodup⟩), fun n hn => ?_,
    h.runLoop, fun n hn l' k' hk' => ?_, fun n hn c a b st k' hk' hst => ?_, h.cut,
    fun tm' htm' n hn c a b st s hs hst => ?_, h.endedOk, h.endedError⟩
  · rcases hmem n hn with rfl | hn
    · exact (Array.getElem?_eq_some_iff.mp hj).1
    · exact h.lt_size n hn
  · rcases hmem n hn with rfl | hn
    · rw [hj] at hk'
      cases hk'
      exact hk
    · exact h.quiet n hn l' k' hk'
  · rcases hmem n hn with rfl | hn
    · rw [hj] at hk'
      cases hk'
      exact .inl (hsleep c a b st rfl hst).1
    · exact h.sleeping n hn c a b st k' hk' hst
  · rcases List.mem_append.mp htm' with htm' | htm'
    · exact h.timer tm' htm' n hn c a b st s hs hst
    · rw [List.mem_singleton.mp htm'] at hn ⊢
      rw [htm] at hn
      cases hn
      rw [hj] at hs
      cases hs
      exact (hsleep c a b st rfl hst).2

theorem map_fst_loopWakes (ts : List Timer) (full : Bool) :
    (World.loopWakes ts full).map (·.1) = ts.filterMap Timer.loop? := by
  induction ts with
  | nil => rfl
  | cons tm ts ih =>
    obtain ⟨d, s, waiter, tok⟩ := tm
    cases waiter <;> simp [World.loopWakes, Timer.loop?] at ih ⊢ <;> exact ih

theorem mem_loopWakes {ts : List Timer} {full full' : Bool} {n : Nat}
    (h : (n, full') ∈ World.loopWakes ts full) : full' = full ∧ ∃ tm ∈ ts, tm.loop? = some n := by
  simp only [World.loopWakes, List.mem_filterMap] at h
  obtain ⟨tm, htm, hwake⟩ := h
  obtain ⟨d, s, waiter, tok⟩ := tm
  cases waiter with
  | driver => cases hwake
  | loop i =>
    simp only [Option.some.injEq, Prod.mk.injEq] at hwake
    obtain ⟨rfl, rfl⟩ := hwake
    exact ⟨rfl, _, htm, rfl⟩

/-- Waking, in any order, the loops of the timers that `q` picks keeps the loops sound, when
tokens are only ever marked and a loop told its sleep was cut short has its token cancelled. -/
theorem wake (h : p.Sound) {tokens' : Array Token}
    (hmono : ∀ t, p.cancelled t = true → tokenCancelled tokens' (tokens'.size + 1) t = true)
    (q : Timer → Bool) {woken : List Timer} (hwoken : woken.Perm (p.timers.filter q))
    (full : Bool) (hcut : full = false → ∀ tm ∈ woken, ∀ t, tm.token = some t →
      tokenCancelled tokens' (tokens'.size + 1) t = true) :
    Sound ⟨p.ctx, p.jobs, tokens', p.timers.filter (fun tm => !q tm),
      p.ready ++ World.loopWakes woken full⟩ := by
  set p' : LoopPart := ⟨p.ctx, p.jobs, tokens', p.timers.filter (fun tm => !q tm),
    p.ready ++ World.loopWakes woken full⟩
  -- the same loops wait: the timers' loops are split between the kept timers and the queue
  have hperm : p'.pending.Perm p.pending := by
    simp only [p', pending, List.map_append, map_fst_loopWakes]
    calc List.Perm ((p.timers.filter (fun tm => !q tm)).filterMap Timer.loop? ++
          (p.ready.map (·.1) ++ woken.filterMap Timer.loop?))
          ((p.timers.filter (fun tm => !q tm)).filterMap Timer.loop? ++
            (woken.filterMap Timer.loop? ++ p.ready.map (·.1))) :=
          List.Perm.append_left _ List.perm_append_comm
      List.Perm _ (((p.timers.filter q).filterMap Timer.loop? ++
          (p.timers.filter (fun tm => !q tm)).filterMap Timer.loop?) ++ p.ready.map (·.1)) := by
          rw [← List.append_assoc]
          exact List.Perm.append_right _
            (List.perm_append_comm.trans (List.Perm.append_right _ (hwoken.filterMap _)))
      List.Perm _ (p.timers.filterMap Timer.loop? ++ p.ready.map (·.1)) := by
          rw [← List.filterMap_append]
          exact List.Perm.append_right _ ((List.filter_append_perm q p.timers).filterMap _)
  have hmem : ∀ n ∈ p'.pending, n ∈ p.pending := fun n hn => hperm.subset hn
  refine ⟨hperm.nodup_iff.mpr h.nodup, fun n hn => h.lt_size n (hmem n hn), h.runLoop,
    fun n hn => h.quiet n (hmem n hn), fun n hn => h.sleeping n (hmem n hn),
    fun n hn c a b st s hs hst => ?_, fun tm htm => h.timer tm (List.mem_of_mem_filter htm),
    fun n c a b st hn => hmono _ (h.endedOk n c a b st hn), h.endedError⟩
  rcases List.mem_append.mp hn with hn | hn
  · exact hmono _ (h.cut n hn c a b st s hs hst)
  · -- a loop woken with a cut-short sleep: its timer was on its token, now cancelled
    obtain ⟨hfull, tm, htm, hloop⟩ := mem_loopWakes hn
    have htm' : tm ∈ p.timers := List.mem_of_mem_filter (hwoken.subset htm)
    exact hcut hfull.symm tm htm c.token (h.timer tm htm' n hloop c a b st s hs hst)

end Sound

/-- With no loops, no timers and no queue, the loops are sound. -/
theorem sound_of_idle {p : LoopPart} (hjobs : p.jobs = #[]) (htimers : p.timers = [])
    (hready : p.ready = []) : p.Sound := by
  have hpending : ∀ i, i ∉ p.pending := fun i => by simp [pending, htimers, hready]
  have hjob : ∀ (i : Nat) (j : Job), p.jobs[i]? ≠ some j := fun i j => by simp [hjobs]
  refine ⟨by simp [pending, htimers, hready], fun i hi => absurd hi (hpending i),
    fun i j hj => absurd hj (hjob i j), fun i hi => absurd hi (hpending i),
    fun i hi => absurd hi (hpending i), fun i hi => ?_, fun tm htm => ?_,
    fun i c a b st hi => absurd hi (hjob i _), fun i l e hi => absurd hi (hjob i _)⟩
  · simp [hready] at hi
  · simp [htimers] at htm

end LoopPart

namespace World

def loopPart (w : World) : LoopPart := ⟨w.ctx, w.jobs, w.tokens, w.timers, w.ready⟩

/-- The calls of a loop that do not reconcile leave the loops' part of the world, the
reconciler, the registrations and what is known of each controller as they are. -/
structure Calm (w w' : World) : Prop where
  loopPart : w'.loopPart = w.loopPart
  autoscaler : w'.autoscaler = w.autoscaler
  configs : w'.governor.configs = w.governor.configs
  controllers : ∀ i : Nat, (w'.controllers[i]?).map Controller.key = (w.controllers[i]?).map Controller.key

theorem Calm.refl (w : World) : Calm w w := ⟨rfl, rfl, rfl, fun _ => rfl⟩

theorem Calm.trans {w₁ w₂ w₃ : World} (h₁ : Calm w₁ w₂) (h₂ : Calm w₂ w₃) : Calm w₁ w₃ :=
  ⟨h₂.loopPart.trans h₁.loopPart, h₂.autoscaler.trans h₁.autoscaler, h₂.configs.trans h₁.configs,
    fun i => (h₂.controllers i).trans (h₁.controllers i)⟩

/-- Changing a controller's analyser or backoff keeps what is known of it. -/
theorem key_modify (cs : Array Controller) (i : Nat) {f : Controller → Controller}
    (hf : ∀ c, (f c).key = c.key) (j : Nat) :
    ((cs.modify i f)[j]?).map Controller.key = (cs[j]?).map Controller.key := by
  rw [Array.getElem?_modify]
  split
  · cases cs[j]? <;> simp [hf]
  · rfl

theorem calm_perform (w : World) {c : Call} (hc : c ≠ .refresh) : Calm w (w.perform c).1 := by
  cases c with
  | skipTick i =>
    simp only [perform, skipTick]
    split
    · exact Calm.refl w
    · split
      · exact ⟨rfl, rfl, rfl, key_modify _ i fun _ => rfl⟩
      · exact Calm.refl w
  | reading => exact ⟨rfl, rfl, rfl, fun _ => rfl⟩
  | instances service => exact ⟨rfl, rfl, rfl, fun _ => rfl⟩
  | warning i category figure => exact Calm.refl w
  | alert category message => exact ⟨rfl, rfl, rfl, fun _ => rfl⟩
  | record service s => exact ⟨rfl, rfl, Governor.configs_record _ _ _, fun _ => rfl⟩
  | analyse i s =>
    simp only [perform, analyse]
    split
    · exact Calm.refl w
    · exact ⟨rfl, rfl, rfl, key_modify _ i fun _ => rfl⟩
  | govern service a stages => exact ⟨rfl, rfl, Governor.configs_govern _ _ _ _, fun _ => rfl⟩
  | scaleUp service n =>
    simp only [perform, scaleUp]
    split
    · exact Calm.refl w
    · exact ⟨rfl, rfl, rfl, fun _ => rfl⟩
  | scaleDown service n =>
    simp only [perform, scaleDown]
    split
    · exact Calm.refl w
    · exact ⟨rfl, rfl, rfl, fun _ => rfl⟩
  | enterBackoff i op => exact ⟨rfl, rfl, rfl, key_modify _ i fun _ => rfl⟩
  | donor service => exact Calm.refl w
  | refresh => exact absurd rfl hc

/-- A run of a loop's program that never refreshes keeps the world calm up to where it waits:
then the loop is suspended, in a sleep or a pause, with a timer. -/
theorem runJob_calm (i : Nat) {p : Prog (Outcome Unit)} (hp : p.Always Exchange.NoRefresh)
    (w : World) :
    ∃ w₁, Calm w w₁ ∧
      ((∃ k ms tok, w.runJob i p = ((w₁.suspend i k).setTimer (.loop i) ms tok, .waiting) ∧
          ∀ x, (k x).Always Exchange.NoRefresh) ∨
        (∃ r, w.runJob i p = (w₁, .finished r)) ∨ ∃ m, w.runJob i p = (w₁, .crashed m)) := by
  induction p generalizing w with
  | done r => exact ⟨w, Calm.refl w, .inr (.inl ⟨r, rfl⟩)⟩
  | ask r k ih =>
    cases r with
    | call c =>
      have hc : c ≠ .refresh := fun h => (hp (w.perform c).2).1 (congrArg Request.call h)
      obtain ⟨w₁, hcalm, hrest⟩ := ih _ (hp _).2 (w.perform c).1
      exact ⟨w₁, (calm_perform w hc).trans hcalm, hrest⟩
    | sleep token ms =>
      simp only [runJob]
      split
      · exact ih false (hp false).2 w
      · split
        · exact ih true (hp true).2 w
        · exact ⟨w, Calm.refl w, .inl ⟨k, ms, some token, rfl, fun x => (hp x).2⟩⟩
    | pause ms =>
      simp only [runJob]
      split
      · exact ih () (hp ()).2 w
      · exact ⟨w, Calm.refl w, .inl ⟨fun _ => k (), ms, none, rfl, fun _ => (hp ()).2⟩⟩
    | join j =>
      simp only [runJob]
      split
      · exact ih _ (hp _).2 w
      · exact ⟨w, Calm.refl w, .inr (.inr ⟨_, rfl⟩)⟩
    | crash m => exact ⟨w, Calm.refl w, .inr (.inr ⟨m, rfl⟩)⟩

/-- A loop at a sleep stage running the stage's program ends the stage at once, interrupted if
its token is cancelled or done if the sleep is empty, or else waits in the sleep, on its
controller's token. -/
theorem runJob_sleep (w : World) (i : Nat) (c : ControllerRef) (ms : Nat) :
    w.runJob i (.ask (.sleep c.token ms) (sleepReply c)) =
      if w.cancelled c.token then (w, .finished (.error (.interrupted c.service)))
      else if ms = 0 then (w, .finished (.ok ()))
      else ((w.suspend i (sleepReply c)).setTimer (.loop i) ms (some c.token), .waiting) := by
  simp only [runJob]
  split
  · rfl
  · split <;> rfl

/-- Loop `i` is about to run `prog` at its stage: it waits for nothing, `prog` never refreshes,
and at a sleep stage `prog` is the stage's own program or the answer to its sleep, the
interrupted one only once its token is cancelled. -/
structure Runnable (w : World) (i : Nat) (prog : Prog (Outcome Unit)) : Prop where
  idle : i ∉ w.loopPart.pending
  quiet : prog.Always Exchange.NoRefresh
  sleeping : ∀ (c : ControllerRef) (a b : Nat) (st : RunStage) (s : JobState),
    w.jobs[i]? = some ⟨.run c a b st, s⟩ → st ≠ .ticking →
    prog = (Loop.run c a b st).program w.ctx ∨ prog = sleepReply c true ∨
      (prog = sleepReply c false ∧ w.cancelled c.token = true)

/-- A runnable loop's run keeps the world calm up to where it waits; at a sleep stage it waits
in the stage's sleep on its token, and it ends the stage done, or interrupted once the token is
cancelled. -/
theorem runJob_stage {w : World} {i : Nat} {prog : Prog (Outcome Unit)} {c : ControllerRef}
    {a b : Nat} {st : RunStage} {s : JobState} (hjob : w.jobs[i]? = some ⟨.run c a b st, s⟩)
    (hrun : Runnable w i prog) :
    ∃ w₁, Calm w w₁ ∧
      ((∃ k ms tok, w.runJob i prog = ((w₁.suspend i k).setTimer (.loop i) ms tok, .waiting) ∧
          (∀ x, (k x).Always Exchange.NoRefresh) ∧
          (st ≠ .ticking → k = sleepReply c ∧ tok = some c.token)) ∨
        (∃ r, w.runJob i prog = (w₁, .finished r) ∧
          (st ≠ .ticking → r = .ok () ∨
            (r = .error (.interrupted c.service) ∧ w.cancelled c.token = true))) ∨
        ∃ m, w.runJob i prog = (w₁, .crashed m)) := by
  by_cases hst : st = .ticking
  · -- a tick may do anything that does not reconcile
    obtain ⟨w₁, hcalm, hk | ⟨r, hr⟩ | hm⟩ := runJob_calm i hrun.quiet w
    · obtain ⟨k, ms, tok, hw, hk⟩ := hk
      exact ⟨w₁, hcalm, .inl ⟨k, ms, tok, hw, hk, fun h => absurd hst h⟩⟩
    · exact ⟨w₁, hcalm, .inr (.inl ⟨r, hr, fun h => absurd hst h⟩)⟩
    · exact ⟨w₁, hcalm, .inr (.inr hm)⟩
  · refine ⟨w, Calm.refl w, ?_⟩
    rcases hrun.sleeping c a b st s hjob hst with rfl | rfl | ⟨rfl, hcancel⟩
    · obtain ⟨ms, hms⟩ := program_of_sleeping w.ctx c a b hst
      rw [hms, runJob_sleep]
      split
      · exact .inr (.inl ⟨_, rfl, fun _ => .inr ⟨rfl, by assumption⟩⟩)
      · split
        · exact .inr (.inl ⟨_, rfl, fun _ => .inl rfl⟩)
        · exact .inl ⟨sleepReply c, ms, some c.token, rfl, fun x => by cases x <;> trivial,
            fun _ => ⟨rfl, rfl⟩⟩
    · exact .inr (.inl ⟨_, rfl, fun _ => .inl rfl⟩)
    · exact .inr (.inl ⟨_, rfl, fun _ => .inr ⟨rfl, hcancel⟩⟩)

/-- What running the loops keeps: the reconciler, the registrations, the tokens, what is known
of each controller, and the controller of each loop. -/
structure Steady (w w' : World) : Prop where
  autoscaler : w'.autoscaler = w.autoscaler
  configs : w'.governor.configs = w.governor.configs
  tokens : w'.tokens = w.tokens
  controllers : ∀ i : Nat,
    (w'.controllers[i]?).map Controller.key = (w.controllers[i]?).map Controller.key
  loops : ∀ i : Nat,
    (w'.jobs[i]?).map (·.loop.controller?) = (w.jobs[i]?).map (·.loop.controller?)

theorem Steady.refl (w : World) : Steady w w := ⟨rfl, rfl, rfl, fun _ => rfl, fun _ => rfl⟩

theorem Steady.trans {w₁ w₂ w₃ : World} (h₁ : Steady w₁ w₂) (h₂ : Steady w₂ w₃) : Steady w₁ w₃ :=
  ⟨h₂.autoscaler.trans h₁.autoscaler, h₂.configs.trans h₁.configs, h₂.tokens.trans h₁.tokens,
    fun i => (h₂.controllers i).trans (h₁.controllers i), fun i => (h₂.loops i).trans (h₁.loops i)⟩

theorem Calm.steady {w w' : World} (h : Calm w w') : Steady w w' := by
  have hjobs : w'.jobs = w.jobs := congrArg LoopPart.jobs h.loopPart
  have htokens : w'.tokens = w.tokens := congrArg LoopPart.tokens h.loopPart
  exact ⟨h.autoscaler, h.configs, htokens, h.controllers, fun i => by rw [hjobs]⟩

/-- Changing a loop's state, or its stage, keeps its controller. -/
theorem Steady.modify {w w' : World} {i : Nat} (f : Job → Job)
    (hf : ∀ j, w.jobs[i]? = some j → (f j).loop.controller? = j.loop.controller?)
    (hjobs : w'.jobs = w.jobs.modify i f) (hauto : w'.autoscaler = w.autoscaler)
    (hgov : w'.governor = w.governor) (hctl : w'.controllers = w.controllers)
    (htokens : w'.tokens = w.tokens) : Steady w w' := by
  refine ⟨hauto, by rw [hgov], htokens, fun _ => by rw [hctl], fun n => ?_⟩
  rw [hjobs, Array.getElem?_modify]
  split
  · rename_i hn
    subst hn
    cases hj : w.jobs[i]? with
    | none => rfl
    | some j => simp [hf j hj]
  · rfl

theorem loopPart_suspend_setTimer (w : World) (i : Nat) (k : Bool → Prog (Outcome Unit))
    (ms : Nat) (tok : Option Nat) :
    ((w.suspend i k).setTimer (.loop i) ms tok).loopPart =
      { w.loopPart with jobs := w.jobs.modify i fun j => { j with state := .waiting k },
                        timers := w.timers ++ [⟨w.clock + ms, w.seq, .loop i, tok⟩] } := rfl

theorem loopPart_endJob (w : World) (i : Nat) (e : LoopEnd) :
    (w.endJob i e).loopPart =
      { w.loopPart with jobs := w.jobs.modify i fun j => { j with state := .ended e } } := by
  unfold endJob
  dsimp only
  split <;> rfl

theorem steady_endJob (w : World) (i : Nat) (e : LoopEnd) : Steady w (w.endJob i e) := by
  have hpart := loopPart_endJob w i e
  refine Steady.modify (fun j => { j with state := .ended e }) (fun _ _ => rfl)
    (congrArg LoopPart.jobs hpart) ?_ ?_ ?_ (congrArg LoopPart.tokens hpart) <;>
    (unfold endJob; dsimp only; split <;> rfl)

theorem Loop.next_run (c : ControllerRef) (a b : Nat) (st : RunStage) (r : Outcome Unit) :
    (Loop.run c a b st).next r =
      if st.ends r then .inr (st.result r) else .inl (.run c a b st.following) := by
  by_cases h : st.ends r = true <;> simp [Loop.next, RunStage.next_eq, h]

/-- A loop that waits for nothing keeps the loops sound when it ends, except by finishing: that
is for the stage machine to allow. -/
theorem sound_endJob_crashed {w : World} (h : w.loopPart.Sound) {i : Nat}
    (hi : i ∉ w.loopPart.pending) {j : Job} (hj : w.jobs[i]? = some j) (m : String) :
    (w.endJob i (.crashed m)).loopPart.Sound := by
  rw [loopPart_endJob]
  obtain ⟨c, a, b, st, hloop⟩ := h.runLoop i j hj
  exact h.modifyJob hi hj _ ⟨c, a, b, st, hloop⟩ (fun _ _ _ _ he => by simp at he)
    (fun _ _ he => by simp at he)

/-- Loop `i`, runnable with `prog`, runs on through its stages: the loops stay sound, and what
running them keeps is kept. -/
theorem stepJob_sound (fuel : Nat) : ∀ (w : World) (i : Nat) (prog : Prog (Outcome Unit)),
    w.loopPart.Sound → Runnable w i prog →
      (stepJob fuel w i prog).loopPart.Sound ∧ Steady w (stepJob fuel w i prog) := by
  induction fuel with
  | zero => exact fun w _ _ h _ => ⟨h, Steady.refl w⟩
  | succ fuel ih =>
    intro w i prog h hrun
    cases hj : w.jobs[i]? with
    | none =>
      simp only [stepJob, hj]
      exact ⟨h, Steady.refl w⟩
    | some job =>
      obtain ⟨c, a, b, st, hloop⟩ := h.runLoop i job hj
      obtain ⟨l, s⟩ := job
      obtain rfl : l = .run c a b st := hloop
      obtain ⟨w₁, hcalm, hstage⟩ := runJob_stage hj hrun
      -- running the stage's program leaves the loops' part as it was
      have h₁ : w₁.loopPart.Sound := hcalm.loopPart ▸ h
      have hidle : i ∉ w₁.loopPart.pending := hcalm.loopPart ▸ hrun.idle
      have hj₁ : w₁.jobs[i]? = some ⟨.run c a b st, s⟩ := by
        rw [← hj]
        exact congrArg (fun p : LoopPart => p.jobs[i]?) hcalm.loopPart
      rcases hstage with hwait | ⟨r, hr, hsleep⟩ | ⟨m, hm⟩
      · -- the loop waits in a timer
        obtain ⟨k, ms, tok, hw, hk, hsleep⟩ := hwait
        simp only [stepJob, hj, hw]
        have h₂ := h₁.modifyJob hidle hj₁ (fun j => { j with state := .waiting k }) ⟨c, a, b, st, rfl⟩
          (fun _ _ _ _ he => by cases he) (fun _ _ he => by cases he)
        have hj₂ : (w₁.jobs.modify i fun j => { j with state := .waiting k })[i]? =
            some ⟨.run c a b st, .waiting k⟩ := by
          rw [Array.getElem?_modify, if_pos rfl, hj₁]
          rfl
        refine ⟨?_, hcalm.steady.trans (Steady.modify (fun j => { j with state := .waiting k })
          (fun _ _ => rfl) rfl rfl rfl rfl rfl)⟩
        rw [loopPart_suspend_setTimer]
        exact h₂.addTimer hidle hj₂ hk rfl fun c' a' b' st' he hst => by
          cases he
          exact hsleep hst
      · -- the stage ended with `r`: the loop goes on to its next stage, or ends
        simp only [stepJob, hj, hr]
        have htokens : w₁.cancelled = w.cancelled := by
          funext t
          exact congrArg (fun p : LoopPart => p.cancelled t) hcalm.loopPart
        rw [Loop.next_run]
        by_cases hends : st.ends r = true
        · -- the stage ends the loop: well only after a cut-short sleep, badly only on an error
          -- that is not recoverable
          simp only [if_pos hends]
          refine ⟨?_, hcalm.steady.trans (steady_endJob _ _ _)⟩
          rw [loopPart_endJob]
          refine h₁.modifyJob hidle hj₁ _ ⟨c, a, b, st, rfl⟩ (fun c' a' b' st' he => ?_)
            (fun l' e he => ?_)
          · simp only [Job.mk.injEq, Loop.run.injEq, JobState.ended.injEq,
              LoopEnd.finished.injEq] at he
            obtain ⟨⟨rfl, -, -, -⟩, hres⟩ := he
            cases st with
            | ticking =>
              simp only [RunStage.result] at hres
              subst hres
              simp [RunStage.ends] at hends
            | starting | waiting =>
              rcases hsleep (by decide) with rfl | ⟨rfl, hcancel⟩
              · simp [RunStage.ends] at hends
              · show w₁.cancelled c.token = true
                rw [htokens]
                exact hcancel
          · simp only [Job.mk.injEq, JobState.ended.injEq, LoopEnd.finished.injEq] at he
            obtain ⟨-, hres⟩ := he
            cases st with
            | ticking =>
              simp only [RunStage.result] at hres
              subst hres
              simpa [RunStage.ends] using hends
            | starting | waiting => simp [RunStage.result] at hres
        · -- the loop goes on to the following stage, with its program
          simp only [if_neg hends]
          have h₂ := h₁.modifyJob hidle hj₁ (fun j => { j with loop := .run c a b st.following })
            ⟨c, a, b, _, rfl⟩ (fun c' a' b' st' he => ?_) (fun l' e he => ?_)
          · have hj₂ : (w₁.jobs.modify i fun j => { j with loop := .run c a b st.following })[i]? =
                some ⟨.run c a b st.following, s⟩ := by
              rw [Array.getElem?_modify, if_pos rfl, hj₁]
              rfl
            have hrun₂ : Runnable { w₁ with jobs := w₁.jobs.modify i fun j =>
                { j with loop := .run c a b st.following } } i
                ((Loop.run c a b st.following).program w₁.ctx) :=
              ⟨hidle, program_noRefresh w₁.ctx c a b _, fun c' a' b' st' s' he _ => by
                rw [hj₂] at he
                cases he
                exact .inl rfl⟩
            obtain ⟨hsound, hsteady⟩ := ih _ i _ h₂ hrun₂
            have hstage : Steady w₁ { w₁ with jobs := w₁.jobs.modify i fun j =>
                { j with loop := .run c a b st.following } } :=
              Steady.modify (fun j => { j with loop := .run c a b st.following })
                (fun j hj' => by rw [hj₁, Option.some.injEq] at hj'; subst hj'; rfl) rfl rfl rfl rfl rfl
            exact ⟨hsound, hcalm.steady.trans (hstage.trans hsteady)⟩
          · simp only [Job.mk.injEq] at he
            obtain ⟨he₁, rfl⟩ := he
            cases he₁
            exact h₁.endedOk i c a b st hj₁
          · simp only [Job.mk.injEq] at he
            obtain ⟨-, rfl⟩ := he
            exact h₁.endedError i _ e hj₁
      · -- the loop crashed
        simp only [stepJob, hj, hm]
        exact ⟨sound_endJob_crashed h₁ hidle hj₁ m, hcalm.steady.trans (steady_endJob _ _ _)⟩

theorem steady_ready (w : World) (ready : List (Nat × Bool)) :
    Steady w { w with ready } := ⟨rfl, rfl, rfl, fun _ => rfl, fun _ => rfl⟩

/-- Loop `i`, first in the queue, goes on with the answer to its sleep. -/
theorem resume_sound (fuel : Nat) {w : World} (h : w.loopPart.Sound) {i : Nat} {full : Bool}
    {rest : List (Nat × Bool)} (hready : w.ready = (i, full) :: rest) :
    (resume fuel { w with ready := rest } i full).loopPart.Sound ∧
      Steady w (resume fuel { w with ready := rest } i full) := by
  have h₀ : ({ w with ready := rest } : World).loopPart.Sound := h.pop hready
  have hmem : (i, full) ∈ w.loopPart.ready := by
    show (i, full) ∈ w.ready
    rw [hready]
    exact List.mem_cons_self
  have hpending : i ∈ w.loopPart.pending := LoopPart.Sound.mem_pending_of_ready hmem
  unfold resume
  split
  · rename_i l k hj
    have hrun : Runnable { w with ready := rest } i (k full) := by
      refine ⟨h.not_mem_pending_pop hready, (h.quiet i hpending l k hj) full,
        fun c a b st s hs hst => ?_⟩
      rw [hj] at hs
      cases hs
      rcases h.sleeping i hpending c a b st k hj hst with rfl | hk
      · -- the answer to the stage's sleep: cut short only once the token is cancelled
        cases full with
        | true => exact .inr (.inl rfl)
        | false =>
          refine .inr (.inr ⟨rfl, h.cut i ?_ c a b st _ hj hst⟩)
          show (i, false) ∈ w.ready
          rw [hready]
          exact List.mem_cons_self
      · exact .inl (hk full)
    obtain ⟨hsound, hsteady⟩ := stepJob_sound fuel _ i _ h₀ hrun
    exact ⟨hsound, (steady_ready w rest).trans hsteady⟩
  · exact ⟨h₀, steady_ready w rest⟩

theorem fireDue_sound {w : World} (h : w.loopPart.Sound) :
    w.fireDue.loopPart.Sound ∧ Steady w w.fireDue := by
  set due := (w.timers.filter fun tm => tm.deadline ≤ w.clock).mergeSort
    fun a b => a.deadline ≤ b.deadline
  obtain ⟨wake, hfire⟩ := foldl_wakeWaiter due true
    { w with timers := w.timers.filter fun tm => w.clock < tm.deadline }
  have hw : w.fireDue =
      { w with timers := w.timers.filter (fun tm => w.clock < tm.deadline)
               ready := w.ready ++ loopWakes due true
               wake := wake } := hfire
  rw [hw]
  refine ⟨?_, ⟨rfl, rfl, rfl, fun _ => rfl, fun _ => rfl⟩⟩
  -- the kept timers are those not due
  have hkept : (w.timers.filter fun tm => w.clock < tm.deadline) =
      w.timers.filter fun tm => !decide (tm.deadline ≤ w.clock) := by
    apply List.filter_congr
    intro tm _
    by_cases hdue : tm.deadline ≤ w.clock
    · simp [hdue, Nat.not_lt.mpr hdue]
    · simp [hdue, Nat.lt_of_not_le hdue]
  have hdue : due.Perm (w.timers.filter fun tm => decide (tm.deadline ≤ w.clock)) :=
    List.mergeSort_perm _ _
  have hsound := h.wake (fun t ht => ht) (fun tm => decide (tm.deadline ≤ w.clock)) hdue true nofun
  show LoopPart.Sound ⟨w.ctx, w.jobs, w.tokens, w.timers.filter (fun tm => w.clock < tm.deadline),
    w.ready ++ loopWakes due true⟩
  rw [hkept]
  exact hsound

theorem park_sound {w w' : World} (h : w.loopPart.Sound) (hpark : w.park = some w') :
    w'.loopPart.Sound ∧ Steady w w' := by
  unfold park at hpark
  obtain ⟨d, -, rfl⟩ := Option.map_eq_some_iff.mp hpark
  obtain ⟨hsound, hsteady⟩ := fireDue_sound (w := { w with clock := max w.clock d }) h
  exact ⟨hsound, hsteady.autoscaler, hsteady.configs, hsteady.tokens, hsteady.controllers,
    hsteady.loops⟩

/-- While the driver waits, the loops run in turn and time moves on: they stay sound, and
what running them keeps is kept. -/
theorem settle_sound (fuel : Nat) : ∀ w : World, w.loopPart.Sound →
    (settle fuel w).loopPart.Sound ∧ Steady w (settle fuel w) := by
  induction fuel with
  | zero => exact fun w h => ⟨h, Steady.refl w⟩
  | succ fuel ih =>
    intro w h
    unfold settle
    split
    · rename_i i full rest hready
      obtain ⟨h₁, hs₁⟩ := resume_sound fuel h hready
      obtain ⟨h₂, hs₂⟩ := ih _ h₁
      exact ⟨h₂, hs₁.trans hs₂⟩
    · split
      · exact ⟨h, Steady.refl w⟩
      · split
        · exact ⟨h, Steady.refl w⟩
        · rename_i w' hpark
          obtain ⟨h₁, hs₁⟩ := park_sound h hpark
          split
          · exact ⟨h₁, hs₁⟩
          · obtain ⟨h₂, hs₂⟩ := ih _ h₁
            exact ⟨h₂, hs₁.trans hs₂⟩

/-- The driver waiting in a timer changes nothing of the loops. -/
theorem setTimer_driver_sound {w : World} (h : w.loopPart.Sound) (ms : Nat) (tok : Option Nat) :
    (w.setTimer .driver ms tok).loopPart.Sound ∧ Steady w (w.setTimer .driver ms tok) :=
  ⟨h.addDriverTimer rfl, ⟨rfl, rfl, rfl, fun _ => rfl, fun _ => rfl⟩⟩

/-- The driver runs a program that never refreshes: the loops it waits for stay sound, and
what running them keeps is kept. -/
theorem drive_sound {α : Type} (fuel : Nat) : ∀ (w : World) (p : Prog α),
    p.Always Exchange.NoRefresh → w.loopPart.Sound →
      (w.drive fuel p).1.loopPart.Sound ∧ Steady w (w.drive fuel p).1 := by
  induction fuel with
  | zero => exact fun w _ _ h => ⟨h, Steady.refl w⟩
  | succ fuel ih =>
    intro w p hp h
    -- what is left after a wait: the world the loops left, the driver's wake taken
    have hwait : ∀ (w₁ w' : World) (x : Option Wake), Steady w w₁ → w₁.loopPart.Sound →
        (w₁.settle fuel).takeWake = (w', x) → w'.loopPart.Sound ∧ Steady w w' :=
      fun w₁ w' x hs₁ h₁ heq => by
        obtain rfl := congrArg Prod.fst heq
        obtain ⟨h₂, hs₂⟩ := settle_sound fuel w₁ h₁
        exact ⟨h₂, hs₁.trans (hs₂.trans ⟨rfl, rfl, rfl, fun _ => rfl, fun _ => rfl⟩)⟩
    cases p with
    | done a => exact ⟨h, Steady.refl w⟩
    | ask r k =>
      cases r with
      | call c =>
        have hc : c ≠ .refresh := fun e => (hp (w.perform c).2).1 (congrArg Request.call e)
        have hcalm := calm_perform w hc
        obtain ⟨h₁, hs₁⟩ := ih _ _ (hp _).2 (hcalm.loopPart ▸ h)
        exact ⟨h₁, hcalm.steady.trans hs₁⟩
      | sleep token ms =>
        simp only [drive]
        split
        · exact ih _ _ (hp false).2 h
        · split
          · exact ih _ _ (hp true).2 h
          · obtain ⟨h₁, hs₁⟩ := setTimer_driver_sound h ms (some token)
            split
            · rename_i w' full heq
              obtain ⟨h₂, hs₂⟩ := hwait _ _ _ hs₁ h₁ heq
              obtain ⟨h₃, hs₃⟩ := ih _ _ (hp full).2 h₂
              exact ⟨h₃, hs₂.trans hs₃⟩
            · rename_i w' _ _ heq
              exact hwait _ _ _ hs₁ h₁ heq
      | pause ms =>
        simp only [drive]
        split
        · exact ih _ _ (hp ()).2 h
        · obtain ⟨h₁, hs₁⟩ := setTimer_driver_sound h ms none
          split
          · rename_i w' full heq
            obtain ⟨h₂, hs₂⟩ := hwait _ _ _ hs₁ h₁ heq
            obtain ⟨h₃, hs₃⟩ := ih _ _ (hp ()).2 h₂
            exact ⟨h₃, hs₂.trans hs₃⟩
          · rename_i w' _ _ heq
            exact hwait _ _ _ hs₁ h₁ heq
      | join j =>
        simp only [drive]
        split
        · exact ih _ _ (hp _).2 h
        · -- waiting for a loop changes only who the driver waits for
          have hs₁ : Steady w { w with joining := some j } := ⟨rfl, rfl, rfl, fun _ => rfl, fun _ => rfl⟩
          split
          · rename_i w' e heq
            obtain ⟨h₂, hs₂⟩ := hwait _ _ _ hs₁ h heq
            obtain ⟨h₃, hs₃⟩ := ih _ _ (hp _).2 h₂
            exact ⟨h₃, hs₂.trans hs₃⟩
          · rename_i w' _ _ heq
            exact hwait _ _ _ hs₁ h heq
      | crash m => exact ⟨h, Steady.refl w⟩

/-- Cancelling a token wakes, told their sleep was cut short, exactly the loops whose timer is on
a token now cancelled. -/
theorem cancel_sound {w : World} (h : w.loopPart.Sound) (t : Nat) : (w.cancel t).loopPart.Sound := by
  obtain ⟨wake, hcancel⟩ := cancel_eq w t
  rw [hcancel]
  refine h.wake (fun k hk => ?_) (w.cuts t) (List.Perm.refl _) false fun _ tm htm k hk => ?_
  · exact tokenCancelled_mono (tokens_modify_mark w.tokens t) (w.tokens.size + 1)
      ((w.tokens.modify t fun tok => { tok with cancelled := true }).size + 1) k
      (by rw [Array.size_modify]) hk
  · -- a cut timer's token is cancelled once `t` is
    have hcut := (List.mem_filter.mp htm).2
    unfold cuts at hcut
    rw [hk] at hcut
    exact hcut

theorem newToken_sound {w : World} (h : w.loopPart.Sound) (parent : Option Nat) :
    (w.newToken parent).1.loopPart.Sound :=
  h.markTokens fun k hk => tokenCancelled_mono (tokens_push_keep w.tokens { parent }) _ _ k
    (by simp [newToken, loopPart]) hk

end World

end ScaleControl
