import Mathlib
import ScaleControl.Proofs.CapacityRequests
/-!
# Waiting for a scale-up to converge

After asking the platform for more instances, a controller waits for them to start. A round
sleeps each of the round's delays in turn (`Convergence.roundDelays`), reads the instances
after each and records what it read, and ends at the first converged snapshot. After a round
that did not converge the controller asks for room, while it may, and polls another round.
A round has one delay per attempt, the `k`-th the initial delay times `2^k` capped at the
largest delay; the doubling saturates only beyond the longest duration, so it is exact below
any cap a duration can be (`round_delays_double_to_cap`).

Every run of a round is a list of polls that found the instances unconverged, then one
`RoundEnd` (`pollRound_runs`). Every run of the whole wait is a `Course`: the rounds after
which room was asked for and granted, then a last round and the request for room after it,
if one was made (`awaitConvergence_course`). A course reads the instances at most
`(left + 1) * attempts` times and asks for room at most `left` times, and it ends well exactly
when one of its polls read a converged snapshot (`Course.reads_le`, `Course.result_eq_ok_iff`).
-/
namespace ScaleControl

open Attempt

namespace Convergence

/-- The delays of a round: the first delay, then each one doubled up to the largest, as many
as the attempts. -/
def roundDelays (cv : Convergence) : List Nat := cv.delaysFrom cv.firstDelay cv.attempts

/-! ### The delays of a round in closed form -/

section Delays

variable {cv : Convergence} (hmax : cv.maxMs ≤ maxDurationMs)
include hmax

/-- Doubling saturates only beyond the longest duration, so below a largest delay that a
duration can be, doubling and capping is exact. -/
theorem nextDelay_eq (d : Nat) : cv.nextDelay d = min (2 * d) cv.maxMs := by
  unfold nextDelay doubled
  omega

/-- The delay after the capped `initialMs * 2^k` is the capped `initialMs * 2^(k+1)`: once the
cap is reached, doubling stays at it. -/
theorem nextDelay_capped (k : Nat) :
    cv.nextDelay (min (cv.initialMs * 2 ^ k) cv.maxMs) =
      min (cv.initialMs * 2 ^ (k + 1)) cv.maxMs := by
  have hdouble : cv.initialMs * 2 ^ (k + 1) = 2 * (cv.initialMs * 2 ^ k) := by ring
  rw [nextDelay_eq hmax, hdouble]
  omega

/-- From the capped `initialMs * 2^k`, the next `n` delays are the capped
`initialMs * 2^(k+j)` for `j < n`. -/
theorem delaysFrom_capped (k n : Nat) :
    cv.delaysFrom (min (cv.initialMs * 2 ^ k) cv.maxMs) n =
      (List.range n).map fun j => min (cv.initialMs * 2 ^ (k + j)) cv.maxMs := by
  -- induction on the delays left, from any number of doublings before them
  induction n generalizing k with
  | zero => rfl
  | succ n ih =>
    rw [delaysFrom, nextDelay_capped hmax, ih, List.range_succ_eq_map, List.map_cons,
      List.map_map]
    simp [Function.comp_def, Nat.add_assoc, Nat.add_comm 1]

/-- The delays of a round, one per attempt: the initial delay doubled once per earlier poll,
capped at the largest delay. -/
theorem roundDelays_eq :
    cv.roundDelays =
      (List.range cv.attempts).map fun k => min (cv.initialMs * 2 ^ k) cv.maxMs := by
  have hfirst : cv.firstDelay = min (cv.initialMs * 2 ^ 0) cv.maxMs := by
    rw [pow_zero, Nat.mul_one]
    rfl
  rw [roundDelays, hfirst, delaysFrom_capped hmax]
  simp

end Delays

/-- A round sleeps once per attempt, the `k`-th time for the initial delay times `2^k`, capped
at the largest delay; the delays never fall and never pass the cap. Every largest delay a
duration can hold is below the longest duration, and there doubling then capping is exact:
the saturation never bites below the cap. -/
theorem round_delays_double_to_cap (cv : Convergence) (hmax : cv.maxMs ≤ maxDurationMs) :
    (∀ d, cv.nextDelay d = min (2 * d) cv.maxMs) ∧
      cv.roundDelays.length = cv.attempts ∧
      cv.roundDelays =
        (List.range cv.attempts).map (fun k => min (cv.initialMs * 2 ^ k) cv.maxMs) ∧
      cv.roundDelays.Pairwise (· ≤ ·) ∧ ∀ d ∈ cv.roundDelays, d ≤ cv.maxMs := by
  have hclosed := roundDelays_eq hmax
  refine ⟨nextDelay_eq hmax, by rw [hclosed]; simp, hclosed, ?_, ?_⟩
  · -- the capped powers grow with the number of doublings
    rw [hclosed, List.pairwise_map]
    refine (List.pairwise_lt_range (n := cv.attempts)).imp fun {j k} hjk => ?_
    exact min_le_min_right _ (Nat.mul_le_mul_left _ (Nat.pow_le_pow_right (by decide) hjk.le))
  · intro d hd
    rw [hclosed] at hd
    obtain ⟨k, -, rfl⟩ := List.mem_map.mp hd
    exact min_le_right _ _

/-- The policy of six attempts from one second, capped at four seconds, has a largest delay
below the longest duration, so its round doubles up to the cap and stays there. -/
theorem four_second_cap_delays :
    (⟨6, 1000, 4000, 0, 1⟩ : Convergence).maxMs ≤ maxDurationMs ∧
      (⟨6, 1000, 4000, 0, 1⟩ : Convergence).roundDelays =
        (List.range 6).map (fun k => min (1000 * 2 ^ k) 4000) :=
  have hmax : (⟨6, 1000, 4000, 0, 1⟩ : Convergence).maxMs ≤ maxDurationMs := by decide
  ⟨hmax, (round_delays_double_to_cap _ hmax).2.2.1⟩

example :
    (⟨6, 1000, 4000, 0, 1⟩ : Convergence).roundDelays = [1000, 2000, 4000, 4000, 4000, 4000] := by
  decide

end Convergence

/-! ### Rounds of polls -/

/-- The exchanges of a poll that slept `delay`, then read the snapshot `s` and recorded it. -/
def pollExchanges (c : ControllerRef) (delay : Nat) (s : Snapshot) : List Exchange :=
  [⟨.sleep c.token delay, true⟩, ⟨.call (.instances c.service), (.ok s : Outcome Snapshot)⟩,
    ⟨.call (.record c.service s), ()⟩]

/-- The exchanges of polls that slept the delays `ds` in turn and read the snapshots `ss`. -/
def polled (c : ControllerRef) : List Nat → List Snapshot → List Exchange
  | d :: ds, s :: ss => pollExchanges c d s ++ polled c ds ss
  | _, _ => []

/-- How a round of polls ends, after the polls that found the instances unconverged. -/
inductive RoundEnd where
  /-- A poll read the converged snapshot `s`. -/
  | converged (s : Snapshot)
  /-- Every poll of the round found the instances unconverged. -/
  | exhausted
  /-- The sleep before a poll was cut short. -/
  | interrupted
  /-- The read of a poll failed with `e`. -/
  | unreadable (e : ScaleError)
  /-- The run stands in the sleep before a poll. -/
  | sleeping

namespace RoundEnd

/-- The exchanges of the ending, whose poll sleeps `delay`. -/
def exchanges (c : ControllerRef) (delay : Nat) : RoundEnd → List Exchange
  | converged s => pollExchanges c delay s
  | exhausted | sleeping => []
  | interrupted => [⟨.sleep c.token delay, false⟩]
  | unreadable e =>
    [⟨.sleep c.token delay, true⟩, ⟨.call (.instances c.service), (.error e : Outcome Snapshot)⟩]

/-- What the round answers once it has ended: whether the instances converged. -/
def result (c : ControllerRef) : RoundEnd → Option (Outcome Bool)
  | converged _ => some (.ok true)
  | exhausted => some (.ok false)
  | interrupted => some (.error (.interrupted c.service))
  | unreadable e => some (.error e)
  | sleeping => none

/-- How many times the ending read the instances. -/
def reads : RoundEnd → Nat
  | converged _ | unreadable _ => 1
  | exhausted | interrupted | sleeping => 0

/-- The snapshot the ending read, if it read one. -/
def snapshot? : RoundEnd → Option Snapshot
  | converged s => some s
  | _ => none

end RoundEnd

/-- A round of at most `n` polls, as far as it went: the polls that found the instances
unconverged, then its ending. The round is exhausted exactly when all `n` polls found the
instances unconverged, and a converged ending read a converged snapshot. -/
structure Round (n : Nat) where
  unconverged : List Snapshot
  ending : RoundEnd
  all_unconverged : ∀ s ∈ unconverged, s.converged = false
  length_le : unconverged.length ≤ n
  length_eq_iff : unconverged.length = n ↔ ending = .exhausted
  converged_of_ending : ∀ s, ending = .converged s → s.converged = true

namespace Round

variable {n : Nat}

/-- The exchanges of the round, whose polls sleep the delays `ds`. -/
def exchanges (r : Round n) (c : ControllerRef) (ds : List Nat) : List Exchange :=
  polled c ds r.unconverged ++ r.ending.exchanges c (ds.getD r.unconverged.length 0)

/-- How many times the round read the instances. -/
def reads (r : Round n) : Nat := r.unconverged.length + r.ending.reads

/-- The snapshots the round read, in order. -/
def snapshots (r : Round n) : List Snapshot := r.unconverged ++ r.ending.snapshot?.toList

/-- The round of no polls. -/
def empty : Round 0 where
  unconverged := []
  ending := .exhausted
  all_unconverged := fun _ h => by cases h
  length_le := le_rfl
  length_eq_iff := iff_of_true rfl rfl
  converged_of_ending := fun _ h => by cases h

/-- A round that its first poll ends. -/
def first (e : RoundEnd) (he : e ≠ .exhausted)
    (hconv : ∀ s, e = .converged s → s.converged = true) : Round (n + 1) where
  unconverged := []
  ending := e
  all_unconverged := fun _ h => by cases h
  length_le := Nat.zero_le _
  length_eq_iff := iff_of_false (Nat.succ_ne_zero n).symm he
  converged_of_ending := hconv

/-- A poll that found the instances unconverged, then the rest of the round. -/
def cons (s : Snapshot) (hs : s.converged = false) (r : Round n) : Round (n + 1) where
  unconverged := s :: r.unconverged
  ending := r.ending
  all_unconverged := by
    intro s' hs'
    rcases List.mem_cons.mp hs' with rfl | hs'
    · exact hs
    · exact r.all_unconverged s' hs'
  length_le := Nat.succ_le_succ r.length_le
  length_eq_iff := by
    rw [List.length_cons, Nat.add_right_cancel_iff]
    exact r.length_eq_iff
  converged_of_ending := r.converged_of_ending

/-- A round reads the instances at most once per poll. -/
theorem reads_le (r : Round n) : r.reads ≤ n := by
  have hlen := r.length_le
  -- an ending other than the exhausted one comes before all `n` polls are used up
  have hshort : r.ending ≠ .exhausted → r.unconverged.length < n := fun hne =>
    Nat.lt_of_le_of_ne hlen fun heq => hne (r.length_eq_iff.mp heq)
  unfold reads
  cases hend : r.ending with
  | converged s =>
    have := hshort (by rw [hend]; exact RoundEnd.noConfusion)
    simp only [RoundEnd.reads]
    omega
  | unreadable e =>
    have := hshort (by rw [hend]; exact RoundEnd.noConfusion)
    simp only [RoundEnd.reads]
    omega
  | exhausted | interrupted | sleeping =>
    simp only [RoundEnd.reads]
    omega

/-- A round read a converged snapshot exactly when it ended with one. -/
theorem converged_iff (r : Round n) :
    (∃ s ∈ r.snapshots, s.converged = true) ↔ ∃ s, r.ending = .converged s := by
  constructor
  · rintro ⟨s, hs, hconv⟩
    rcases List.mem_append.mp hs with hs | hs
    · rw [r.all_unconverged s hs] at hconv
      cases hconv
    · cases hend : r.ending with
      | converged s' => exact ⟨s', rfl⟩
      | _ => simp [hend, RoundEnd.snapshot?] at hs
  · rintro ⟨s, hend⟩
    refine ⟨s, List.mem_append_right _ ?_, r.converged_of_ending s hend⟩
    simp [hend, RoundEnd.snapshot?]

end Round

variable (ctx : Context) {w w' : World} {es : List Exchange} {c : ControllerRef}

/-- Every run of a round of `n` polls from `d` is a `Round n` whose polls sleep the delays from
`d`; it has ended exactly when the round's ending answers, and with that answer. -/
theorem pollRound_runs :
    ∀ {n d : Nat} {w : World} {es : List Exchange} {q : Prog (Outcome Bool)},
      Exec w (pollRound ctx c n d).run es w' q →
        ∃ r : Round n, es = r.exchanges c (ctx.convergence.delaysFrom d n) ∧
          ∀ x, q = .done x ↔ r.ending.result c = some x
  | 0, d, w, es, q, h => by
    obtain ⟨rfl, -, rfl⟩ := Exec.run_pure_iff.mp h
    exact ⟨.empty, rfl, fun x => by simp [Round.empty, RoundEnd.result]⟩
  | n + 1, d, w, es, q, h => by
    rw [pollRound] at h
    rcases Exec.of_sleepFor_bind h with ⟨rfl, k, rfl⟩ | ⟨rfl, rfl⟩ | ⟨w₁, es', rfl, hread⟩
    · -- the run stands in the first sleep
      refine ⟨.first .sleeping (by simp) (by simp), rfl, fun x => ?_⟩
      simp [Round.first, RoundEnd.result]
    · refine ⟨.first .interrupted (by simp) (by simp), rfl, fun x => ?_⟩
      simp [Round.first, RoundEnd.result]
    obtain ⟨es₂, rfl, hfailed, hgot⟩ := Exec.of_instances_bind hread
    generalize (w₁.perform (.instances c.service)).2 = read at hfailed hgot ⊢
    rcases read with e | s
    · obtain ⟨rfl, rfl⟩ := hfailed e rfl
      refine ⟨.first (.unreadable e) (by simp) (by simp), rfl, fun x => ?_⟩
      simp [Round.first, RoundEnd.result]
    -- the snapshot is recorded; a converged one ends the round, any other goes on to the next
    -- poll
    obtain ⟨es₃, rfl, hrest⟩ := Exec.run_lift_call_bind_iff.mp (hgot s rfl)
    cases hconv : s.converged with
    | true =>
      rw [hconv] at hrest
      obtain ⟨rfl, -, rfl⟩ := Exec.run_pure_iff.mp hrest
      refine ⟨.first (.converged s) (by simp) (fun s' h => by cases h; exact hconv), rfl,
        fun x => ?_⟩
      simp [Round.first, RoundEnd.result]
    | false =>
      rw [hconv] at hrest
      obtain ⟨r, rfl, hresult⟩ := pollRound_runs hrest
      exact ⟨.cons s hconv r, rfl, hresult⟩

/-- A round of polls followed by more: the run ends with the round unless the round answers
that the instances converged or not, and then it goes on with that answer. -/
theorem pollRound_bind_runs {β : Type} {n d : Nat} {f : Bool → Attempt β}
    {q : Prog (Outcome β)} (h : Exec w (pollRound ctx c n d >>= f).run es w' q) :
    ∃ (r : Round n) (rest : List Exchange),
      es = r.exchanges c (ctx.convergence.delaysFrom d n) ++ rest ∧
      (r.ending.result c = none → rest = [] ∧ ∀ y, q ≠ .done y) ∧
      (∀ e, r.ending.result c = some (.error e) → rest = [] ∧ q = .done (.error e)) ∧
      ∀ b, r.ending.result c = some (.ok b) → ∃ w₁, Exec w₁ (f b).run rest w' q := by
  rcases Exec.of_run_bind h with ⟨rq, k, hx, rfl⟩ | ⟨e, hx, rfl⟩ | ⟨b, es₁, es₂, w₁, rfl, hx, hf⟩
  · -- the run stands inside the round, which has not answered
    obtain ⟨r, rfl, hresult⟩ := pollRound_runs ctx hx
    have hnone : r.ending.result c = none := by
      cases hr : r.ending.result c with
      | none => rfl
      | some x => cases (hresult x).mpr hr
    refine ⟨r, [], (List.append_nil _).symm, fun _ => ⟨rfl, fun y hy => by cases hy⟩,
      fun e he => ?_, fun b hb => ?_⟩
    · rw [hnone] at he
      cases he
    · rw [hnone] at hb
      cases hb
  · obtain ⟨r, rfl, hresult⟩ := pollRound_runs ctx hx
    have hfailed := (hresult (.error e)).mp rfl
    refine ⟨r, [], (List.append_nil _).symm, fun hr => ?_, fun e' he' => ?_, fun b hb => ?_⟩
    · rw [hfailed] at hr
      cases hr
    · rw [hfailed] at he'
      cases he'
      exact ⟨rfl, rfl⟩
    · rw [hfailed] at hb
      cases hb
  · obtain ⟨r, rfl, hresult⟩ := pollRound_runs ctx hx
    have hanswered := (hresult (.ok b)).mp rfl
    refine ⟨r, es₂, rfl, fun hr => ?_, fun e he => ?_, fun b' hb' => ?_⟩
    · rw [hanswered] at hr
      cases hr
    · rw [hanswered] at he
      cases he
    · rw [hanswered] at hb'
      cases hb'
      exact ⟨w₁, hf⟩

/-! ### The course of a wait -/

/-- A round in which every poll found the instances unconverged, followed by a request for
room that was granted. -/
structure Turn (c : ControllerRef) where
  polls : List Snapshot
  request : List Exchange
  full : polls.length = ctx.convergence.attempts
  all_unconverged : ∀ s ∈ polls, s.converged = false
  granted : ∃ w₁ w₂, Exec w₁ (freeUp ctx c).run request w₂ (.done (.ok true))

/-- The request for room after the last round of a wait. -/
inductive RoomRequest (c : ControllerRef) where
  /-- None was made. -/
  | none
  /-- One was made and refused. -/
  | refused (request : List Exchange)
      (h : ∃ w₁ w₂, Exec w₁ (freeUp ctx c).run request w₂ (.done (.ok false)))
  /-- One is under way. -/
  | underway (request : List Exchange)
      (h : ∃ (w₁ w₂ : World) (r : Request) (k : r.Reply → Prog (Outcome Bool)),
        Exec w₁ (freeUp ctx c).run request w₂ (.ask r k))

namespace RoomRequest

variable {ctx}

/-- How many requests were made. -/
def count : RoomRequest ctx c → Nat
  | none => 0
  | refused _ _ | underway _ _ => 1

/-- The exchanges of the request. -/
def exchanges : RoomRequest ctx c → List Exchange
  | none => []
  | refused es _ | underway es _ => es

theorem count_le_one (req : RoomRequest ctx c) : req.count ≤ 1 := by
  cases req <;> simp [count]

end RoomRequest

/-- What a wait answers after a last round that answered `r`, with no request for room left:
done when the instances converged, out of room when they did not, and the round's failure
when it failed. -/
def afterRound (c : ControllerRef) (r : Outcome Bool) : Outcome Unit :=
  r.bind fun converged => if converged then .ok () else .error (.insufficientCapacity c.service)

/-- A wait for convergence of `c` with `left` requests for room allowed, round by round: the
rounds after which room was granted, then the last round and the request for room after it.
At most `left` requests are made; a request follows only a round that every poll found
unconverged, and such a round is followed by none only when all `left` were made. -/
structure Course (c : ControllerRef) (left : Nat) where
  turns : List (Turn ctx c)
  last : Round ctx.convergence.attempts
  request : RoomRequest ctx c
  requests_le : turns.length + request.count ≤ left
  exhausted_of_request : request ≠ .none → last.ending = .exhausted
  all_made : last.ending = .exhausted → request = .none → turns.length = left

namespace Course

variable {ctx} {left : Nat}

/-- The exchanges of the wait. -/
def exchanges (k : Course ctx c left) : List Exchange :=
  (k.turns.flatMap fun t => polled c ctx.convergence.roundDelays t.polls ++ t.request) ++
    k.last.exchanges c ctx.convergence.roundDelays ++ k.request.exchanges

/-- How many times the wait read the instances. -/
def reads (k : Course ctx c left) : Nat :=
  k.turns.foldr (fun t n => t.polls.length + n) 0 + k.last.reads

/-- How many times the wait asked for room. -/
def requests (k : Course ctx c left) : Nat := k.turns.length + k.request.count

/-- The snapshots the wait read, in order. -/
def snapshots (k : Course ctx c left) : List Snapshot :=
  k.turns.flatMap (·.polls) ++ k.last.snapshots

/-- What the wait answers once it has ended. -/
def result (k : Course ctx c left) : Option (Outcome Unit) :=
  match k.request with
  | .none => (k.last.ending.result c).map (afterRound c)
  | .refused _ _ => some (.error (.insufficientCapacity c.service))
  | .underway _ _ => none

/-- A round after which room was granted, before the rest of the wait. -/
def cons (t : Turn ctx c) (k : Course ctx c left) : Course ctx c (left + 1) where
  turns := t :: k.turns
  last := k.last
  request := k.request
  requests_le := by
    have := k.requests_le
    simp only [List.length_cons]
    omega
  exhausted_of_request := k.exhausted_of_request
  all_made := fun hend hnone => by
    rw [List.length_cons, k.all_made hend hnone]

/-- A wait whose first round is its last, with no request for room after it; an exhausted
round ends it only when no request is allowed. -/
def single (r : Round ctx.convergence.attempts) (hleft : r.ending = .exhausted → left = 0) :
    Course ctx c left where
  turns := []
  last := r
  request := .none
  requests_le := Nat.zero_le _
  exhausted_of_request := fun h => absurd rfl h
  all_made := fun hend _ => (hleft hend).symm

/-- A wait whose first round was exhausted, followed by a request for room that was refused or
is under way. -/
def asking (r : Round ctx.convergence.attempts) (hend : r.ending = .exhausted)
    (req : RoomRequest ctx c) (hreq : req ≠ .none) : Course ctx c (left + 1) where
  turns := []
  last := r
  request := req
  requests_le := by
    have := req.count_le_one
    rw [List.length_nil]
    omega
  exhausted_of_request := fun _ => hend
  all_made := fun _ h => absurd h hreq

/-- A request for room follows only an exhausted round. -/
theorem request_eq_none (k : Course ctx c left) (hend : k.last.ending ≠ .exhausted) :
    k.request = .none := by
  by_contra hreq
  exact hend (k.exhausted_of_request hreq)

/-- With no request for room after it, the wait answers what its last round makes of it. -/
theorem result_of_none (k : Course ctx c left) (hnone : k.request = .none) :
    k.result = (k.last.ending.result c).map (afterRound c) := by
  simp only [result, hnone]

theorem foldr_reads (turns : List (Turn ctx c)) :
    turns.foldr (fun t n => t.polls.length + n) 0 = turns.length * ctx.convergence.attempts := by
  induction turns with
  | nil => exact (Nat.zero_mul _).symm
  | cons t turns ih =>
    rw [List.foldr_cons, ih, t.full, List.length_cons, Nat.succ_mul, Nat.add_comm]

/-- A wait reads the instances at most once for each poll of each round it may poll. -/
theorem reads_le (k : Course ctx c left) : k.reads ≤ (left + 1) * ctx.convergence.attempts := by
  have hturns : k.turns.length ≤ left := Nat.le_of_add_right_le k.requests_le
  have hlast := k.last.reads_le
  calc k.reads = k.turns.length * ctx.convergence.attempts + k.last.reads := by
        rw [reads, foldr_reads]
    _ ≤ left * ctx.convergence.attempts + ctx.convergence.attempts :=
        Nat.add_le_add (Nat.mul_le_mul_right _ hturns) hlast
    _ = (left + 1) * ctx.convergence.attempts := (Nat.succ_mul _ _).symm

/-- A wait read a converged snapshot exactly when its last round ended with one: every
earlier round found the instances unconverged. -/
theorem converged_iff (k : Course ctx c left) :
    (∃ s ∈ k.snapshots, s.converged = true) ↔ ∃ s, k.last.ending = .converged s := by
  rw [← k.last.converged_iff]
  constructor
  · rintro ⟨s, hs, hconv⟩
    rcases List.mem_append.mp hs with hs | hs
    · obtain ⟨t, -, hst⟩ := List.mem_flatMap.mp hs
      rw [t.all_unconverged s hst] at hconv
      cases hconv
    · exact ⟨s, hs, hconv⟩
  · rintro ⟨s, hs, hconv⟩
    exact ⟨s, List.mem_append_right _ hs, hconv⟩

/-- A wait ends well exactly when its last round read a converged snapshot. -/
theorem result_eq_ok_iff (k : Course ctx c left) :
    k.result = some (.ok ()) ↔ ∃ s, k.last.ending = .converged s := by
  constructor
  · intro h
    unfold result at h
    split at h
    · cases hend : k.last.ending with
      | converged s => exact ⟨s, rfl⟩
      | exhausted | interrupted | unreadable _ | sleeping =>
        simp [hend, RoundEnd.result, afterRound, Except.bind] at h
    · cases h
    · cases h
  · rintro ⟨s, hend⟩
    -- a converged round is followed by no request
    have hnone : k.request = .none := by
      by_contra hreq
      rw [k.exhausted_of_request hreq] at hend
      cases hend
    simp [result, hnone, hend, RoundEnd.result, afterRound, Except.bind]

end Course

/-- A round of the wait, then `rest` when every poll found the instances unconverged: the run
ends with the round unless the round was exhausted, and then goes on with `rest`. -/
theorem waitRound_runs {rest : Attempt Unit} {q : Prog (Outcome Unit)}
    (h : Exec w (pollRound ctx c ctx.convergence.attempts ctx.convergence.firstDelay >>=
      fun b => if b = true then pure () else rest).run es w' q) :
    ∃ (r : Round ctx.convergence.attempts) (es₂ : List Exchange),
      es = r.exchanges c ctx.convergence.roundDelays ++ es₂ ∧
      (r.ending ≠ .exhausted →
        es₂ = [] ∧ ∀ x, q = .done x ↔ (r.ending.result c).map (afterRound c) = some x) ∧
      (r.ending = .exhausted → ∃ w₁, Exec w₁ rest.run es₂ w' q) := by
  obtain ⟨r, es₂, rfl, hnone, herror, hok⟩ := pollRound_bind_runs ctx h
  refine ⟨r, es₂, rfl, fun hne => ?_, fun hend => ?_⟩
  · cases hend : r.ending with
    | converged s =>
      obtain ⟨w₁, hdone⟩ := hok true (by rw [hend]; rfl)
      obtain ⟨rfl, -, rfl⟩ := Exec.done_iff.mp hdone
      exact ⟨rfl, fun x => by simp [RoundEnd.result, afterRound, Except.bind]⟩
    | exhausted => exact absurd hend hne
    | interrupted =>
      obtain ⟨rfl, rfl⟩ := herror _ (by rw [hend]; rfl)
      exact ⟨rfl, fun x => by simp [RoundEnd.result, afterRound, Except.bind]⟩
    | unreadable e =>
      obtain ⟨rfl, rfl⟩ := herror e (by rw [hend]; rfl)
      exact ⟨rfl, fun x => by simp [RoundEnd.result, afterRound, Except.bind]⟩
    | sleeping =>
      obtain ⟨rfl, hq⟩ := hnone (by rw [hend]; rfl)
      exact ⟨rfl, fun x => iff_of_false (hq x) (by simp [RoundEnd.result])⟩
  · exact hok false (by rw [hend]; rfl)

/-- Every run of a wait with `left` requests for room allowed is a `Course`; it has ended
exactly when the course answers, and with that answer. -/
theorem awaitConvergence_course :
    ∀ (left : Nat) {w : World} {es : List Exchange} {q : Prog (Outcome Unit)},
      Exec w (awaitConvergence ctx c left).run es w' q →
        ∃ k : Course ctx c left, es = k.exchanges ∧ ∀ x, q = .done x ↔ k.result = some x := by
  intro left
  induction left with
  | zero =>
    intro w es q h
    rw [awaitConvergence] at h
    obtain ⟨r, es₂, rfl, hends, hexhausted⟩ := waitRound_runs ctx h
    by_cases hend : r.ending = .exhausted
    · -- no request is allowed: the wait has run out of room
      obtain ⟨w₁, hthrow⟩ := hexhausted hend
      obtain ⟨rfl, -, rfl⟩ := Exec.done_iff.mp hthrow
      refine ⟨.single r fun _ => rfl, rfl, fun x => ?_⟩
      simp [Course.result_of_none, Course.single, hend, RoundEnd.result, afterRound, Except.bind]
    · obtain ⟨rfl, hq⟩ := hends hend
      exact ⟨.single r fun h => absurd h hend, rfl, hq⟩
  | succ left ih =>
    intro w es q h
    rw [awaitConvergence] at h
    obtain ⟨r, es₂, rfl, hends, hexhausted⟩ := waitRound_runs ctx h
    by_cases hend : r.ending = .exhausted
    · -- the round was exhausted: room is asked for
      obtain ⟨w₁, hasked⟩ := hexhausted hend
      rcases freeUp_bind_runs ctx hasked with ⟨rq, k, hx, hq⟩ | ⟨b, es₃, es₄, w₂, rfl, hx, hg⟩
      · refine ⟨.asking r hend (.underway es₂ ⟨w₁, w', rq, k, hx⟩) (by simp), rfl, fun x => ?_⟩
        exact iff_of_false (hq x) (by simp [Course.result, Course.asking])
      cases b with
      | false =>
        -- refused: the wait has run out of room
        obtain ⟨rfl, -, rfl⟩ := Exec.done_iff.mp hg
        refine ⟨.asking r hend (.refused es₃ ⟨w₁, w₂, hx⟩) (by simp), by simp [Course.exchanges,
          Course.asking, RoomRequest.exchanges], fun x => ?_⟩
        simp [Course.result, Course.asking]
      | true =>
        -- granted: the rest of the wait is a wait with one request fewer
        obtain ⟨k, rfl, hresult⟩ := ih hg
        let t : Turn ctx c := ⟨r.unconverged, es₃, r.length_eq_iff.mpr hend, r.all_unconverged,
          ⟨w₁, w₂, hx⟩⟩
        refine ⟨.cons t k, ?_, hresult⟩
        simp [t, Course.exchanges, Course.cons, Round.exchanges, hend, RoundEnd.exchanges]
    · obtain ⟨rfl, hq⟩ := hends hend
      exact ⟨.single r fun h => absurd h hend, rfl, hq⟩

/-- A wait for convergence with `left` requests for room allowed, whatever the platform and
the donors answer, is a `Course`: rounds of polls that sleep the round's delays in turn and
record every snapshot they read, with a granted request for room after each round but the
last. It reads the instances at most `(left + 1) * attempts` times and asks for room at most
`left` times. It ends well exactly when one of its polls read a converged snapshot. It runs out
of room when its last round ends unconverged after all `left` requests were granted, or when a
request is refused; a sleep cut short or a failed read ends it with that failure. -/
theorem awaitConvergence_bounded {left : Nat} {q : Prog (Outcome Unit)}
    (h : Exec w (awaitConvergence ctx c left).run es w' q) :
    ∃ k : Course ctx c left, es = k.exchanges ∧
      k.reads ≤ (left + 1) * ctx.convergence.attempts ∧ k.requests ≤ left ∧
      (q = .done (.ok ()) ↔ ∃ s ∈ k.snapshots, s.converged = true) ∧
      (k.last.ending = .exhausted → k.request = .none →
        k.turns.length = left ∧ q = .done (.error (.insufficientCapacity c.service))) ∧
      (∀ f hf, k.request = .refused f hf → q = .done (.error (.insufficientCapacity c.service))) ∧
      (k.last.ending = .interrupted → q = .done (.error (.interrupted c.service))) ∧
      (∀ e, k.last.ending = .unreadable e → q = .done (.error e)) ∧
      ∀ x, q = .done x ↔ k.result = some x := by
  obtain ⟨k, rfl, hresult⟩ := awaitConvergence_course ctx left h
  -- a last round that failed leaves no request after it, and the wait fails as it did
  have hfailed : ∀ e, k.last.ending.result c = some (.error e) → q = .done (.error e) := by
    intro e he
    have hnone : k.request = .none := k.request_eq_none fun hend => by
      rw [hend] at he
      cases he
    rw [hresult, k.result_of_none hnone, he]
    rfl
  refine ⟨k, rfl, k.reads_le, k.requests_le, ?_, fun hend hnone => ⟨k.all_made hend hnone, ?_⟩,
    fun f hf hreq => ?_, fun hend => hfailed _ (by rw [hend]; rfl),
    fun e hend => hfailed e (by rw [hend]; rfl), hresult⟩
  · rw [hresult, k.result_eq_ok_iff, k.converged_iff]
  · rw [hresult, k.result_of_none hnone, hend]
    rfl
  · rw [hresult]
    simp [Course.result, hreq]

/-- `crowdedWorld` once "svc" has asked for one more instance: it waits, pending, for room. -/
def waitingWorld : World :=
  { crowdedWorld with
    platform := { crowdedWorld.platform with
      deployments := [("other", { running := 3, priority := -1 }),
        ("svc", { running := 2, pending := 1, priority := -1 })] } }

/-- In `waitingWorld` the wait of "svc" with one request for room allowed reads its instance
pending, asks for room, which "other" gives up, and then reads it started: a course that asks
the donor for its one command and ends converged. -/
theorem crowded_wait_converges_after_room :
    ∃ k : Course waitingWorld.ctx ⟨0, "svc", 0⟩ 1,
      k.reads ≤ 2 ∧ k.requests ≤ 1 ∧ commands k.exchanges = [("other", .down 1)] ∧
        ∃ s ∈ k.snapshots, s.converged = true := by
  -- a poll, the donor's scale-down with its own settling and record, and a second poll
  have hrun : ∃ es w', Exec waitingWorld (awaitConvergence waitingWorld.ctx ⟨0, "svc", 0⟩ 1).run
      es w' (.done (.ok ())) ∧ commands es = [("other", .down 1)] :=
    ⟨_, _, .wait_unchanged (Request.sleep_waits 0 1) true (.call (.call (.call (.call
      (.wait_unchanged (Request.sleep_waits 1 1) true (.call (.call (.call
        (.wait_unchanged (Request.sleep_waits 0 1) true (.call (.call (.done _ _)))))))))))),
      rfl⟩
  obtain ⟨es, w', hrun, hcommands⟩ := hrun
  obtain ⟨k, rfl, hreads, hrequests, hok, -⟩ := awaitConvergence_bounded waitingWorld.ctx hrun
  exact ⟨k, hreads, hrequests, hcommands, hok.mp rfl⟩

end ScaleControl
