import Mathlib
import ScaleControl.Proofs.RunLoop
import ScaleControl.Proofs.DonorChoice
/-!
# Requests for room

A controller whose scale-up does not converge asks for room: the world names a donor (the
controller listening for the service the governor chose), and the donor gives up one
instance through its own scale-down, the same scale-down a controller carries out for its
own service. This module says exactly what the runs of a scale-down and of a request for
room are.

A scale-down goes through when the platform takes the command, the settle delay runs its
course and the instances are read: its run is then `scaleDownDone`, which records the
instances and starts the backoff at its very end. Every other run starts no backoff and does
not end well (`scaleDown_runs`).

A request for room asks once for a donor, which changes nothing. Without a donor it ends at
once, refused; with one it is exactly the donor's scale-down of one instance, and it is
granted exactly when that scale-down goes through. It never fails.

The lemmas first take apart the steps every such program is made of: a sleep on the
controller's token, a call whose answer may be an error, and a program lifted into one that
may fail.
-/
namespace ScaleControl

namespace Exchange

/-- The controller and operation of an exchange that starts a backoff. -/
def backoff? : Exchange → Option (Nat × Operation)
  | ⟨.call (.enterBackoff i op), _⟩ => some (i, op)
  | _ => none

end Exchange

/-- The backoffs a run starts, in order: the controller and the operation. -/
def backoffs (es : List Exchange) : List (Nat × Operation) := es.filterMap Exchange.backoff?

@[simp] theorem backoffs_append (es es' : List Exchange) :
    backoffs (es ++ es') = backoffs es ++ backoffs es' := List.filterMap_append

open Attempt

variable {w w' : World} {es : List Exchange}

/-! ### The steps of a controller's programs -/

namespace Exec

variable {α β : Type}

/-- After a call whose answer may be an error: an error ends the program at once. -/
theorem of_bindCont {f : α → Attempt β} {r : Outcome α} {q : Prog (Outcome β)}
    (h : Exec w (ExceptT.bindCont f r) es w' q) :
    (∀ e, r = .error e → es = [] ∧ q = .done (.error e)) ∧
      ∀ a, r = .ok a → Exec w (f a).run es w' q := by
  refine ⟨fun e he => ?_, fun a ha => ?_⟩
  · subst he
    obtain ⟨rfl, -, rfl⟩ := done_iff.mp h
    exact ⟨rfl, rfl⟩
  · subst ha
    exact h

/-- A sleep on the controller's token: the run stops in it, or it is cut short and the
program ends interrupted, or it runs its course and the program goes on. -/
theorem of_sleepFor_bind {c : ControllerRef} {ms : Nat} {f : Unit → Attempt β}
    {q : Prog (Outcome β)} (h : Exec w (sleepFor c ms >>= f).run es w' q) :
    (es = [] ∧ ∃ k, q = .ask (.sleep c.token ms) k) ∨
      (es = [⟨.sleep c.token ms, false⟩] ∧ q = .done (.error (.interrupted c.service))) ∨
      ∃ w₁ es', es = ⟨.sleep c.token ms, true⟩ :: es' ∧ Exec w₁ (f ()).run es' w' q := by
  have hwaits : (Request.sleep c.token ms).Waits := fun _ h => by cases h
  rw [run_bind_eq, sleepFor_run] at h
  change Exec w (.ask (.sleep c.token ms) fun slept =>
    (sleepReply c slept).bind (ExceptT.bindCont f)) es w' q at h
  rcases (wait_iff hwaits).mp h with ⟨rfl, -, rfl⟩ | ⟨slept, w₁, es', rfl, hrest⟩
  · exact .inl ⟨rfl, _, rfl⟩
  · cases slept with
    | false =>
      obtain ⟨rfl, -, rfl⟩ := done_iff.mp hrest
      exact .inr (.inl ⟨rfl, rfl⟩)
    | true => exact .inr (.inr ⟨w₁, es', rfl, hrest⟩)

/-- A read of a service's instances: a failed read ends the program, a snapshot goes on. -/
theorem of_instances_bind {service : String} {f : Snapshot → Attempt β} {q : Prog (Outcome β)}
    (h : Exec w (instances service >>= f).run es w' q) :
    ∃ es', es = ⟨.call (.instances service), (w.perform (.instances service)).2⟩ :: es' ∧
      (∀ e, (w.perform (.instances service)).2 = .error e → es' = [] ∧ q = .done (.error e)) ∧
      ∀ s, (w.perform (.instances service)).2 = .ok s →
        Exec (w.perform (.instances service)).1 (f s).run es' w' q := by
  rw [run_bind_eq] at h
  obtain ⟨es', rfl, hrest⟩ := call_bind_iff.mp h
  exact ⟨es', rfl, (of_bindCont hrest).1, (of_bindCont hrest).2⟩

/-- A program lifted into one that may fail, followed by a `pure` step: its run is a run of the
program, and the lifted one ends when the program does. -/
theorem of_run_lift_bind_pure {p : Prog α} {g : α → β} {q : Prog (Outcome β)}
    (h : Exec w (ExceptT.lift p >>= fun a => pure (g a)).run es w' q) :
    ∃ q', Exec w p es w' q' ∧ (∀ a, q' = .done a → q = .done (.ok (g a))) ∧
      ∀ x, q = .done x → ∃ a, q' = .done a := by
  have heq : (ExceptT.lift p >>= fun a => pure (g a)).run =
      p.bind fun a => .done (.ok (g a) : Outcome β) := by
    show (p.bind fun a => Prog.done (Except.ok a)).bind _ = _
    rw [Prog.bind_assoc]
    rfl
  rw [heq] at h
  rcases of_bind h with ⟨r, k, hp, rfl⟩ | ⟨a, es₁, es₂, w₁, rfl, hp, hrest⟩
  · refine ⟨.ask r k, hp, fun a ha => ?_, fun x hx => ?_⟩
    · cases ha
    · cases hx
  · obtain ⟨rfl, rfl, rfl⟩ := done_iff.mp hrest
    rw [List.append_nil]
    exact ⟨_, hp, fun a' ha' => by rw [Prog.done.inj ha'], fun _ _ => ⟨a, rfl⟩⟩

end Exec

/-! ### Scale-downs -/

variable (ctx : Context)

/-- The exchanges of a scale-down of controller `c` by `n` that went through: the platform
took the command, the settle delay ran its course, and the instances read as `s` were recorded
before the backoff started. -/
def scaleDownDone (c : ControllerRef) (n : UInt32) (s : Snapshot) : List Exchange :=
  [⟨.call (.scaleDown c.service n), (.ok () : Outcome Unit)⟩,
    ⟨.sleep c.token ctx.convergence.settleMs, true⟩,
    ⟨.call (.instances c.service), (.ok s : Outcome Snapshot)⟩,
    ⟨.call (.record c.service s), ()⟩, ⟨.call (.enterBackoff c.index .scaleDown), ()⟩]

theorem backoffs_scaleDownDone (c : ControllerRef) (n : UInt32) (s : Snapshot) :
    backoffs (scaleDownDone ctx c n s) = [(c.index, .scaleDown)] := rfl

/-- A scale-down that goes through is `scaleDownDone` and ends well; any other run starts no
backoff and does not end well. -/
theorem scaleDown_runs {c : ControllerRef} {n : UInt32} {q : Prog (Outcome Unit)}
    (h : Exec w (scaleDown ctx c n).run es w' q) :
    (∃ s, es = scaleDownDone ctx c n s ∧ q = .done (.ok ())) ∨
      (backoffs es = [] ∧ q ≠ .done (.ok ())) := by
  unfold scaleDown at h
  rw [Exec.run_bind_eq] at h
  obtain ⟨es₁, rfl, hsent⟩ := Exec.call_bind_iff.mp h
  generalize (w.perform (.scaleDown c.service n)).2 = sent at hsent ⊢
  -- a failure at any step ends the run with no backoff
  have hquiet : ∀ e, backoffs [⟨.call (.scaleDown c.service n), sent⟩] = [] ∧
      Prog.done (Except.error e : Outcome Unit) ≠ .done (.ok ()) :=
    fun _ => ⟨rfl, fun h => by cases h⟩
  rcases sent with e | ⟨⟩
  · obtain ⟨rfl, rfl⟩ := (Exec.of_bindCont hsent).1 e rfl
    exact .inr (hquiet e)
  have hslept := (Exec.of_bindCont hsent).2 () rfl
  rcases Exec.of_sleepFor_bind hslept with ⟨rfl, k, rfl⟩ | ⟨rfl, rfl⟩ | ⟨w₁, es₂, rfl, hread⟩
  · exact .inr ⟨rfl, fun h => by cases h⟩
  · exact .inr (hquiet _)
  obtain ⟨es₃, rfl, hfailed, hgot⟩ := Exec.of_instances_bind hread
  generalize hs : (w₁.perform (.instances c.service)).2 = read at hfailed hgot ⊢
  rcases read with e | s
  · obtain ⟨rfl, rfl⟩ := hfailed e rfl
    exact .inr (hquiet e)
  -- the read snapshot is recorded, then the backoff starts, and the scale-down is done
  have hrest := hgot s rfl
  obtain ⟨es₄, rfl, hrecorded⟩ := Exec.run_lift_call_bind_iff.mp hrest
  change Exec _ (.ask (.call (.enterBackoff c.index .scaleDown)) fun x => .done (.ok x)) es₄ w' q
    at hrecorded
  obtain ⟨es₅, rfl, hentered⟩ := Exec.call_iff.mp hrecorded
  obtain ⟨rfl, -, rfl⟩ := Exec.done_iff.mp hentered
  exact .inl ⟨s, rfl, rfl⟩

/-! ### Requests for room -/

/-- A request for room asks once for a donor. Without one it is refused at once; with one it
is the donor's scale-down of one instance, granted when that ends well and refused when it
fails, and it ends only when that scale-down ends. -/
theorem freeUp_runs {c : ControllerRef} {q : Prog (Outcome Bool)}
    (h : Exec w (freeUp ctx c).run es w' q) :
    ∃ rest, es = ⟨.call (.donor c.service), w.donor c.service⟩ :: rest ∧
      (w.donor c.service = none → rest = [] ∧ q = .done (.ok false)) ∧
      ∀ d, w.donor c.service = some d → ∃ q', Exec w (scaleDown ctx d 1).run rest w' q' ∧
        (q' = .done (.ok ()) → q = .done (.ok true)) ∧
        (∀ e, q' = .done (.error e) → q = .done (.ok false)) ∧
        ∀ x, q = .done x → ∃ r, q' = .done r := by
  unfold freeUp at h
  obtain ⟨rest, rfl, hasked⟩ := Exec.run_lift_call_bind_iff.mp h
  refine ⟨rest, rfl, ?_⟩
  -- asking for a donor leaves the world as it is
  change Exec w _ rest w' q at hasked
  generalize hdonor : (w.perform (.donor c.service)).2 = donor at hasked
  rw [show w.donor c.service = donor from hdonor]
  cases donor with
  | none =>
    obtain ⟨rfl, -, rfl⟩ := Exec.run_pure_iff.mp hasked
    exact ⟨fun _ => ⟨rfl, rfl⟩, fun d hd => by cases hd⟩
  | some d =>
    obtain ⟨q', hd, hdone, hended⟩ := Exec.of_run_lift_bind_pure hasked
    refine ⟨fun h => (by cases h), fun d' hd' => ?_⟩
    obtain rfl := Option.some.inj hd'
    exact ⟨q', hd, hdone _, fun e => hdone _, hended⟩

/-- A request for room never fails: when it ends, it answers whether room was made. -/
theorem freeUp_ends_ok {c : ControllerRef} {q : Prog (Outcome Bool)}
    (h : Exec w (freeUp ctx c).run es w' q) {x : Outcome Bool} (hq : q = .done x) :
    ∃ b, x = .ok b := by
  obtain ⟨_, _, hnone, hsome⟩ := freeUp_runs ctx h
  cases hd : w.donor c.service with
  | none =>
    rw [(hnone hd).2] at hq
    exact ⟨false, (Prog.done.inj hq).symm⟩
  | some d =>
    obtain ⟨q', -, hgranted, hrefused, hended⟩ := hsome d hd
    obtain ⟨r, hr⟩ := hended _ hq
    rcases r with e | ⟨⟩
    · rw [hrefused e hr] at hq
      exact ⟨false, (Prog.done.inj hq).symm⟩
    · rw [hgranted hr] at hq
      exact ⟨true, (Prog.done.inj hq).symm⟩

/-- A request for room followed by more: the run stops in the request, or the request answers
and the run goes on with the answer. -/
theorem freeUp_bind_runs {β : Type} {c : ControllerRef} {g : Bool → Attempt β}
    {q : Prog (Outcome β)} (h : Exec w (freeUp ctx c >>= g).run es w' q) :
    (∃ (r : Request) (k : r.Reply → Prog (Outcome Bool)),
        Exec w (freeUp ctx c).run es w' (.ask r k) ∧ ∀ y, q ≠ .done y) ∨
      ∃ b es₁ es₂ w₁, es = es₁ ++ es₂ ∧ Exec w (freeUp ctx c).run es₁ w₁ (.done (.ok b)) ∧
        Exec w₁ (g b).run es₂ w' q := by
  rcases Exec.of_run_bind h with ⟨r, k, hx, rfl⟩ | ⟨e, hx, -⟩ | ⟨b, es₁, es₂, w₁, rfl, hx, hg⟩
  · exact .inl ⟨r, k, hx, fun y hy => by cases hy⟩
  · obtain ⟨b, hb⟩ := freeUp_ends_ok ctx hx rfl
    cases hb
  · exact .inr ⟨b, es₁, es₂, w₁, rfl, hx, hg⟩

/-- A granted request for room is the named donor's scale-down of one instance, gone
through. -/
theorem freeUp_granted {c : ControllerRef} (h : Exec w (freeUp ctx c).run es w' (.done (.ok true))) :
    ∃ d s, w.donor c.service = some d ∧
      es = ⟨.call (.donor c.service), some d⟩ :: scaleDownDone ctx d 1 s := by
  obtain ⟨rest, rfl, hnone, hsome⟩ := freeUp_runs ctx h
  cases hd : w.donor c.service with
  | none => cases (hnone hd).2
  | some d =>
    obtain ⟨q', hdown, -, hrefused, hended⟩ := hsome d hd
    obtain ⟨r, hr⟩ := hended _ rfl
    rcases scaleDown_runs ctx hdown with ⟨s, rfl, -⟩ | ⟨-, hbad⟩
    · exact ⟨d, s, rfl, rfl⟩
    · -- a scale-down that did not end well leaves the request refused
      rcases r with e | ⟨⟩
      · cases hrefused e hr
      · exact absurd hr hbad

/-- A request for room that is not granted starts no backoff. -/
theorem freeUp_backoffs_of_ne {c : ControllerRef} {q : Prog (Outcome Bool)}
    (h : Exec w (freeUp ctx c).run es w' q) (hq : q ≠ .done (.ok true)) : backoffs es = [] := by
  obtain ⟨rest, rfl, hnone, hsome⟩ := freeUp_runs ctx h
  show backoffs rest = []
  cases hd : w.donor c.service with
  | none => rw [(hnone hd).1]; rfl
  | some d =>
    obtain ⟨q', hdown, hgranted, -, -⟩ := hsome d hd
    rcases scaleDown_runs ctx hdown with ⟨-, -, hok⟩ | ⟨hquiet, -⟩
    · exact absurd (hgranted hok) hq
    · exact hquiet

/-- A request for room made by `c` asks the world once for a donor, which changes nothing.
There is none when the requester has no record, when no service qualifies, or when no
controller answers for the service the governor chose; the request is then refused at once.
Otherwise the donor is the controller of a service that is a `DonorFor` the requester, and
the rest of the run is that controller's own scale-down of one instance, the one command of
the request; the request is granted exactly when that scale-down goes through. It never
fails. -/
theorem freeUp_asks_one_donor {c : ControllerRef} {q : Prog (Outcome Bool)}
    (h : Exec w (freeUp ctx c).run es w' q) :
    (w.perform (.donor c.service)).1 = w ∧
    ∃ rest, es = ⟨.call (.donor c.service), w.donor c.service⟩ :: rest ∧
      (w.donor c.service = none ↔ w.governor.relativeDifference c.service = none ∨
        (∃ mine, w.governor.relativeDifference c.service = some mine ∧
          ∀ o r, (o, r) ∈ w.governor.records → ¬ w.governor.Qualifies c.service mine o r) ∨
        ∃ o, w.governor.pickDonor c.service = some o ∧
          (w.governor.donors.get? o).bind w.controllerRef = none) ∧
      (w.donor c.service = none → rest = [] ∧ q = .done (.ok false)) ∧
      (∀ d, w.donor c.service = some d →
        (∃ o i, w.governor.DonorFor c.service o ∧ w.governor.donors.get? o = some i ∧
          w.controllerRef i = some d) ∧
        (∃ q', Exec w (scaleDown ctx d 1).run rest w' q') ∧
        commands rest = [(d.service, .down 1)] ∧
        (q = .done (.ok true) ↔ ∃ s, rest = scaleDownDone ctx d 1 s)) ∧
      ∀ e, q ≠ .done (.error e) := by
  obtain ⟨rest, rfl, hnone, hsome⟩ := freeUp_runs ctx h
  refine ⟨rfl, rest, rfl, ?_, hnone, fun d hd => ?_, fun e he => ?_⟩
  · rw [World.donor_eq_none_iff, Governor.pickDonor_eq_none_iff, or_assoc]
  · obtain ⟨q', hdown, hgranted, -, -⟩ := hsome d hd
    obtain ⟨o, i, hpick, hi, hd'⟩ := World.donor_eq_some_iff.mp hd
    refine ⟨⟨o, i, w.governor.pickDonor_eq_some hpick, hi, hd'⟩, ⟨q', hdown⟩,
      (scaleDown_sends ctx hdown).1, ⟨fun hq => ?_, fun ⟨s, hs⟩ => ?_⟩⟩
    · -- granted: the donor's scale-down went through
      subst hq
      obtain ⟨d', s, hd'', hes⟩ := freeUp_granted ctx h
      obtain rfl : d' = d := Option.some.inj (hd''.symm.trans hd)
      exact ⟨s, (List.cons.inj hes).2⟩
    · -- a scale-down that went through started a backoff, so it ended well
      rcases scaleDown_runs ctx hdown with ⟨-, -, hok⟩ | ⟨hquiet, -⟩
      · exact hgranted hok
      · rw [hs, backoffs_scaleDownDone] at hquiet
        cases hquiet
  · obtain ⟨b, hb⟩ := freeUp_ends_ok ctx h he
    cases hb

/-- In `crowdedWorld` "svc" has two instances and wants three, and "other" has the three it
wants, more than its minimum: a request for room by "svc" names the controller of "other",
whose scale-down of one instance goes through. -/
theorem crowded_request_for_room_granted :
    ∃ rest w', Exec crowdedWorld (freeUp crowdedWorld.ctx ⟨0, "svc", 0⟩).run
        (⟨.call (.donor "svc"), crowdedWorld.donor "svc"⟩ :: rest) w' (.done (.ok true)) ∧
      crowdedWorld.donor "svc" = some ⟨1, "other", 1⟩ ∧
      crowdedWorld.governor.DonorFor "svc" "other" ∧ commands rest = [("other", .down 1)] ∧
      ∃ s, rest = scaleDownDone crowdedWorld.ctx ⟨1, "other", 1⟩ 1 s := by
  -- the donor is named, takes the command, settles, reads and records its instances
  have hrun : ∃ rest w', Exec crowdedWorld (freeUp crowdedWorld.ctx ⟨0, "svc", 0⟩).run
      (⟨.call (.donor "svc"), crowdedWorld.donor "svc"⟩ :: rest) w' (.done (.ok true)) :=
    ⟨_, _, .call (.call (.wait_unchanged (Request.sleep_waits 1 1) true
      (.call (.call (.call (.done _ _))))))⟩
  obtain ⟨rest, w', hrun⟩ := hrun
  have hd : crowdedWorld.donor "svc" = some ⟨1, "other", 1⟩ := rfl
  obtain ⟨-, rest', hes, -, -, hsome, -⟩ := freeUp_asks_one_donor crowdedWorld.ctx hrun
  obtain rfl : rest = rest' := (List.cons.inj hes).2
  obtain ⟨⟨o, i, hfor, hi, -⟩, -, hcommands, hgranted⟩ := hsome _ hd
  -- "other" is the one service listening for requests
  have ho : o = "other" := by
    by_contra hne
    rw [show crowdedWorld.governor.donors = [("other", 1)] from rfl, Keyed.get?_cons,
      if_neg (Ne.symm hne)] at hi
    cases hi
  subst ho
  exact ⟨rest, w', hrun, hd, hfor, hcommands, hgranted.mp rfl⟩

end ScaleControl
