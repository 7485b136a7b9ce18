import Mathlib
import ScaleControl.Proofs.ConvergenceWait
/-!
# When a controller starts backing off

A controller starts its backoff at the very end of an operation that went through, and
nowhere else. Of the calls a program makes, only counting a tick and starting a backoff touch
a controller's backoff, and starting one restarts it whatever it was
(`World.backoffOf_perform`, `World.backoffOf_enterBackoff`). The exchanges of a run that
start a backoff are its `backoffs`.

A scale-down, whoever asks for it (its controller's tick, when shedding or carrying out a
verdict, or another controller in need of room), starts the backoff exactly when the platform
took the command, the settle delay ran its course and the instances were read
(`scaleDown_runs`). A scale-up starts it exactly when the platform took the command and the
wait for convergence ended well; before that, only the donors that gave up an instance start
theirs (`scaleUp_runs`, `Course.backoffs_exchanges`). A tick carries out at most one
operation, at its end, after exchanges that start no backoff (`CarriesOut`,
`tick_carries_out`), and a verdict that changes nothing is carried out by no exchange at all.
-/
namespace ScaleControl

/-! ### The backoff in the world -/

namespace World

/-- The backoff of controller `i`, if there is such a controller. -/
def backoffOf (w : World) (i : Nat) : Option Backoff := (w.controllers[i]?).map (·.backoff)

variable (w : World) {i : Nat}

theorem backoffOf_modify_of_ne {j : Nat} (f : Controller → Controller) (hj : j ≠ i) :
    { w with controllers := w.controllers.modify j f }.backoffOf i = w.backoffOf i := by
  simp only [backoffOf, Array.getElem?_modify, if_neg hj]

theorem backoffOf_modify_of_backoff {j : Nat} {f : Controller → Controller}
    (hf : ∀ c, (f c).backoff = c.backoff) :
    { w with controllers := w.controllers.modify j f }.backoffOf i = w.backoffOf i := by
  simp only [backoffOf, Array.getElem?_modify]
  split
  · rw [Option.map_map]
    exact Option.map_congr fun c _ => hf c
  · rfl

/-- Of the calls other than a refresh of the inventory, only counting a tick of controller `i`
and starting its backoff touch its backoff. -/
theorem backoffOf_perform {call : Call} (hrefresh : call ≠ .refresh)
    (hskip : call ≠ .skipTick i) (henter : ∀ op, call ≠ .enterBackoff i op) :
    (w.perform call).1.backoffOf i = w.backoffOf i := by
  cases call with
  | skipTick j =>
    have hj : j ≠ i := fun h => hskip (h ▸ rfl)
    simp only [perform, skipTick]
    split
    · rfl
    · split
      · exact backoffOf_modify_of_ne w _ hj
      · rfl
  | analyse j s =>
    simp only [perform, analyse]
    split
    · rfl
    · exact backoffOf_modify_of_backoff w fun _ => rfl
  | enterBackoff j op =>
    have hj : j ≠ i := fun h => henter op (h ▸ rfl)
    exact backoffOf_modify_of_ne w _ hj
  | scaleUp service n =>
    simp only [perform, scaleUp]
    split <;> rfl
  | scaleDown service n =>
    simp only [perform, scaleDown]
    split <;> rfl
  | refresh => exact absurd rfl hrefresh
  | reading | instances | warning | alert | record | govern | donor => rfl

/-- Starting a backoff restarts it, whatever it was. -/
theorem backoffOf_enterBackoff (op : Operation) :
    (w.perform (.enterBackoff i op)).1.backoffOf i = (w.backoffOf i).map fun _ => ⟨some op, 0⟩ := by
  simp only [perform, enterBackoff, backoffOf, Array.getElem?_modify, ite_true, Option.map_map]
  rfl

end World

/-! ### Runs that start no backoff -/

theorem Exchange.Alerting.backoff?_eq_none {e : Exchange} (h : e.Alerting) : e.backoff? = none := by
  obtain ⟨r, x⟩ := e
  cases r with
  | call c' => cases c' <;> first | rfl | exact absurd h id
  | _ => rfl

theorem backoffs_of_alerting {es : List Exchange} (h : ∀ e ∈ es, e.Alerting) : backoffs es = [] :=
  List.filterMap_eq_nil_iff.mpr fun e he => (h e he).backoff?_eq_none

@[simp] theorem backoffs_pollExchanges (c : ControllerRef) (d : Nat) (s : Snapshot) :
    backoffs (pollExchanges c d s) = [] := rfl

theorem backoffs_polled (c : ControllerRef) : ∀ ds ss, backoffs (polled c ds ss) = []
  | d :: ds, s :: ss => by
    rw [polled, backoffs_append, backoffs_pollExchanges, backoffs_polled c ds ss]
    rfl
  | [], _ => rfl
  | _ :: _, [] => rfl

theorem RoundEnd.backoffs_exchanges (c : ControllerRef) (d : Nat) (e : RoundEnd) :
    backoffs (e.exchanges c d) = [] := by
  cases e <;> rfl

theorem Round.backoffs_exchanges {n : Nat} (r : Round n) (c : ControllerRef) (ds : List Nat) :
    backoffs (r.exchanges c ds) = [] := by
  rw [Round.exchanges, backoffs_append, backoffs_polled, RoundEnd.backoffs_exchanges]
  rfl

variable (ctx : Context) {w w' : World} {es : List Exchange} {c : ControllerRef}

/-! ### The backoffs of a wait for convergence -/

/-- A round after which room was granted ends with the request: the named donor's scale-down
of one instance, gone through. -/
theorem Turn.request_eq (t : Turn ctx c) :
    ∃ d s, t.request = ⟨.call (.donor c.service), some d⟩ :: scaleDownDone ctx d 1 s := by
  obtain ⟨w₁, w₂, hgranted⟩ := t.granted
  obtain ⟨d, s, -, hreq⟩ := freeUp_granted ctx hgranted
  exact ⟨d, s, hreq⟩

/-- The last request for room of a wait, refused or under way, starts no backoff. -/
theorem RoomRequest.backoffs_exchanges (req : RoomRequest ctx c) : backoffs req.exchanges = [] := by
  cases req with
  | none => rfl
  | refused f h =>
    obtain ⟨w₁, w₂, hrun⟩ := h
    exact freeUp_backoffs_of_ne ctx hrun fun h => by cases h
  | underway f h =>
    obtain ⟨w₁, w₂, r, k, hrun⟩ := h
    exact freeUp_backoffs_of_ne ctx hrun fun h => by cases h

/-- The rounds after which room was granted start one backoff each: the donor's, after its
scale-down. -/
theorem backoffs_turns (ds : List Nat) :
    ∀ turns : List (Turn ctx c), ∃ donors : List ControllerRef,
      donors.length = turns.length ∧
      backoffs (turns.flatMap fun t => polled c ds t.polls ++ t.request) =
        donors.map (fun d => (d.index, .scaleDown)) ∧
      ∀ d ∈ donors, (⟨.call (.donor c.service), some d⟩ : Exchange) ∈
        turns.flatMap fun t => polled c ds t.polls ++ t.request
  | [] => ⟨[], rfl, rfl, fun _ h => by cases h⟩
  | t :: turns => by
    obtain ⟨d, s, hreq⟩ := t.request_eq ctx
    obtain ⟨donors, hlen, hbackoffs, hnamed⟩ := backoffs_turns ds turns
    refine ⟨d :: donors, by rw [List.length_cons, List.length_cons, hlen], ?_, fun d' hd' => ?_⟩
    · rw [List.flatMap_cons, backoffs_append, backoffs_append, backoffs_polled, hreq, hbackoffs]
      rfl
    · rw [List.flatMap_cons]
      rcases List.mem_cons.mp hd' with rfl | hd'
      · exact List.mem_append_left _ (List.mem_append_right _ (hreq ▸ List.mem_cons_self ..))
      · exact List.mem_append_right _ (hnamed d' hd')

/-- A wait starts no backoff of its own: only the donors that gave up an instance start theirs,
one for each request for room that was granted. -/
theorem Course.backoffs_exchanges {left : Nat} (k : Course ctx c left) :
    ∃ donors : List ControllerRef, donors.length = k.turns.length ∧
      backoffs k.exchanges = donors.map (fun d => (d.index, .scaleDown)) ∧
      ∀ d ∈ donors, (⟨.call (.donor c.service), some d⟩ : Exchange) ∈ k.exchanges := by
  obtain ⟨donors, hlen, hbackoffs, hnamed⟩ := backoffs_turns ctx ctx.convergence.roundDelays k.turns
  refine ⟨donors, hlen, ?_, fun d hd => ?_⟩
  · rw [Course.exchanges, backoffs_append, backoffs_append, hbackoffs, Round.backoffs_exchanges,
      RoomRequest.backoffs_exchanges, List.append_nil, List.append_nil]
  · exact List.mem_append_left _ (List.mem_append_left _ (hnamed d hd))

/-! ### Operations -/

open Attempt

/-- A run of `x` followed by `pure ()` is a run of `x`, ending as `x` does. -/
theorem Exec.of_run_bind_pure_unit {x : Attempt Unit} {q : Prog (Outcome Unit)}
    (h : Exec w (x >>= fun _ => pure ()).run es w' q) :
    ∃ q₁, Exec w x.run es w' q₁ ∧ ∀ y, q = .done y ↔ q₁ = .done y := by
  rcases Exec.of_run_bind h with ⟨r, k, hx, rfl⟩ | ⟨e, hx, rfl⟩ | ⟨a, es₁, es₂, w₁, rfl, hx, hf⟩
  · exact ⟨_, hx, fun y => iff_of_false (fun h => by cases h) (fun h => by cases h)⟩
  · exact ⟨_, hx, fun y => Iff.rfl⟩
  · obtain ⟨rfl, rfl, rfl⟩ := Exec.run_pure_iff.mp hf
    rw [List.append_nil]
    exact ⟨_, hx, fun y => Iff.rfl⟩

/-- A scale-up sends its command. When the platform takes it, the wait for convergence
follows, and the backoff starts after it exactly when the wait ends well; otherwise the run
ends, or stands, as the wait does. -/
theorem scaleUp_runs {n : UInt32} {q : Prog (Outcome Unit)}
    (h : Exec w (scaleUp ctx c n).run es w' q) :
    ∃ sent rest, es = ⟨.call (.scaleUp c.service n), sent⟩ :: rest ∧
      (∀ e, sent = .error e → rest = [] ∧ q = .done (.error e)) ∧
      (sent = .ok () → ∃ (k : Course ctx c ctx.convergence.maxCapacityRequests) (tail : List Exchange),
        rest = k.exchanges ++ tail ∧
        (k.result = some (.ok ()) →
          tail = [⟨.call (.enterBackoff c.index .scaleUp), ()⟩] ∧ q = .done (.ok ())) ∧
        (k.result ≠ some (.ok ()) → tail = [] ∧ ∀ x, q = .done x ↔ k.result = some x)) := by
  unfold scaleUp at h
  rw [Exec.run_bind_eq] at h
  obtain ⟨rest, rfl, hsent⟩ := Exec.call_bind_iff.mp h
  refine ⟨_, rest, rfl, fun e he => (Exec.of_bindCont hsent).1 e he, fun hok => ?_⟩
  have hwait := (Exec.of_bindCont hsent).2 () hok
  rcases Exec.of_run_bind hwait with ⟨r, k, hx, rfl⟩ | ⟨e, hx, rfl⟩ | ⟨a, es₁, es₂, w₁, rfl, hx, hf⟩
  · -- the run stands inside the wait, which has not answered
    obtain ⟨k, rfl, hresult⟩ := awaitConvergence_course ctx _ hx
    have hnone : k.result = none := by
      cases hk : k.result with
      | none => rfl
      | some x => cases (hresult x).mpr hk
    refine ⟨k, [], (List.append_nil _).symm, fun hk => ?_, fun _ => ⟨rfl, fun x => ?_⟩⟩
    · rw [hnone] at hk
      cases hk
    · rw [hnone]
      exact iff_of_false (fun h => by cases h) (fun h => by cases h)
  · obtain ⟨k, rfl, hresult⟩ := awaitConvergence_course ctx _ hx
    have hfailed := (hresult _).mp rfl
    refine ⟨k, [], (List.append_nil _).symm, fun hk => ?_, fun _ => ⟨rfl, fun x => ?_⟩⟩
    · rw [hfailed] at hk
      cases hk
    · rw [hfailed, Prog.done.injEq, Option.some.injEq]
  · -- the wait ended well: the backoff starts
    obtain ⟨k, rfl, hresult⟩ := awaitConvergence_course ctx _ hx
    have hdone := (hresult _).mp rfl
    change Exec w₁ (.ask (.call (.enterBackoff c.index .scaleUp)) fun x => .done (.ok x)) es₂ w' q
      at hf
    obtain ⟨es₃, rfl, hentered⟩ := Exec.call_iff.mp hf
    obtain ⟨rfl, -, rfl⟩ := Exec.done_iff.mp hentered
    exact ⟨k, _, rfl, fun _ => ⟨rfl, rfl⟩, fun hne => absurd hdone hne⟩

/-- A verdict that changes nothing is carried out by no exchange; any other is the scale-up or
the scale-down it names. -/
theorem apply_runs {g : Action} {q : Prog (Outcome Unit)} (h : Exec w (apply ctx c g).run es w' q) :
    (g.isNoOp = true → es = [] ∧ q = .done (.ok ())) ∧
      (g.isNoOp = false → g.operation = .scaleUp → Exec w (scaleUp ctx c g.amount).run es w' q) ∧
      (g.isNoOp = false → g.operation = .scaleDown →
        Exec w (scaleDown ctx c g.amount).run es w' q) := by
  obtain ⟨op, n⟩ := g
  unfold apply at h
  refine ⟨fun hnoop => ?_, fun hnoop hop => ?_, fun hnoop hop => ?_⟩
  · rw [if_pos hnoop] at h
    obtain ⟨rfl, -, rfl⟩ := Exec.run_pure_iff.mp h
    exact ⟨rfl, rfl⟩
  · rw [if_neg (by rw [hnoop]; exact Bool.false_ne_true)] at h
    subst hop
    exact h
  · rw [if_neg (by rw [hnoop]; exact Bool.false_ne_true)] at h
    subst hop
    exact h

/-! ### What a tick carries out -/

/-- A run that carries out at most one operation of controller `c`, at its end: after exchanges
that start no backoff, either nothing more, or a scale-down of `c` (ending as the run does), or
the verdict `g` of the governor, the last of those exchanges, carried out. -/
def CarriesOut (c : ControllerRef) (es : List Exchange) (q : Prog (Outcome Unit)) : Prop :=
  ∃ pre rest, es = pre ++ rest ∧ backoffs pre = [] ∧
    (rest = [] ∨
      (∃ n w₁ w₂ q₁, Exec w₁ (scaleDown ctx c n).run rest w₂ q₁ ∧
        ∀ x, q = .done x ↔ q₁ = .done x) ∨
      ∃ pre' r stages g w₁ w₂,
        pre = pre' ++ [⟨.call (.govern c.service r stages), (.ok g : Outcome Action)⟩] ∧
        Exec w₁ (apply ctx c g).run rest w₂ q)

namespace CarriesOut

variable {q : Prog (Outcome Unit)}

theorem of_quiet (h : backoffs es = []) : CarriesOut ctx c es q :=
  ⟨es, [], (List.append_nil es).symm, h, .inl rfl⟩

/-- Exchanges that start no backoff may come first. -/
theorem prepend {pre₀ : List Exchange} (h₀ : backoffs pre₀ = []) (h : CarriesOut ctx c es q) :
    CarriesOut ctx c (pre₀ ++ es) q := by
  obtain ⟨pre, rest, rfl, hpre, hrest⟩ := h
  refine ⟨pre₀ ++ pre, rest, (List.append_assoc ..).symm, by rw [backoffs_append, h₀, hpre]; rfl, ?_⟩
  rcases hrest with hnil | hdown | ⟨pre', r, stages, g, w₁, w₂, rfl, happly⟩
  · exact .inl hnil
  · exact .inr (.inl hdown)
  · exact .inr (.inr ⟨pre₀ ++ pre', r, stages, g, w₁, w₂, (List.append_assoc ..).symm, happly⟩)

end CarriesOut

variable {stages : Stages} {s : Snapshot}

/-- The analysis path carries out the governor's verdict, if there is one. -/
theorem analysisPath_carries_out {q : Prog (Outcome Unit)}
    (h : Exec w (analysisPath ctx c stages s).run es w' q) : CarriesOut ctx c es q := by
  obtain ⟨an, more, rfl, hfailed, hoverflow, hasked⟩ := analysisPath_exec ctx h
  cases an with
  | failed e =>
    rw [(hfailed e rfl).1]
    exact .of_quiet ctx rfl
  | overflow =>
    rw [hoverflow rfl]
    exact .of_quiet ctx rfl
  | action r =>
    obtain ⟨w₁, more', rfl, herror, hgiven⟩ := hasked r rfl
    cases hverdict : ((w.governor.record c.service s).govern c.service r stages).2 with
    | error e =>
      rw [(herror e hverdict).1]
      exact .of_quiet ctx rfl
    | ok g =>
      exact ⟨_, more', rfl, rfl,
        .inr (.inr ⟨[_, _], r, stages, g, w₁, w', rfl, hgiven g hverdict⟩)⟩

/-- A tick that does not get past its opening starts no backoff. -/
theorem tick_reaches_opening {q : Prog (Outcome Unit)} (h : Exec w (tick ctx c).run es w' q) :
    backoffs es = [] ∨ ∃ u s rest, es = tickOpening c u s ++ rest := by
  unfold tick at h
  obtain ⟨es₁, rfl, hgo⟩ := Exec.run_lift_call_bind_iff.mp h
  generalize (w.perform (.skipTick c.index)).2 = skip at hgo ⊢
  rcases skip with _ | _ | _
  · -- an overflowing count crashes the task, and a crash is never answered
    have hcrash : (Request.crash "attempt to add with overflow").Waits := fun _ h => by cases h
    rcases (Exec.wait_iff hcrash).mp hgo with ⟨rfl, -, -⟩ | ⟨x, -, -, -, -⟩
    · exact .inl rfl
    · exact x.elim
  · change Exec _ (analyse ctx c).run es₁ w' q at hgo
    unfold analyse at hgo
    rw [Exec.run_bind_eq] at hgo
    obtain ⟨es₂, rfl, hread⟩ := Exec.call_bind_iff.mp hgo
    generalize (World.perform _ .reading).2 = reading at hread ⊢
    rcases reading with e | u
    · obtain ⟨rfl, -⟩ := (Exec.of_bindCont hread).1 e rfl
      exact .inl rfl
    obtain ⟨es₃, rfl, hfailed, -⟩ := Exec.of_instances_bind ((Exec.of_bindCont hread).2 u rfl)
    generalize (World.perform _ (.instances c.service)).2 = read at hfailed ⊢
    rcases read with e | s
    · obtain ⟨rfl, -⟩ := hfailed e rfl
      exact .inl rfl
    · exact .inr ⟨u, s, es₃, rfl⟩
  · obtain ⟨rfl, -, -⟩ := Exec.run_pure_iff.mp hgo
    exact .inl rfl

/-- A tick carries out at most one operation, at its end: the shedding scale-down, or the
governor's verdict. -/
theorem tick_carries_out {q : Prog (Outcome Unit)} (h : Exec w (tick ctx c).run es w' q) :
    CarriesOut ctx c es q := by
  rcases tick_reaches_opening ctx h with hquiet | ⟨u, s, rest, rfl⟩
  · exact .of_quiet ctx hquiet
  obtain ⟨w₁, -, hopted, hrelieve⟩ := tick_opening ctx h
  refine CarriesOut.prepend ctx rfl ?_
  cases hopt : s.optedOut with
  | true => exact analysisPath_carries_out ctx (hopted hopt)
  | false =>
    obtain ⟨alerts, w₂, es', rfl, halerting, -, -, hshed⟩ :=
      relievePressure_bind_exec ctx (hrelieve hopt)
    refine CarriesOut.prepend ctx (backoffs_of_alerting halerting) ?_
    cases hcover : ctx.monitoring.thresholds.shouldShed (ctx.monitoring.classify u).highest
        s.priority with
    | false => exact analysisPath_carries_out ctx (shedding_bind_of_kept ctx hcover hshed)
    | true =>
      by_cases hempty : s.total = 0
      · -- an empty service is only recorded
        obtain ⟨es'', rfl, hdone⟩ := shedding_bind_of_empty ctx hcover hempty hshed
        obtain ⟨rfl, -, -⟩ := Exec.run_pure_iff.mp hdone
        exact .of_quiet ctx rfl
      · -- any other is scaled down by all its instances, and the tick ends with that
        obtain ⟨q₁, hdown, hq⟩ := Exec.of_run_bind_pure_unit
          (shedding_bind_of_running ctx hcover hempty hshed)
        exact ⟨[], es', rfl, rfl, .inr (.inl ⟨s.total, w₂, w', q₁, hdown, hq⟩)⟩

/-! ### Backing off after an operation that went through -/

/-- Controller `c` starts backing off only at the end of an operation that went through. Only
counting a tick and starting a backoff touch a controller's backoff, and starting one restarts
it. A scale-down, asked for by a tick or by another controller in need of room, starts the
backoff exactly when the platform takes the command, the settle delay runs its course and the
instances are read, and otherwise starts none. A scale-up starts it exactly when the platform
takes the command and the wait for convergence ends well; the wait itself starts only the
backoffs of the donors that gave up an instance, one for each request granted. A tick carries
out at most one operation, at its end, after exchanges that start no backoff, and a verdict
that changes nothing is carried out by no exchange at all. -/
theorem backoff_follows_success :
    (∀ (w : World) (i : Nat) (call : Call), call ≠ .refresh → call ≠ .skipTick i →
        (∀ op, call ≠ .enterBackoff i op) → (w.perform call).1.backoffOf i = w.backoffOf i) ∧
      (∀ (w : World) (i : Nat) (op : Operation),
        (w.perform (.enterBackoff i op)).1.backoffOf i = (w.backoffOf i).map fun _ => ⟨some op, 0⟩) ∧
      (∀ {w w' : World} {es : List Exchange} {q : Prog (Outcome Unit)} (n : UInt32),
        Exec w (scaleDown ctx c n).run es w' q →
          (∃ s, es = scaleDownDone ctx c n s ∧ q = .done (.ok ())) ∨
            (backoffs es = [] ∧ q ≠ .done (.ok ()))) ∧
      (∀ {w w' : World} {es : List Exchange} {q : Prog (Outcome Unit)} (n : UInt32),
        Exec w (scaleUp ctx c n).run es w' q →
          ∃ sent rest, es = ⟨.call (.scaleUp c.service n), sent⟩ :: rest ∧
            (∀ e, sent = .error e → rest = []) ∧
            (sent = .ok () → ∃ (k : Course ctx c ctx.convergence.maxCapacityRequests)
                (tail : List Exchange),
              rest = k.exchanges ++ tail ∧
              (tail = [⟨.call (.enterBackoff c.index .scaleUp), ()⟩] ↔ k.result = some (.ok ())) ∧
              (k.result ≠ some (.ok ()) → tail = []) ∧
              ∃ donors : List ControllerRef, donors.length = k.turns.length ∧
                backoffs k.exchanges = donors.map (fun d => (d.index, .scaleDown)) ∧
                ∀ d ∈ donors, (⟨.call (.donor c.service), some d⟩ : Exchange) ∈ k.exchanges)) ∧
      (∀ {w w' : World} {es : List Exchange} {q : Prog (Outcome Unit)},
        Exec w (tick ctx c).run es w' q → CarriesOut ctx c es q) ∧
      ∀ {w w' : World} {es : List Exchange} {q : Prog (Outcome Unit)} (g : Action),
        Exec w (apply ctx c g).run es w' q →
          (g.isNoOp = true → es = [] ∧ q = .done (.ok ())) ∧
          (g.isNoOp = false → g.operation = .scaleUp → Exec w (scaleUp ctx c g.amount).run es w' q) ∧
          (g.isNoOp = false → g.operation = .scaleDown →
            Exec w (scaleDown ctx c g.amount).run es w' q) := by
  refine ⟨fun w _ _ => w.backoffOf_perform, fun w _ op => w.backoffOf_enterBackoff op,
    fun _ h => scaleDown_runs ctx h, fun _ h => ?_, fun h => tick_carries_out ctx h,
    fun _ h => apply_runs ctx h⟩
  obtain ⟨sent, rest, rfl, hfailed, hsent⟩ := scaleUp_runs ctx h
  refine ⟨sent, rest, rfl, fun e he => (hfailed e he).1, fun hok => ?_⟩
  obtain ⟨k, tail, rfl, hwell, hbad⟩ := hsent hok
  -- the backoff is started exactly when the wait ended well
  have hentered : tail = [⟨.call (.enterBackoff c.index .scaleUp), ()⟩] ↔ k.result = some (.ok ()) := by
    constructor
    · intro htail
      by_contra hne
      rw [(hbad hne).1] at htail
      cases htail
    · exact fun hk => (hwell hk).1
  exact ⟨k, tail, rfl, hentered, fun hne => (hbad hne).1, k.backoffs_exchanges ctx⟩

/-- In `idleWorld` a scale-down of its service by one goes through and starts the service's
backoff. -/
theorem idle_scale_down_backs_off :
    ∃ es w', Exec idleWorld (scaleDown idleWorld.ctx ⟨0, "svc", 0⟩ 1).run es w' (.done (.ok ())) ∧
      backoffs es = [(0, .scaleDown)] := by
  have hwaits : (Request.sleep 0 1).Waits := fun _ h => by cases h
  -- the platform takes the command, the settle delay runs its course, the instances are read
  have hrun : ∃ es w', Exec idleWorld (scaleDown idleWorld.ctx ⟨0, "svc", 0⟩ 1).run es w'
      (.done (.ok ())) :=
    ⟨_, _, .call (@Exec.wait _ _ idleWorld _ (.sleep 0 1) _ true _ _ hwaits
      (.call (.call (.call (.done _ _)))))⟩
  obtain ⟨es, w', hrun⟩ := hrun
  rcases (backoff_follows_success idleWorld.ctx).2.2.1 1 hrun with ⟨s, rfl, -⟩ | ⟨-, hbad⟩
  · exact ⟨_, w', hrun, rfl⟩
  · exact absurd rfl hbad

end ScaleControl
