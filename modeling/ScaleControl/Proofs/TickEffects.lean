import Mathlib
import ScaleControl.Proofs.Runs
import ScaleControl.Proofs.Arbitration
/-!
# What a tick asks of the world

The exchanges of a controller's tick, on every run. A tick that goes ahead reads the
resource pressure and its service's snapshot, then either sheds the service (one scale-down
of all its instances, after the due alerts) or records the snapshot with the governor, asks
its analyser for an action and carries out the governor's verdict on it.

The commands of a run are the platform calls in it that change a service's instances. A
tick sends at most one command for its own service, the governor's verdict on the snapshot
it has just recorded; the only other commands are single-instance scale-downs of donors,
asked for while a scale-up waits for room.

Each function of a tick gets one lemma saying what its runs are; the two main theorems are
put together from those.
-/
namespace ScaleControl

namespace Exchange

/-- The service and action of an exchange that changes a service's instances. -/
def command? : Exchange → Option (String × Action)
  | ⟨.call (.scaleUp service n), _⟩ => some (service, .up n)
  | ⟨.call (.scaleDown service n), _⟩ => some (service, .down n)
  | _ => none

/-- The category of the alert an exchange asks the alerter to send. -/
def alert? : Exchange → Option Category
  | ⟨.call (.alert category _), _⟩ => some category
  | _ => none

/-- An exchange that is part of an alert: its wording by the analyser, or its dispatch. -/
def Alerting : Exchange → Prop
  | ⟨.call (.warning _ _ _), _⟩ => True
  | ⟨.call (.alert _ _), _⟩ => True
  | _ => False

/-- An exchange that neither changes a service's instances nor asks for an alert. -/
def Inert (e : Exchange) : Prop := e.command? = none ∧ e.alert? = none

/-- An exchange of controller `c` while its instances settle: a sleep on its token, a read
or a record of its instances, or the start of its backoff. -/
def Settles (c : ControllerRef) : Exchange → Prop
  | ⟨.sleep token _, _⟩ => token = c.token
  | ⟨.call (.instances service), _⟩ => service = c.service
  | ⟨.call (.record service _), _⟩ => service = c.service
  | ⟨.call (.enterBackoff i _), _⟩ => i = c.index
  | _ => False

theorem Settles.inert {c : ControllerRef} {e : Exchange} (h : e.Settles c) : e.Inert := by
  obtain ⟨r, x⟩ := e
  cases r with
  | call c' =>
    cases c' <;> first | exact ⟨rfl, rfl⟩ | exact absurd h id
  | sleep => exact ⟨rfl, rfl⟩
  | pause => exact absurd h id
  | join => exact absurd h id
  | crash => exact absurd h id

/-- An exchange in which the analyser is asked for an action, or the governor for a verdict. -/
def Analysing : Exchange → Prop
  | ⟨.call (.analyse _ _), _⟩ => True
  | ⟨.call (.govern _ _ _), _⟩ => True
  | _ => False

theorem Settles.not_analysing {c : ControllerRef} {e : Exchange} (h : e.Settles c) :
    ¬e.Analysing := by
  obtain ⟨r, x⟩ := e
  cases r with
  | call c' => cases c' <;> first | exact id | exact absurd h id
  | _ => exact id

theorem Alerting.not_analysing {e : Exchange} (h : e.Alerting) : ¬e.Analysing := by
  obtain ⟨r, x⟩ := e
  cases r with
  | call c' => cases c' <;> first | exact id | exact absurd h id
  | _ => exact id

theorem Alerting.command?_eq_none {e : Exchange} (h : e.Alerting) : e.command? = none := by
  obtain ⟨r, x⟩ := e
  cases r with
  | call c' => cases c' <;> first | rfl | exact absurd h id
  | _ => rfl

theorem reply_eq_of_call {c : Call} {x y : c.Reply}
    (h : (⟨.call c, x⟩ : Exchange) = ⟨.call c, y⟩) : x = y := by
  cases h
  rfl

end Exchange

/-- The commands of a run, in the order they were sent. -/
def commands (es : List Exchange) : List (String × Action) := es.filterMap Exchange.command?

/-- The categories of the alerts a run asks for, in order. -/
def alertsSent (es : List Exchange) : List Category := es.filterMap Exchange.alert?

@[simp] theorem commands_append (es es' : List Exchange) :
    commands (es ++ es') = commands es ++ commands es' := List.filterMap_append

@[simp] theorem alertsSent_append (es es' : List Exchange) :
    alertsSent (es ++ es') = alertsSent es ++ alertsSent es' := List.filterMap_append

theorem commands_cons (e : Exchange) (es : List Exchange) :
    commands (e :: es) = e.command?.toList ++ commands es := by
  cases h : e.command? <;> simp [commands, h]

theorem alertsSent_cons (e : Exchange) (es : List Exchange) :
    alertsSent (e :: es) = e.alert?.toList ++ alertsSent es := by
  cases h : e.alert? <;> simp [alertsSent, h]

/-- A run of inert exchanges sends no command and asks for no alert. -/
theorem commands_alertsSent_of_inert {es : List Exchange} (h : ∀ e ∈ es, e.Inert) :
    commands es = [] ∧ alertsSent es = [] :=
  ⟨List.filterMap_eq_nil_iff.mpr fun e he => (h e he).1,
    List.filterMap_eq_nil_iff.mpr fun e he => (h e he).2⟩

/-- The first exchanges of a tick that goes ahead: the controller is not backing off, the
resource reading is `u` and the service's snapshot is `s`. -/
def tickOpening (c : ControllerRef) (u : Reading) (s : Snapshot) : List Exchange :=
  [⟨.call (.skipTick c.index), (some false : Option Bool)⟩, ⟨.call .reading, (Except.ok u : Outcome Reading)⟩,
    ⟨.call (.instances c.service), (Except.ok s : Outcome Snapshot)⟩]

/-! ### What the calls of a tick do to the governor -/

namespace World

variable (w : World)

@[simp] theorem governor_skipTick (i : Nat) : (w.perform (.skipTick i)).1.governor = w.governor := by
  simp only [perform, skipTick]
  split
  · rfl
  · split <;> rfl

@[simp] theorem governor_reading : (w.perform .reading).1.governor = w.governor := by
  simp only [perform, currentReading]

@[simp] theorem governor_instances (service : String) :
    (w.perform (.instances service)).1.governor = w.governor := by
  simp only [perform, instances]

@[simp] theorem governor_warning (i : Nat) (category : Category) (figure : String) :
    (w.perform (.warning i category figure)).1.governor = w.governor := rfl

@[simp] theorem governor_alert (category : Category) (message : String) :
    (w.perform (.alert category message)).1.governor = w.governor := by
  simp only [perform, sendAlert]

@[simp] theorem governor_analyse (i : Nat) (s : Snapshot) :
    (w.perform (.analyse i s)).1.governor = w.governor := by
  simp only [perform, analyse]
  split <;> rfl

@[simp] theorem governor_record (service : String) (s : Snapshot) :
    (w.perform (.record service s)).1.governor = w.governor.record service s := rfl

theorem reply_govern (service : String) (a : Action) (stages : Stages) :
    (w.perform (.govern service a stages)).2 = (w.governor.govern service a stages).2 := rfl

end World

variable (ctx : Context) {w w' : World} {es : List Exchange}

/-! ### Waiting for room -/

/-- The exchanges of a scale-up of `service` waiting for room: no alert, and every command
takes one instance from a donor that the governor named for the service in `es`. -/
def WaitForRoom (service : String) (es : List Exchange) : Prop :=
  alertsSent es = [] ∧ ∀ x ∈ commands es, ∃ d : ControllerRef,
    (⟨.call (.donor service), some d⟩ : Exchange) ∈ es ∧ x = (d.service, .down 1)

namespace WaitForRoom

variable {service : String}

theorem of_inert (h : ∀ e ∈ es, e.Inert) : WaitForRoom service es := by
  obtain ⟨hcommands, halerts⟩ := commands_alertsSent_of_inert h
  refine ⟨halerts, fun x hx => ?_⟩
  rw [hcommands] at hx
  cases hx

theorem append {es' : List Exchange} (h : WaitForRoom service es) (h' : WaitForRoom service es') :
    WaitForRoom service (es ++ es') := by
  refine ⟨by rw [alertsSent_append, h.1, h'.1]; rfl, fun x hx => ?_⟩
  rw [commands_append, List.mem_append] at hx
  rcases hx with hx | hx
  · obtain ⟨d, hd, rfl⟩ := h.2 x hx
    exact ⟨d, List.mem_append_left _ hd, rfl⟩
  · obtain ⟨d, hd, rfl⟩ := h'.2 x hx
    exact ⟨d, List.mem_append_right _ hd, rfl⟩

theorem of_done {α : Type} {a : α} {q : Prog α} (h : Exec w (.done a) es w' q) :
    WaitForRoom service es := by
  obtain ⟨rfl, -, -⟩ := Exec.done_iff.mp h
  exact of_inert fun _ he => nomatch he

/-- Inert steps, followed by runs that wait for room. -/
theorem run_bind {α β : Type} {x : Attempt α} {f : α → Attempt β} {q : Prog (Outcome β)}
    (h : Exec w (x >>= f).run es w' q) (hx : x.run.Always Exchange.Inert)
    (hf : ∀ a w₁ es', Exec w₁ (f a).run es' w' q → WaitForRoom service es') :
    WaitForRoom service es := by
  obtain ⟨es₁, es₂, w₁, q₁, rfl, hx₁, hrest⟩ := Exec.run_bind_split h
  have h₁ : WaitForRoom service es₁ := of_inert (hx₁.always hx)
  rcases hrest with rfl | ⟨a, -, hf₂⟩
  · rw [List.append_nil]
    exact h₁
  · exact h₁.append (hf a w₁ es₂ hf₂)

end WaitForRoom

/-! ### Runs of the parts of a tick -/

open Attempt

theorem sleepFor_settles (c : ControllerRef) (ms : Nat) :
    (sleepFor c ms).run.Always (Exchange.Settles c) := by
  refine Prog.Always.run_bind (Prog.Always.run_lift_request fun _ => rfl) fun slept => ?_
  cases slept
  · exact Prog.Always.run_throw _
  · exact Prog.Always.run_pure _

/-- A scale-down sends its command, then only waits for the instances to settle. -/
theorem scaleDown_exec {c : ControllerRef} {n : UInt32} {q : Prog (Outcome Unit)}
    (h : Exec w (scaleDown ctx c n).run es w' q) :
    ∃ x es', es = ⟨.call (.scaleDown c.service n), x⟩ :: es' ∧ ∀ e ∈ es', e.Settles c := by
  unfold scaleDown at h
  rw [Exec.run_bind_eq] at h
  obtain ⟨es', rfl, hsettle⟩ := Exec.call_bind_iff.mp h
  refine ⟨_, es', rfl, hsettle.always (Prog.Always.bindCont (fun _ => ?_) _)⟩
  refine Prog.Always.run_bind (sleepFor_settles c _) fun _ => ?_
  refine Prog.Always.run_bind (Prog.Always.call fun _ => rfl) fun s => ?_
  exact Prog.Always.run_bind (Prog.Always.run_lift_call fun _ => rfl)
    fun _ => Prog.Always.run_lift_call fun _ => rfl

/-- The one command of a scale-down is its own, and it asks for no alert. -/
theorem scaleDown_sends {c : ControllerRef} {n : UInt32} {q : Prog (Outcome Unit)}
    (h : Exec w (scaleDown ctx c n).run es w' q) :
    commands es = [(c.service, .down n)] ∧ alertsSent es = [] := by
  obtain ⟨x, es', rfl, hes'⟩ := scaleDown_exec ctx h
  obtain ⟨hcommands, halerts⟩ := commands_alertsSent_of_inert fun e he => (hes' e he).inert
  rw [commands_cons, alertsSent_cons, hcommands, halerts]
  exact ⟨rfl, rfl⟩

theorem pollRound_settles (c : ControllerRef) :
    ∀ n delay, (pollRound ctx c n delay).run.Always (Exchange.Settles c)
  | 0, _ => Prog.Always.run_pure _
  | n + 1, delay => by
    rw [pollRound]
    refine Prog.Always.run_bind (sleepFor_settles c delay) fun _ => ?_
    refine Prog.Always.run_bind (Prog.Always.call fun _ => rfl) fun s => ?_
    refine Prog.Always.run_bind (Prog.Always.run_lift_call fun _ => rfl) fun _ => ?_
    split
    · exact Prog.Always.run_pure _
    · exact pollRound_settles c n _

/-- Asking for room sends at most the named donor's one-instance scale-down. -/
theorem freeUp_waitForRoom {c : ControllerRef} {q : Prog (Outcome Bool)}
    (h : Exec w (freeUp ctx c).run es w' q) : WaitForRoom c.service es := by
  unfold freeUp at h
  obtain ⟨es', rfl, hasked⟩ := Exec.run_lift_call_bind_iff.mp h
  generalize (w.perform (.donor c.service)).2 = donor at hasked ⊢
  cases donor with
  | none =>
    obtain ⟨rfl, -, -⟩ := Exec.run_pure_iff.mp hasked
    exact WaitForRoom.of_inert fun e he => by rw [List.mem_singleton.mp he]; exact ⟨rfl, rfl⟩
  | some d =>
    obtain ⟨w₁, q₁, hd⟩ := Exec.of_run_bind_pure hasked fun _ => ⟨_, rfl⟩
    obtain ⟨q₂, hd⟩ := Exec.of_run_lift hd
    obtain ⟨hcommands, halerts⟩ := scaleDown_sends ctx hd
    refine ⟨by rw [alertsSent_cons, halerts]; rfl, fun x hx => ?_⟩
    rw [commands_cons, hcommands] at hx
    exact ⟨d, List.mem_cons_self .., List.eq_of_mem_singleton hx⟩

/-- While a scale-up waits, the only commands are donors giving up one instance each. -/
theorem awaitConvergence_waitForRoom {c : ControllerRef} (left : Nat) :
    ∀ {w : World} {es : List Exchange} {q : Prog (Outcome Unit)},
      Exec w (awaitConvergence ctx c left).run es w' q → WaitForRoom c.service es := by
  -- on the donor requests still allowed; each round first polls, and polling is inert
  have hpoll : (pollRound ctx c ctx.convergence.attempts ctx.convergence.firstDelay).run.Always
      Exchange.Inert := (pollRound_settles ctx c _ _).mono fun _ => Exchange.Settles.inert
  induction left with
  | zero =>
    intro w es q h
    rw [awaitConvergence] at h
    refine WaitForRoom.run_bind h hpoll fun converged w₁ es' h' => ?_
    -- converged or not, the wait ends here
    cases converged <;> exact WaitForRoom.of_done h'
  | succ left ih =>
    intro w es q h
    rw [awaitConvergence] at h
    refine WaitForRoom.run_bind h hpoll fun converged w₁ es' h' => ?_
    cases converged with
    | true => exact WaitForRoom.of_done h'
    | false =>
      obtain ⟨es₁, es₂, w₂, q₂, rfl, hfree, hrest⟩ := Exec.run_bind_split h'
      refine (freeUp_waitForRoom ctx hfree).append ?_
      rcases hrest with rfl | ⟨freed, -, hrest⟩
      · exact WaitForRoom.of_inert fun _ he => nomatch he
      · cases freed with
        | false => exact WaitForRoom.of_done hrest
        | true => exact ih hrest

/-- A scale-up sends its command, then waits for room. -/
theorem scaleUp_exec {c : ControllerRef} {n : UInt32} {q : Prog (Outcome Unit)}
    (h : Exec w (scaleUp ctx c n).run es w' q) :
    ∃ x es', es = ⟨.call (.scaleUp c.service n), x⟩ :: es' ∧ WaitForRoom c.service es' := by
  unfold scaleUp at h
  rw [Exec.run_bind_eq] at h
  obtain ⟨es', rfl, hwait⟩ := Exec.call_bind_iff.mp h
  refine ⟨_, es', rfl, ?_⟩
  generalize (w.perform (.scaleUp c.service n)).2 = sent at hwait
  cases sent with
  | error e => exact WaitForRoom.of_done hwait
  | ok _ =>
    obtain ⟨es₁, es₂, w₁, q₁, rfl, hconv, hrest⟩ := Exec.run_bind_split hwait
    refine (awaitConvergence_waitForRoom ctx _ hconv).append ?_
    rcases hrest with rfl | ⟨_, -, hback⟩
    · exact WaitForRoom.of_inert fun _ he => nomatch he
    · exact WaitForRoom.of_inert (hback.always (Prog.Always.run_lift_call fun _ => ⟨rfl, rfl⟩))

/-- Carrying out a verdict sends it as the service's one command unless it changes nothing;
only a scale-up is followed by other commands, from donors. No alert is asked for. -/
theorem apply_sends {c : ControllerRef} {g : Action} {q : Prog (Outcome Unit)}
    (h : Exec w (apply ctx c g).run es w' q) :
    alertsSent es = [] ∧
      ∃ donated, commands es = (if g.isNoOp then [] else [(c.service, g)]) ++ donated ∧
        (donated ≠ [] → g.operation = .scaleUp) ∧
        ∀ x ∈ donated, ∃ d : ControllerRef,
          (⟨.call (.donor c.service), some d⟩ : Exchange) ∈ es ∧ x = (d.service, .down 1) := by
  obtain ⟨op, n⟩ := g
  unfold apply at h
  by_cases hnoop : Action.isNoOp ⟨op, n⟩ = true
  · rw [if_pos hnoop] at h
    obtain ⟨rfl, -, -⟩ := Exec.run_pure_iff.mp h
    exact ⟨rfl, [], by simp [hnoop, commands], fun h => absurd rfl h, by simp⟩
  · rw [if_neg hnoop] at h
    rw [if_neg hnoop]
    cases op with
    | none => exact absurd (by simp [Action.isNoOp]) hnoop
    | scaleUp =>
      obtain ⟨x, es', rfl, hwait⟩ := scaleUp_exec ctx h
      refine ⟨by rw [alertsSent_cons, hwait.1]; rfl, commands es', rfl, fun _ => rfl,
        fun x hx => ?_⟩
      obtain ⟨d, hd, rfl⟩ := hwait.2 x hx
      exact ⟨d, List.mem_cons_of_mem _ hd, rfl⟩
    | scaleDown =>
      obtain ⟨hcommands, halerts⟩ := scaleDown_sends ctx h
      exact ⟨halerts, [], by rw [hcommands]; rfl, fun h => absurd rfl h, by simp⟩

/-! ### Relieving pressure -/

/-- An alert of `category`, sent if it is due. -/
def alertIf (c : ControllerRef) (due : Bool) (category : Category) (figure : String) :
    Attempt Unit :=
  if due then sendAlert c category figure else pure ()

/-- Whether a service under pressure is shed, shedding it if so: whether the tick ends. -/
def shedding (c : ControllerRef) (stages : Stages) (s : Snapshot) : Attempt Bool := do
  if !ctx.monitoring.thresholds.shouldShed stages.highest s.priority then return false
  if s.total = 0 then
    record c.service s
    return true
  scaleDown ctx c s.total
  return true

/-- Relieving pressure is the memory alert, the disk alert, then the shedding decision. -/
theorem relievePressure_eq (c : ControllerRef) (u : Reading) (stages : Stages) (s : Snapshot) :
    relievePressure ctx c u stages s =
      (alertIf c (ctx.monitoring.memoryAlertDue u) .memoryOverload
          (Decimal.fixed 2 u.memoryUsedPercent) >>= fun _ =>
        alertIf c (ctx.monitoring.diskAlertDue u) .diskSpaceLow
          (Decimal.fixed 2 (wordToDouble (u.diskFreeMb.getD 0))) >>= fun _ =>
        shedding ctx c stages s) := by
  unfold relievePressure alertIf
  cases hfree : u.diskFreeMb with
  | none =>
    -- without a disk figure no disk alert is due
    have hdisk : ctx.monitoring.diskAlertDue u = false := by
      simp [MonitoringSettings.diskAlertDue, hfree]
    cases ctx.monitoring.memoryAlertDue u <;> simp [hdisk, shedding]
  | some free =>
    cases ctx.monitoring.memoryAlertDue u <;> cases ctx.monitoring.diskAlertDue u <;>
      simp [shedding]

/-- A due alert is worded by the analyser and sent, whatever comes of sending it; an alert
that is not due asks nothing. Either way the governor is as it was. -/
theorem alertIf_bind_exec {β : Type} {c : ControllerRef} {due : Bool} {category : Category}
    {figure : String} {f : Unit → Attempt β} {q : Prog (Outcome β)}
    (h : Exec w (alertIf c due category figure >>= f).run es w' q) :
    ∃ alerts w₁ es', es = alerts ++ es' ∧ (∀ e ∈ alerts, e.Alerting) ∧
      alertsSent alerts = (if due then [category] else []) ∧ w₁.governor = w.governor ∧
      Exec w₁ (f ()).run es' w' q := by
  cases due with
  | false => exact ⟨[], w, es, rfl, by simp, rfl, rfl, h⟩
  | true =>
    unfold alertIf sendAlert at h
    simp only [if_true, bind_assoc] at h
    obtain ⟨es₁, rfl, hworded⟩ := Exec.run_lift_call_bind_iff.mp h
    obtain ⟨es₂, rfl, hsent⟩ := Exec.run_lift_call_bind_iff.mp hworded
    refine ⟨[_, _], _, es₂, rfl, ?_, rfl,
      (World.governor_alert _ _ _).trans (World.governor_warning _ _ _ _), hsent⟩
    intro e he
    rcases List.mem_pair.mp he with rfl | rfl <;> trivial

/-- Relieving pressure asks for exactly the due alerts, memory first, before it decides. -/
theorem relievePressure_bind_exec {β : Type} {c : ControllerRef} {u : Reading} {stages : Stages}
    {s : Snapshot} {f : Bool → Attempt β} {q : Prog (Outcome β)}
    (h : Exec w (relievePressure ctx c u stages s >>= f).run es w' q) :
    ∃ alerts w₁ es', es = alerts ++ es' ∧ (∀ e ∈ alerts, e.Alerting) ∧
      alertsSent alerts = (if ctx.monitoring.memoryAlertDue u then [.memoryOverload] else []) ++
        (if ctx.monitoring.diskAlertDue u then [.diskSpaceLow] else []) ∧
      w₁.governor = w.governor ∧ Exec w₁ (shedding ctx c stages s >>= f).run es' w' q := by
  rw [relievePressure_eq] at h
  simp only [bind_assoc] at h
  obtain ⟨memory, w₁, es₁, rfl, hmemory, hmemorySent, hgov₁, h₁⟩ := alertIf_bind_exec h
  obtain ⟨disk, w₂, es₂, rfl, hdisk, hdiskSent, hgov₂, h₂⟩ := alertIf_bind_exec h₁
  refine ⟨memory ++ disk, w₂, es₂, (List.append_assoc ..).symm, fun e he => ?_,
    by rw [alertsSent_append, hmemorySent, hdiskSent], hgov₂.trans hgov₁, h₂⟩
  rcases List.mem_append.mp he with he | he
  · exact hmemory e he
  · exact hdisk e he

variable {c : ControllerRef} {stages : Stages} {s : Snapshot}

/-- A service the stage does not cover goes on at once. -/
theorem shedding_bind_of_kept {β : Type} {f : Bool → Attempt β} {q : Prog (Outcome β)}
    (hkept : ctx.monitoring.thresholds.shouldShed stages.highest s.priority = false)
    (h : Exec w (shedding ctx c stages s >>= f).run es w' q) : Exec w (f false).run es w' q := by
  unfold shedding at h
  rw [hkept] at h
  exact h

/-- A shed service without instances only has its snapshot recorded. -/
theorem shedding_bind_of_empty {β : Type} {f : Bool → Attempt β} {q : Prog (Outcome β)}
    (hshed : ctx.monitoring.thresholds.shouldShed stages.highest s.priority = true)
    (hempty : s.total = 0) (h : Exec w (shedding ctx c stages s >>= f).run es w' q) :
    ∃ es', es = ⟨.call (.record c.service s), ()⟩ :: es' ∧
      Exec (w.perform (.record c.service s)).1 (f true).run es' w' q := by
  unfold shedding at h
  rw [hshed, Bool.not_true, if_neg Bool.false_ne_true, if_pos hempty, bind_assoc] at h
  obtain ⟨es', rfl, hrest⟩ := Exec.run_lift_call_bind_iff.mp h
  exact ⟨es', rfl, hrest⟩

/-- A shed service with instances is scaled down by all of them. -/
theorem shedding_bind_of_running {β : Type} {f : Bool → Attempt β} {q : Prog (Outcome β)}
    (hshed : ctx.monitoring.thresholds.shouldShed stages.highest s.priority = true)
    (hrunning : s.total ≠ 0) (h : Exec w (shedding ctx c stages s >>= f).run es w' q) :
    Exec w (scaleDown ctx c s.total >>= fun _ => f true).run es w' q := by
  unfold shedding at h
  rw [hshed, Bool.not_true, if_neg Bool.false_ne_true, if_neg hrunning, bind_assoc] at h
  exact h

/-! ### The analysis path and the opening of a tick -/

/-- Record `s`, ask the analyser, have the governor arbitrate, carry out the verdict. -/
def analysisPath (c : ControllerRef) (stages : Stages) (s : Snapshot) : Attempt Unit := do
  record c.service s
  let analysis : Analysis ← ExceptT.lift (Prog.call (.analyse c.index s))
  let requested ← match analysis with
    | .action a => pure a
    | .failed e => throw e
    | .overflow => crash "attempt to add with overflow"
  let a ← ExceptT.mk (Prog.call (.govern c.service requested stages))
  apply ctx c a

/-- The runs of the analysis path, case by case on the analysis and on the verdict, which
the governor reaches holding the snapshot just recorded. -/
theorem analysisPath_exec {q : Prog (Outcome Unit)}
    (h : Exec w (analysisPath ctx c stages s).run es w' q) :
    ∃ an more, es = ⟨.call (.record c.service s), ()⟩ :: ⟨.call (.analyse c.index s), an⟩ :: more ∧
      (∀ e, an = .failed e → more = [] ∧ q = .done (.error e)) ∧
      (an = .overflow → more = []) ∧
      ∀ r, an = .action r →
        let verdict := ((w.governor.record c.service s).govern c.service r stages).2
        ∃ w₁ more', more = ⟨.call (.govern c.service r stages), verdict⟩ :: more' ∧
          (∀ e, verdict = .error e → more' = [] ∧ q = .done (.error e)) ∧
          ∀ g, verdict = .ok g → Exec w₁ (apply ctx c g).run more' w' q := by
  unfold analysisPath at h
  obtain ⟨es₁, rfl, hrecorded⟩ := Exec.run_lift_call_bind_iff.mp h
  obtain ⟨more, rfl, hanalysed⟩ := Exec.run_lift_call_bind_iff.mp hrecorded
  generalize hw₁ : (w.perform (.record c.service s)).1 = w₁ at hanalysed
  generalize (w₁.perform (.analyse c.index s)).2 = an at hanalysed ⊢
  refine ⟨an, more, rfl, fun e hfailed => ?_, fun hoverflow => ?_, fun r hasked => ?_⟩
  · subst hfailed
    obtain ⟨rfl, -, rfl⟩ := Exec.done_iff.mp hanalysed
    exact ⟨rfl, rfl⟩
  · -- an overflow crashes the task, and a crash is never answered
    subst hoverflow
    have hcrash : (Request.crash "attempt to add with overflow").Waits := fun _ h => nomatch h
    rcases (Exec.wait_iff hcrash).mp hanalysed with ⟨rfl, -, -⟩ | ⟨x, -, -, -, -⟩
    · rfl
    · exact nomatch x
  · subst hasked
    rw [Exec.run_bind_eq] at hanalysed
    obtain ⟨more', rfl, hverdict⟩ := Exec.call_bind_iff.mp hanalysed
    -- the analyser leaves the governor as the recording made it
    have hgov : (w₁.perform (.analyse c.index s)).1.governor = w.governor.record c.service s := by
      rw [World.governor_analyse, ← hw₁, World.governor_record]
    simp only [World.reply_govern, hgov] at hverdict ⊢
    refine ⟨((w₁.perform (.analyse c.index s)).1.perform (.govern c.service r stages)).1, more', rfl,
      fun e herror => ?_, fun g hok => ?_⟩
    · rw [herror] at hverdict
      obtain ⟨rfl, -, rfl⟩ := Exec.done_iff.mp hverdict
      exact ⟨rfl, rfl⟩
    · rw [hok] at hverdict
      exact hverdict

/-- The analysis path asks for no alert. -/
theorem analysisPath_quiet {q : Prog (Outcome Unit)}
    (h : Exec w (analysisPath ctx c stages s).run es w' q) : alertsSent es = [] := by
  obtain ⟨an, more, rfl, hfailed, hoverflow, hasked⟩ := analysisPath_exec ctx h
  show alertsSent more = []
  cases an with
  | action r =>
    obtain ⟨w₁, more', rfl, herror, hgiven⟩ := hasked r rfl
    show alertsSent more' = []
    cases hverdict : ((w.governor.record c.service s).govern c.service r stages).2 with
    | error e =>
      rw [(herror e hverdict).1]
      rfl
    | ok g => exact (apply_sends ctx (hgiven g hverdict)).1
  | failed e =>
    rw [(hfailed e rfl).1]
    rfl
  | overflow =>
    rw [hoverflow rfl]
    rfl

/-- A tick that sheds an empty service records it and ends; otherwise it scales the service
down by all its instances and waits for them to settle. -/
theorem shedding_tick_exec {q : Prog (Outcome Unit)}
    (hshed : ctx.monitoring.thresholds.shouldShed stages.highest s.priority = true)
    (h : Exec w (shedding ctx c stages s >>= fun stop =>
      if stop then pure () else analysisPath ctx c stages s).run es w' q) :
    (s.total = 0 → es = [⟨.call (.record c.service s), ()⟩] ∧ q = .done (.ok ())) ∧
      (s.total ≠ 0 → ∃ x es', es = ⟨.call (.scaleDown c.service s.total), x⟩ :: es' ∧
        ∀ e ∈ es', e.Settles c) := by
  refine ⟨fun hempty => ?_, fun hrunning => ?_⟩
  · obtain ⟨es', rfl, hdone⟩ := shedding_bind_of_empty ctx hshed hempty h
    obtain ⟨rfl, -, rfl⟩ := Exec.run_pure_iff.mp hdone
    exact ⟨rfl, rfl⟩
  · obtain ⟨w₁, q₁, hdown⟩ :=
      Exec.of_run_bind_pure (shedding_bind_of_running ctx hshed hrunning h) fun _ => ⟨(), rfl⟩
    exact scaleDown_exec ctx hdown

/-- After its opening a tick takes the analysis path, at once for a service that opted out
and after relieving the pressure otherwise. -/
theorem tick_opening {u : Reading} {rest : List Exchange} {q : Prog (Outcome Unit)}
    (h : Exec w (tick ctx c).run (tickOpening c u s ++ rest) w' q) :
    ∃ w₁, w₁.governor = w.governor ∧
      (s.optedOut = true →
        Exec w₁ (analysisPath ctx c (ctx.monitoring.classify u) s).run rest w' q) ∧
      (s.optedOut = false →
        Exec w₁ (relievePressure ctx c u (ctx.monitoring.classify u) s >>= fun stop =>
          if stop then pure () else analysisPath ctx c (ctx.monitoring.classify u) s).run
          rest w' q) := by
  unfold tick at h
  -- the replies in the opening fix the skip, the reading and the snapshot, in turn
  obtain ⟨es₁, hes₁, hgo⟩ := Exec.run_lift_call_bind_iff.mp h
  simp only [tickOpening, List.cons_append, List.nil_append, List.cons.injEq] at hes₁
  obtain ⟨hskip, rfl⟩ := hes₁
  rw [← Exchange.reply_eq_of_call hskip] at hgo
  dsimp only at hgo
  unfold analyse at hgo
  rw [Exec.run_bind_eq] at hgo
  obtain ⟨es₂, hes₂, hread⟩ := Exec.call_bind_iff.mp hgo
  obtain ⟨hreading, rfl⟩ := List.cons.inj hes₂
  rw [← Exchange.reply_eq_of_call hreading] at hread
  obtain ⟨es₃, hes₃, hinstances⟩ := Exec.call_bind_iff.mp hread
  obtain ⟨hsnapshot, rfl⟩ := List.cons.inj hes₃
  rw [← Exchange.reply_eq_of_call hsnapshot] at hinstances
  dsimp only [ExceptT.bindCont] at hinstances
  refine ⟨(((w.perform (.skipTick c.index)).1.perform .reading).1.perform (.instances c.service)).1,
    by simp, fun hopt => ?_, fun hopt => ?_⟩
  · rw [hopt] at hinstances
    exact hinstances
  · rw [hopt] at hinstances
    exact hinstances

/-! ### A tick that analyses -/

/-- A tick that keeps its service records snapshot `s` with the governor before the governor
arbitrates, and a failed analysis or verdict ends it. The verdict is the one command for the
service unless it changes nothing; other commands are donors' while a scale-up waits. A
registered service gets a verdict within its bounds as counted from `s`. -/
theorem tick_carries_out_verdict {u : Reading} {s : Snapshot} {rest : List Exchange}
    {q : Prog (Outcome Unit)} (hrun : Exec w (tick ctx c).run (tickOpening c u s ++ rest) w' q)
    (hkept : s.optedOut = true ∨
      ctx.monitoring.thresholds.shouldShed (ctx.monitoring.classify u).highest s.priority = false) :
    ∃ alerts an more, rest = alerts ++
        ⟨.call (.record c.service s), ()⟩ :: ⟨.call (.analyse c.index s), an⟩ :: more ∧
      (∀ e ∈ alerts, e.Alerting) ∧
      (∀ e, an = .failed e → more = [] ∧ q = .done (.error e)) ∧
      ∀ r, an = .action r →
        let verdict :=
          ((w.governor.record c.service s).govern c.service r (ctx.monitoring.classify u)).2
        ∃ more', more = ⟨.call (.govern c.service r (ctx.monitoring.classify u)), verdict⟩ :: more' ∧
          (∀ e, verdict = .error e → more' = [] ∧ q = .done (.error e)) ∧
          (∀ g, verdict = .ok g → ∃ donated,
            commands rest = (if g.isNoOp then [] else [(c.service, g)]) ++ donated ∧
            (donated ≠ [] → g.operation = .scaleUp) ∧
            ∀ x ∈ donated, ∃ d : ControllerRef,
              (⟨.call (.donor c.service), some d⟩ : Exchange) ∈ rest ∧ x = (d.service, .down 1)) ∧
          ∀ d, w.governor.configs.get? c.service = some d → d.minInstances ≤ d.maxInstances →
            ∃ g, verdict = .ok g ∧
              (g.operation = .scaleUp → g.target s.total ≤ d.maxInstances.toNat) ∧
              (g.operation = .scaleDown → d.minInstances.toNat ≤ g.target s.total ∨
                (d.maxInstances < s.total ∧ g.target s.total = d.maxInstances.toNat)) := by
  obtain ⟨w₁, hgov₁, hopted, hrelieve⟩ := tick_opening ctx hrun
  -- either way the tick reaches the analysis path after the due alerts, governor untouched
  have hreach : ∃ alerts w₂ more₀, rest = alerts ++ more₀ ∧ (∀ e ∈ alerts, e.Alerting) ∧
      w₂.governor = w.governor ∧
      Exec w₂ (analysisPath ctx c (ctx.monitoring.classify u) s).run more₀ w' q := by
    cases hopt : s.optedOut with
    | true => exact ⟨[], w₁, rest, rfl, by simp, hgov₁, hopted hopt⟩
    | false =>
      have hkeep := hkept.resolve_left (by rw [hopt]; exact Bool.false_ne_true)
      obtain ⟨alerts, w₂, more₀, rfl, halerting, -, hgov₂, hshed⟩ :=
        relievePressure_bind_exec ctx (hrelieve hopt)
      exact ⟨alerts, w₂, more₀, rfl, halerting, hgov₂.trans hgov₁,
        shedding_bind_of_kept ctx hkeep hshed⟩
  obtain ⟨alerts, w₂, more₀, rfl, halerting, hgov₂, hpath⟩ := hreach
  obtain ⟨an, more, rfl, hfailed, -, hasked⟩ := analysisPath_exec ctx hpath
  refine ⟨alerts, an, more, rfl, halerting, hfailed, fun r hr => ?_⟩
  -- the verdict is the one the governor of the starting world gives after the recording
  rw [← hgov₂]
  obtain ⟨w₃, more', rfl, herror, hgiven⟩ := hasked r hr
  refine ⟨more', rfl, herror, fun g hg => ?_, fun d hd hlohi => ?_⟩
  · obtain ⟨-, donated, hcommands, hgrows, hdonors⟩ := apply_sends ctx (hgiven g hg)
    -- nothing before the verdict is carried out sends a command
    have hsilent : commands alerts = [] :=
      List.filterMap_eq_nil_iff.mpr fun e he => (halerting e he).command?_eq_none
    refine ⟨donated, ?_, hgrows, fun x hx => ?_⟩
    · rw [commands_append, hsilent, List.nil_append]
      exact hcommands
    · obtain ⟨d, hd, rfl⟩ := hdonors x hx
      refine ⟨d, List.mem_append_right _ ?_, rfl⟩
      exact List.mem_cons_of_mem _ (List.mem_cons_of_mem _ (List.mem_cons_of_mem _ hd))
  · exact Governor.govern_record_within hd hlohi s r _

/-- A world whose one service, opted out of shedding and without instances, is registered with
the governor with bounds zero to three. No controller runs, so its analyser asks for nothing. -/
def idleWorld : World where
  ctx := ⟨{}, ⟨1, 1, 1, 1, 1⟩⟩
  platform := { deployments := [("svc", { priority := -1 })] }
  probe := { reading := Probe.initial }
  cache := { refreshMs := 0 }
  alerter := ⟨0, 0, true, []⟩
  dispatchers := []
  governor := ⟨{}, [("svc", ⟨"svc", 30, 0, 3, 1, none, none, "queue", "jobs", none⟩)], [], []⟩

/-- The service of `crowdedWorld` that grows: at most three instances. -/
def growingService : Descriptor := ⟨"svc", 30, 0, 3, 1, none, none, "queue", "jobs", none⟩

/-- The service of `crowdedWorld` that can give an instance up: at least one. -/
def donorService : Descriptor := ⟨"other", 30, 1, 5, 1, none, none, "queue", "jobs", none⟩

/-- Two services that fill a platform with room for five instances, both opted out of
shedding: "svc" with two instances, whose analyser asks for four more, and "other" with
three. The governor has a record of both, with "svc" wanting three instances, and "other"
listens through the second controller. -/
def crowdedWorld : World where
  ctx := ⟨{}, ⟨1, 1, 1, 1, 1⟩⟩
  platform := { deployments := [("other", { running := 3, priority := -1 }),
    ("svc", { running := 2, priority := -1 })], capacity := some 5 }
  probe := { reading := Probe.initial }
  cache := { refreshMs := 0 }
  alerter := ⟨0, 0, true, []⟩
  dispatchers := []
  governor := ⟨{}, [("other", donorService), ("svc", growingService)],
    [("other", ⟨⟨3, 0, 3, -1⟩, 3⟩), ("svc", ⟨⟨2, 0, 2, -1⟩, 3⟩)], [("other", 1)]⟩
  controllers := #[⟨growingService, 0, {}, .fixed (.up 4)⟩, ⟨donorService, 1, {}, .fixed .noAction⟩]

/-- In `crowdedWorld` the tick of "svc" records its two instances before the analyser asks for
four more; every other service meets its minimum, and the governor grants what the maximum of
three leaves room for, one instance. -/
theorem crowded_tick_grows_to_maximum :
    ∃ w' q, Exec crowdedWorld (tick crowdedWorld.ctx ⟨0, "svc", 0⟩).run
        (tickOpening ⟨0, "svc", 0⟩ Probe.initial ⟨2, 0, 2, -1⟩ ++
          [⟨.call (.record "svc" ⟨2, 0, 2, -1⟩), ()⟩,
            ⟨.call (.analyse 0 ⟨2, 0, 2, -1⟩), Analysis.action (.up 4)⟩,
            ⟨.call (.govern "svc" (.up 4) (crowdedWorld.ctx.monitoring.classify Probe.initial)),
              (Except.ok (.up 1) : Outcome Action)⟩,
            ⟨.call (.scaleUp "svc" 1), (Except.ok () : Outcome Unit)⟩]) w' q ∧
      Snapshot.optedOut ⟨2, 0, 2, -1⟩ = true ∧
      ∃ g, ((crowdedWorld.governor.record "svc" ⟨2, 0, 2, -1⟩).govern "svc" (.up 4)
          (crowdedWorld.ctx.monitoring.classify Probe.initial)).2 = .ok g ∧
        g.operation = .scaleUp ∧ g.target 2 ≤ growingService.maxInstances.toNat := by
  -- the tick records, analyses, is granted one instance, asks for it and sleeps
  have hrun : ∃ w' q, Exec crowdedWorld (tick crowdedWorld.ctx ⟨0, "svc", 0⟩).run
      (tickOpening ⟨0, "svc", 0⟩ Probe.initial ⟨2, 0, 2, -1⟩ ++
        [⟨.call (.record "svc" ⟨2, 0, 2, -1⟩), ()⟩,
          ⟨.call (.analyse 0 ⟨2, 0, 2, -1⟩), Analysis.action (.up 4)⟩,
          ⟨.call (.govern "svc" (.up 4) (crowdedWorld.ctx.monitoring.classify Probe.initial)),
            (Except.ok (.up 1) : Outcome Action)⟩,
          ⟨.call (.scaleUp "svc" 1), (Except.ok () : Outcome Unit)⟩]) w' q :=
    ⟨_, _, .call (.call (.call (.call (.call (.call (.call
      (.stop _ _ (Request.sleep_waits 0 1))))))))⟩
  obtain ⟨w', q, hrun⟩ := hrun
  obtain ⟨alerts, an, more, hrest, halerting, -, hverdict⟩ :=
    tick_carries_out_verdict crowdedWorld.ctx hrun (.inl rfl)
  -- the recording comes first, so no alert precedes it, and the analyser asked for four
  obtain ⟨rfl, han⟩ : alerts = [] ∧ an = .action (.up 4) := by
    cases alerts with
    | nil =>
      simp only [List.nil_append, List.cons.injEq] at hrest
      obtain ⟨-, hanalyse, -⟩ := hrest
      injection hanalyse with _ hreply
      exact ⟨rfl, hreply.symm⟩
    | cons a alerts =>
      have ha := halerting a List.mem_cons_self
      simp only [List.cons_append, List.cons.injEq] at hrest
      rw [← hrest.1] at ha
      exact ha.elim
  obtain ⟨-, -, -, -, hbound⟩ := hverdict _ han
  obtain ⟨g, hg, hup, -⟩ := hbound growingService rfl (by decide)
  have hgrant : g = .up 1 := by
    have hv : ((crowdedWorld.governor.record "svc" ⟨2, 0, 2, -1⟩).govern "svc" (.up 4)
        (crowdedWorld.ctx.monitoring.classify Probe.initial)).2 = .ok (.up 1) := by decide
    rw [hv] at hg
    exact (Except.ok.inj hg).symm
  subst hgrant
  exact ⟨w', q, hrun, rfl, .up 1, hg, rfl, hup rfl⟩

/-! ### A tick under pressure -/

/-- A service that opted out gets no alert and the analysis path. Any other gets exactly the
due alerts, whatever comes of sending them, and when the stage covers its priority it is
shed before any analysis: one scale-down by all its instances, or for an empty service only
the record of its snapshot. -/
theorem tick_sheds_before_analysis {u : Reading} {s : Snapshot} {rest : List Exchange}
    {q : Prog (Outcome Unit)} (hrun : Exec w (tick ctx c).run (tickOpening c u s ++ rest) w' q) :
    (s.optedOut = true → alertsSent rest = [] ∧
      ∃ an more, rest =
        ⟨.call (.record c.service s), ()⟩ :: ⟨.call (.analyse c.index s), an⟩ :: more) ∧
    (s.optedOut = false →
      alertsSent rest = (if ctx.monitoring.memoryAlertDue u then [.memoryOverload] else []) ++
        (if ctx.monitoring.diskAlertDue u then [.diskSpaceLow] else []) ∧
      (ctx.monitoring.thresholds.shouldShed (ctx.monitoring.classify u).highest s.priority = true →
        (∀ e ∈ rest, ¬e.Analysing) ∧
        commands rest = (if s.total = 0 then [] else [(c.service, .down s.total)]) ∧
        (s.total = 0 → ∃ alerts, rest = alerts ++ [⟨.call (.record c.service s), ()⟩] ∧
          (∀ e ∈ alerts, e.Alerting) ∧ q = .done (.ok ())))) := by
  obtain ⟨w₁, -, hopted, hrelieve⟩ := tick_opening ctx hrun
  refine ⟨fun hopt => ?_, fun hopt => ?_⟩
  · have hpath := hopted hopt
    obtain ⟨an, more, rfl, -⟩ := analysisPath_exec ctx hpath
    exact ⟨analysisPath_quiet ctx hpath, an, more, rfl⟩
  obtain ⟨alerts, w₂, es', rfl, halerting, hsent, -, hdecide⟩ :=
    relievePressure_bind_exec ctx (hrelieve hopt)
  cases hcovers :
      ctx.monitoring.thresholds.shouldShed (ctx.monitoring.classify u).highest s.priority with
  | false =>
    have hquiet := analysisPath_quiet ctx (shedding_bind_of_kept ctx hcovers hdecide)
    exact ⟨by rw [alertsSent_append, hsent, hquiet, List.append_nil], fun h => nomatch h⟩
  | true =>
    have hshed := shedding_tick_exec ctx hcovers hdecide
    -- the alerts send no command and ask neither the analyser nor the governor
    have hsilent : commands alerts = [] :=
      List.filterMap_eq_nil_iff.mpr fun e he => (halerting e he).command?_eq_none
    by_cases hempty : s.total = 0
    · obtain ⟨rfl, rfl⟩ := hshed.1 hempty
      refine ⟨by rw [alertsSent_append, hsent]; exact List.append_nil _, fun _ => ⟨fun e he => ?_, ?_,
        fun _ => ⟨alerts, rfl, halerting, rfl⟩⟩⟩
      · rcases List.mem_append.mp he with he | he
        · exact (halerting e he).not_analysing
        · rw [List.mem_singleton.mp he]
          exact id
      · rw [commands_append, hsilent, if_pos hempty]
        rfl
    · obtain ⟨x, es'', rfl, hsettle⟩ := hshed.2 hempty
      obtain ⟨hcommands, halerts⟩ := commands_alertsSent_of_inert fun e he => (hsettle e he).inert
      have hquiet : alertsSent (⟨.call (.scaleDown c.service s.total), x⟩ :: es'') = [] := by
        rw [alertsSent_cons, halerts]
        rfl
      refine ⟨by rw [alertsSent_append, hsent, hquiet, List.append_nil],
        fun _ => ⟨fun e he => ?_, ?_, fun h => absurd h hempty⟩⟩
      · rcases List.mem_append.mp he with he | he
        · exact (halerting e he).not_analysing
        · rcases List.mem_cons.mp he with rfl | he
          · exact id
          · exact (hsettle e he).not_analysing
      · rw [commands_append, hsilent, commands_cons, hcommands, if_neg hempty]
        rfl

/-- `crowdedWorld` with memory at 95%, past the third stage and the alert threshold, and "svc"
at shutdown priority zero, which every stage sheds. -/
def pressedWorld : World :=
  { crowdedWorld with
    probe := { reading := ⟨95.0, none⟩ }
    platform := { crowdedWorld.platform with
      deployments := [("other", { running := 3, priority := -1 }), ("svc", { running := 2 })] } }

/-- In `pressedWorld` the tick of "svc" sends the memory alert and sheds both its instances,
asking neither the analyser nor the governor. -/
theorem pressed_tick_sheds_after_alert :
    ∃ rest w' q, Exec pressedWorld (tick pressedWorld.ctx ⟨0, "svc", 0⟩).run
        (tickOpening ⟨0, "svc", 0⟩ ⟨95.0, none⟩ ⟨2, 0, 2, 0⟩ ++ rest) w' q ∧
      Snapshot.optedOut ⟨2, 0, 2, 0⟩ = false ∧
      pressedWorld.ctx.monitoring.thresholds.shouldShed
        (pressedWorld.ctx.monitoring.classify ⟨95.0, none⟩).highest 0 = true ∧
      alertsSent rest = [.memoryOverload] ∧ (∀ e ∈ rest, ¬e.Analysing) ∧
      commands rest = [("svc", .down 2)] := by
  -- the tick words and sends the alert, asks for the scale-down and sleeps
  have hrun : ∃ rest w' q, Exec pressedWorld (tick pressedWorld.ctx ⟨0, "svc", 0⟩).run
      (tickOpening ⟨0, "svc", 0⟩ ⟨95.0, none⟩ ⟨2, 0, 2, 0⟩ ++ rest) w' q :=
    ⟨_, _, _, .call (.call (.call (.call (.call (.call (.stop _ _ (Request.sleep_waits 0 1)))))))⟩
  obtain ⟨rest, w', q, hrun⟩ := hrun
  have hcovers : pressedWorld.ctx.monitoring.thresholds.shouldShed
      (pressedWorld.ctx.monitoring.classify ⟨95.0, none⟩).highest 0 = true := by decide
  have hmemory : pressedWorld.ctx.monitoring.memoryAlertDue ⟨95.0, none⟩ = true := by decide
  have hdisk : pressedWorld.ctx.monitoring.diskAlertDue ⟨95.0, none⟩ = false := rfl
  obtain ⟨halerts, hshed⟩ := (tick_sheds_before_analysis pressedWorld.ctx hrun).2 rfl
  obtain ⟨hquiet, hcommands, -⟩ := hshed hcovers
  rw [hmemory, hdisk] at halerts
  refine ⟨rest, w', q, hrun, rfl, hcovers, halerts, hquiet, ?_⟩
  rw [hcommands]
  rfl

end ScaleControl
