import Mathlib
import ScaleControl.Governor
import ScaleControl.Proofs.Keyed
import ScaleControl.Proofs.NineTenths
/-!
# Arbitration

What the governor makes of a service's request. An action takes a service from its count
of instances to a target count (`Action.target`), and `target_arbitrate` gives the target
of every arbitrated action in closed form. From it follow the bounds the governor keeps: a
service above its maximum goes down to it, a service within its bounds stays within them,
and a service below its minimum climbs back to it, growing past it only when no other
service holds it back.

A registered service holds the others back (`Governor.Starving`) while it has not reported
its instances, or while it runs below its minimum without being shed at the current stage.
-/
namespace ScaleControl

namespace Action

/-- The instance count an action leads to from `total`. It is an integer, so that an
action that would take the count below zero, or past a 32-bit word, shows as one. -/
def target (a : Action) (total : UInt32) : Int :=
  match a.operation with
  | .none => total.toNat
  | .scaleUp => total.toNat + a.amount.toNat
  | .scaleDown => (total.toNat : Int) - a.amount.toNat

@[simp] theorem up_operation (n : UInt32) : (up n).operation = .scaleUp := rfl

@[simp] theorem down_operation (n : UInt32) : (down n).operation = .scaleDown := rfl

@[simp] theorem noAction_operation : noAction.operation = .none := rfl

@[simp] theorem target_up (n total : UInt32) : (up n).target total = total.toNat + n.toNat :=
  rfl

@[simp] theorem target_down (n total : UInt32) :
    (down n).target total = (total.toNat : Int) - n.toNat := rfl

@[simp] theorem target_noAction (total : UInt32) : noAction.target total = total.toNat := rfl

theorem target_of_none {a : Action} (h : a.operation = .none) (total : UInt32) :
    a.target total = total.toNat := by
  simp [target, h]

theorem target_of_scaleDown {a : Action} (h : a.operation = .scaleDown) (total : UInt32) :
    a.target total = (total.toNat : Int) - a.amount.toNat := by
  simp [target, h]

end Action

/-- The count a service shrinks to while others are held back: nine tenths of its instances,
rounded down, or its minimum if that is more. -/
theorem toNat_shedTarget (lo total : UInt32) :
    (if lo ≤ nineTenths total then nineTenths total else lo).toNat =
      max lo.toNat (total.toNat * 9 / 10) := by
  rw [← toNat_nineTenths]
  split
  · rename_i h
    rw [UInt32.le_iff_toNat_le] at h
    omega
  · rename_i h
    rw [UInt32.le_iff_toNat_le] at h
    omega

/-! ### The arbitrated action -/

section Arbitrate

variable {a : Action} {total lo hi : UInt32} {met : Bool}

theorem arbitrate_of_max_lt (h : hi < total) :
    arbitrate a total lo hi met = .down (total - hi) := by
  simp [arbitrate, h]

/-- A request to grow while every other service meets its minimum grows by as much as the
maximum leaves room for. -/
theorem arbitrate_scaleUp_of_met (hT : total ≤ hi) (ha : a.operation = .scaleUp)
    (hmet : met = true) :
    arbitrate a total lo hi met =
      .up (if a.amount ≤ hi - total then a.amount else hi - total) := by
  simp [arbitrate, UInt32.not_lt.mpr hT, ha, hmet]

/-- A request to grow while another service is held back shrinks a service above its minimum
to nine tenths of its instances, but never below the minimum. -/
theorem arbitrate_scaleUp_of_starved (hT : total ≤ hi) (ha : a.operation = .scaleUp)
    (hmet : met = false) (hlo : lo < total) :
    arbitrate a total lo hi met =
      .down (total - if lo ≤ nineTenths total then nineTenths total else lo) := by
  have hlt : ¬total < lo := UInt32.not_lt.mpr (UInt32.le_of_lt hlo)
  simp [arbitrate, UInt32.not_lt.mpr hT, ha, hmet, hlt, (UInt32.ne_of_lt hlo).symm]

/-! The target of an arbitrated action for a service within its maximum, one lemma for each
kind of request. -/

theorem target_arbitrate_none (hT : total ≤ hi) (ha : a.operation = .none) :
    (arbitrate a total lo hi met).target total =
      if total.toNat < lo.toNat then lo.toNat else total.toNat := by
  simp only [arbitrate, UInt32.not_lt.mpr hT, if_false, ha]
  by_cases h : total < lo
  · have h' := UInt32.lt_iff_toNat_lt.mp h
    rw [if_pos h, if_pos h', Action.target_up, UInt32.toNat_sub_of_le _ _ (UInt32.le_of_lt h)]
    omega
  · have h' : ¬total.toNat < lo.toNat := by rwa [UInt32.lt_iff_toNat_lt] at h
    rw [if_neg h, if_neg h', Action.target_of_none ha]

theorem target_arbitrate_scaleUp (hT : total ≤ hi) (ha : a.operation = .scaleUp) :
    (arbitrate a total lo hi met).target total =
      if met then ((min (total.toNat + a.amount.toNat) hi.toNat : Nat) : Int)
      else if total.toNat ≤ lo.toNat then lo.toNat
      else ((max lo.toNat (total.toNat * 9 / 10) : Nat) : Int) := by
  cases met with
  | true =>
    have hroom : (hi - total).toNat = hi.toNat - total.toNat := UInt32.toNat_sub_of_le _ _ hT
    have hT' := UInt32.le_iff_toNat_le.mp hT
    rw [arbitrate_scaleUp_of_met hT ha rfl, if_pos rfl]
    split
    · rename_i h
      rw [UInt32.le_iff_toNat_le] at h
      rw [Action.target_up]
      omega
    · rename_i h
      rw [UInt32.le_iff_toNat_le] at h
      rw [Action.target_up]
      omega
  | false =>
    rw [if_neg Bool.false_ne_true]
    by_cases hlo : total ≤ lo
    · have hlo' := UInt32.le_iff_toNat_le.mp hlo
      simp only [arbitrate, UInt32.not_lt.mpr hT, if_false, ha, Bool.false_eq_true, if_pos hlo']
      by_cases h : total < lo
      · rw [if_pos h, Action.target_up, UInt32.toNat_sub_of_le _ _ hlo]
        omega
      · have heq : total = lo := by
          rw [UInt32.lt_iff_toNat_lt] at h
          exact UInt32.toNat_inj.mp (by omega)
        rw [if_neg h, if_pos heq, Action.target_noAction, heq]
    · have hlt : lo < total := UInt32.not_le.mp hlo
      have hlo' : ¬total.toNat ≤ lo.toNat := by rwa [UInt32.le_iff_toNat_le] at hlo
      have hnine := toNat_nineTenths total
      rw [arbitrate_scaleUp_of_starved hT ha rfl hlt, if_neg hlo']
      -- the count goes down to nine tenths of itself, or to the minimum if that is more
      split
      · rename_i h
        rw [UInt32.le_iff_toNat_le] at h
        rw [Action.target_down,
          UInt32.toNat_sub_of_le _ _ (UInt32.le_iff_toNat_le.mpr (by omega))]
        omega
      · rename_i h
        rw [UInt32.le_iff_toNat_le] at h
        rw [Action.target_down, UInt32.toNat_sub_of_le _ _ (UInt32.le_of_lt hlt)]
        omega

theorem target_arbitrate_scaleDown (hT : total ≤ hi) (ha : a.operation = .scaleDown) :
    (arbitrate a total lo hi met).target total =
      if total.toNat ≤ lo.toNat then (lo.toNat : Int)
      else if total.toNat - lo.toNat < a.amount.toNat then (lo.toNat : Int)
      else (total.toNat : Int) - a.amount.toNat := by
  simp only [arbitrate, UInt32.not_lt.mpr hT, if_false, ha]
  by_cases heq : total = lo
  · rw [if_pos heq, if_pos (by rw [heq]), Action.target_noAction, heq]
  · rw [if_neg heq]
    by_cases h : total < lo
    · have h' := UInt32.lt_iff_toNat_lt.mp h
      rw [if_pos h, if_pos h'.le, Action.target_up,
        UInt32.toNat_sub_of_le _ _ (UInt32.le_of_lt h)]
      omega
    · have hle : lo ≤ total := UInt32.not_lt.mp h
      have hgap : (total - lo).toNat = total.toNat - lo.toNat := UInt32.toNat_sub_of_le _ _ hle
      have hne : ¬total.toNat ≤ lo.toNat := fun h' =>
        heq (UInt32.toNat_inj.mp (by have := UInt32.le_iff_toNat_le.mp hle; omega))
      rw [if_neg h, if_neg hne]
      by_cases hbig : a.amount > total - lo
      · have hbig' : total.toNat - lo.toNat < a.amount.toNat := by
          rwa [GT.gt, UInt32.lt_iff_toNat_lt, hgap] at hbig
        rw [if_pos hbig, if_pos hbig', Action.target_down, hgap]
        omega
      · have hbig' : ¬total.toNat - lo.toNat < a.amount.toNat := by
          rwa [GT.gt, UInt32.lt_iff_toNat_lt, hgap] at hbig
        rw [if_neg hbig, if_neg hbig', Action.target_of_scaleDown ha]

/-! ### Bounds kept by arbitration -/

/-- A service within its maximum stays within it. -/
theorem target_arbitrate_le_max (hlohi : lo ≤ hi) (hT : total ≤ hi) :
    (arbitrate a total lo hi met).target total ≤ hi.toNat := by
  have := UInt32.le_iff_toNat_le.mp hlohi
  have := UInt32.le_iff_toNat_le.mp hT
  cases hop : a.operation with
  | none => rw [target_arbitrate_none hT hop]; split <;> omega
  | scaleUp => rw [target_arbitrate_scaleUp hT hop]; split <;> (try split) <;> omega
  | scaleDown => rw [target_arbitrate_scaleDown hT hop]; split <;> (try split) <;> omega

/-- A service at or above its minimum stays at or above it, also when it is above its
maximum and goes down to it. -/
theorem lo_le_target_arbitrate (hlohi : lo ≤ hi) (hlo : lo ≤ total) :
    lo.toNat ≤ (arbitrate a total lo hi met).target total := by
  have := UInt32.le_iff_toNat_le.mp hlohi
  have := UInt32.le_iff_toNat_le.mp hlo
  by_cases hT : total ≤ hi
  · cases hop : a.operation with
    | none => rw [target_arbitrate_none hT hop]; split <;> omega
    | scaleUp => rw [target_arbitrate_scaleUp hT hop]; split <;> (try split) <;> omega
    | scaleDown => rw [target_arbitrate_scaleDown hT hop]; split <;> (try split) <;> omega
  · have hgt : hi < total := UInt32.not_le.mp hT
    rw [arbitrate_of_max_lt hgt, Action.target_down, UInt32.toNat_sub_of_le _ _ (UInt32.le_of_lt hgt)]
    have := UInt32.lt_iff_toNat_lt.mp hgt
    omega

/-- A service below its minimum climbs, and climbs exactly to its minimum unless it asks to
grow while no other service holds it back. -/
theorem target_arbitrate_of_lt_lo (hlohi : lo ≤ hi) (hT : total < lo) :
    total.toNat ≤ (arbitrate a total lo hi met).target total ∧
      (¬(a.operation = .scaleUp ∧ met = true) →
        (arbitrate a total lo hi met).target total = lo.toNat) := by
  have hT' := UInt32.lt_iff_toNat_lt.mp hT
  have hhi : total ≤ hi := UInt32.le_iff_toNat_le.mpr (by
    have := UInt32.le_iff_toNat_le.mp hlohi; omega)
  have := UInt32.le_iff_toNat_le.mp hlohi
  cases hop : a.operation with
  | none =>
    rw [target_arbitrate_none hhi hop, if_pos hT']
    exact ⟨by omega, fun _ => rfl⟩
  | scaleUp =>
    rw [target_arbitrate_scaleUp hhi hop]
    cases met with
    | true => exact ⟨by simp only [if_true]; omega, fun h => absurd ⟨rfl, rfl⟩ h⟩
    | false =>
      rw [if_neg Bool.false_ne_true, if_pos hT'.le]
      exact ⟨by omega, fun _ => rfl⟩
  | scaleDown =>
    rw [target_arbitrate_scaleDown hhi hop, if_pos hT'.le]
    exact ⟨by omega, fun _ => rfl⟩

/-- Below its minimum, every request becomes a scale-up. -/
theorem arbitrate_operation_of_lt_lo (hlohi : lo ≤ hi) (hT : total < lo) :
    (arbitrate a total lo hi met).operation = .scaleUp := by
  have hhi : ¬hi < total := by
    rw [UInt32.lt_iff_toNat_lt]
    have := UInt32.le_iff_toNat_le.mp hlohi
    have := UInt32.lt_iff_toNat_lt.mp hT
    omega
  unfold arbitrate
  rw [if_neg hhi]
  cases ha : a.operation with
  | none => simp [hT]
  | scaleUp => cases met <;> simp [hT]
  | scaleDown => simp [UInt32.ne_of_lt hT, hT]

/-- At its minimum, a service that does not ask to grow is left as it is. -/
theorem arbitrate_operation_of_eq_lo (hlohi : lo ≤ hi) (hT : total = lo)
    (hop : a.operation ≠ .scaleUp) : (arbitrate a total lo hi met).operation = .none := by
  subst hT
  unfold arbitrate
  rw [if_neg (UInt32.not_lt.mpr hlohi)]
  cases ha : a.operation with
  | none => simp [ha]
  | scaleUp => exact absurd ha hop
  | scaleDown => simp

/-- While another service is held back, no service within its maximum ends above both its
minimum and its current count. -/
theorem target_arbitrate_le_of_starved (hT : total ≤ hi) (hmet : met = false) :
    (arbitrate a total lo hi met).target total ≤ ((max lo.toNat total.toNat : Nat) : Int) := by
  subst hmet
  cases hop : a.operation with
  | none => rw [target_arbitrate_none hT hop]; split <;> omega
  | scaleUp => rw [target_arbitrate_scaleUp hT hop]; simp only [Bool.false_eq_true, if_false]; split <;> omega
  | scaleDown => rw [target_arbitrate_scaleDown hT hop]; split <;> (try split) <;> omega

/-- A verdict to grow stays within the maximum; one to shrink stays at or above the minimum,
unless it brings a service above its maximum down to it. -/
theorem arbitrate_within (hlohi : lo ≤ hi) :
    ((arbitrate a total lo hi met).operation = .scaleUp →
        (arbitrate a total lo hi met).target total ≤ hi.toNat) ∧
      ((arbitrate a total lo hi met).operation = .scaleDown →
        lo.toNat ≤ (arbitrate a total lo hi met).target total ∨
          (hi < total ∧ (arbitrate a total lo hi met).target total = hi.toNat)) := by
  by_cases hT : total ≤ hi
  · refine ⟨fun _ => target_arbitrate_le_max hlohi hT, fun hdown => .inl ?_⟩
    by_cases hlo : lo ≤ total
    · exact lo_le_target_arbitrate hlohi hlo
    · -- below its minimum every verdict is to grow
      rw [arbitrate_operation_of_lt_lo hlohi (UInt32.not_le.mp hlo)] at hdown
      cases hdown
  · have hgt : hi < total := UInt32.not_le.mp hT
    rw [arbitrate_of_max_lt hgt]
    refine ⟨fun hup => by simp at hup, fun _ => .inr ⟨hgt, ?_⟩⟩
    rw [Action.target_down, UInt32.toNat_sub_of_le _ _ (UInt32.le_of_lt hgt)]
    have := UInt32.lt_iff_toNat_lt.mp hgt
    omega

end Arbitrate

/-! ### The governor's verdict -/

namespace Governor

variable {η : Type}

/-- Registered service `o`, with descriptor `d`, holds back the others' growth at `stage`: it
has not reported its instances yet, or it runs below its minimum without being shed at that
stage. -/
def Starving (g : Governor η) (stage : Stage) (o : String) (d : Descriptor) : Prop :=
  match g.records.get? o with
  | none => True
  | some r =>
    r.snapshot.total < d.minInstances ∧ g.thresholds.shouldShed stage r.snapshot.priority = false

/-- The governor's check of the other services passes exactly when none of them starves. -/
theorem othersMeetMinimum_iff {g : Governor η} {id : String} {stage : Stage} :
    g.othersMeetMinimum id stage = true ↔
      ∀ o d, (o, d) ∈ g.configs → o ≠ id → ¬g.Starving stage o d := by
  simp only [othersMeetMinimum, List.all_eq_true, Prod.forall]
  refine forall_congr' fun o => forall_congr' fun d => imp_congr_right fun _ => ?_
  unfold Starving
  cases g.records.get? o with
  | none => simp
  | some r => by_cases h : o = id <;> simp [h, imp_iff_not_or]

theorem othersMeetMinimum_eq_false_iff {g : Governor η} {id : String} {stage : Stage} :
    g.othersMeetMinimum id stage = false ↔
      ∃ o d, (o, d) ∈ g.configs ∧ o ≠ id ∧ g.Starving stage o d := by
  rw [← Bool.not_eq_true, othersMeetMinimum_iff]
  simp only [not_forall, not_not, exists_prop]

/-- Changing records in a way that keeps their snapshots leaves the check of the others as it
was: the check reads only snapshots. -/
theorem othersMeetMinimum_modify (g : Governor η) (key : String) (f : Record → Record)
    (hf : ∀ r, (f r).snapshot = r.snapshot) (id : String) (stage : Stage) :
    ({ g with records := g.records.modify key f } : Governor η).othersMeetMinimum id stage =
      g.othersMeetMinimum id stage := by
  unfold othersMeetMinimum
  congr 1
  funext entry
  obtain ⟨o, d⟩ := entry
  dsimp only
  rw [Keyed.get?_modify]
  by_cases hk : o = key
  · rw [if_pos hk]
    cases g.records.get? o with
    | none => rfl
    | some r => simp only [Option.map_some, hf]
  · rw [if_neg hk]

/-! ### Recording a snapshot -/

theorem configs_record (g : Governor η) (id : String) (s : Snapshot) :
    (g.record id s).configs = g.configs := by
  unfold record
  split
  · rfl
  · split <;> rfl

/-- Recording a registered service's snapshot makes it the snapshot of the service's record. -/
theorem records_record_self {g : Governor η} {id : String} {d : Descriptor}
    (hd : g.configs.get? id = some d) (s : Snapshot) :
    ∃ r, (g.record id s).records.get? id = some r ∧ r.snapshot = s := by
  have hregistered : g.isRegistered id = true := by
    rw [isRegistered, Keyed.contains_eq_isSome, hd]
    rfl
  unfold record
  rw [hregistered, Bool.not_true, if_neg Bool.false_ne_true]
  cases hr : g.records.get? id with
  | none => exact ⟨⟨s, s.total⟩, Keyed.get?_put_self .., rfl⟩
  | some r =>
    refine ⟨{ r with snapshot := s }, ?_, rfl⟩
    rw [Keyed.get?_modify, if_pos rfl, hr]
    rfl

/-- A registered service with a record gets its request arbitrated against its own bounds,
with whether the others meet their minimums. -/
theorem govern_of_recorded {g : Governor η} {id : String} {d : Descriptor} {r : Record}
    (hd : g.configs.get? id = some d) (hr : g.records.get? id = some r) (a : Action)
    (stages : Stages) :
    (g.govern id a stages).2 =
      .ok (arbitrate a r.snapshot.total d.minInstances d.maxInstances
        (g.othersMeetMinimum id stages.highest)) := by
  simp only [govern, hd, hr]
  rw [othersMeetMinimum_modify g id (fun r => { r with desired := desiredInstances r.snapshot a })
    (fun _ => rfl)]

/-- Right after a registered service's snapshot `s` is recorded, the verdict on its request
is given and keeps it within its bounds as counted from `s`. -/
theorem govern_record_within {g : Governor η} {id : String} {d : Descriptor}
    (hd : g.configs.get? id = some d) (hlohi : d.minInstances ≤ d.maxInstances) (s : Snapshot)
    (a : Action) (stages : Stages) :
    ∃ act, ((g.record id s).govern id a stages).2 = .ok act ∧
      (act.operation = .scaleUp → act.target s.total ≤ d.maxInstances.toNat) ∧
      (act.operation = .scaleDown → d.minInstances.toNat ≤ act.target s.total ∨
        (d.maxInstances < s.total ∧ act.target s.total = d.maxInstances.toNat)) := by
  obtain ⟨r, hr, rfl⟩ := records_record_self hd s
  have hd' : (g.record id r.snapshot).configs.get? id = some d := by
    rw [configs_record]
    exact hd
  exact ⟨_, govern_of_recorded hd' hr a stages, arbitrate_within hlohi⟩

/-! ### Bounds of the verdict -/

/-- The governor's verdict on any request of a registered service with a record keeps the
service within its bounds. Above its maximum it goes down to it; within its maximum it stays
within; at or above its minimum it stays there; below its minimum it climbs, and to exactly
its minimum unless it asks to grow while no other service holds it back. At its minimum, a
request that is not to grow leaves it as it is. The target count is an integer, so a verdict
whose count would wrap around a 32-bit word could not meet these bounds. -/
theorem govern_keeps_bounds {g : Governor η} {id : String} {d : Descriptor} {r : Record}
    (a : Action) (stages : Stages) (hd : g.configs.get? id = some d)
    (hr : g.records.get? id = some r) (hlohi : d.minInstances ≤ d.maxInstances) :
    ∃ act, (g.govern id a stages).2 = .ok act ∧
      (d.maxInstances < r.snapshot.total → act = .down (r.snapshot.total - d.maxInstances)) ∧
      (r.snapshot.total ≤ d.maxInstances →
        act.target r.snapshot.total ≤ d.maxInstances.toNat) ∧
      (d.minInstances ≤ r.snapshot.total →
        d.minInstances.toNat ≤ act.target r.snapshot.total) ∧
      (r.snapshot.total < d.minInstances →
        r.snapshot.total.toNat ≤ act.target r.snapshot.total ∧
        (¬(a.operation = .scaleUp ∧
            ∀ o e, (o, e) ∈ g.configs → o ≠ id → ¬g.Starving stages.highest o e) →
          act.target r.snapshot.total = d.minInstances.toNat)) ∧
      (r.snapshot.total = d.minInstances → a.operation ≠ .scaleUp → act.operation = .none) := by
  refine ⟨_, govern_of_recorded hd hr a stages, arbitrate_of_max_lt,
    target_arbitrate_le_max hlohi, lo_le_target_arbitrate hlohi, fun hT => ?_,
    arbitrate_operation_of_eq_lo hlohi⟩
  obtain ⟨hclimb, hexact⟩ :=
    @target_arbitrate_of_lt_lo a _ _ _ (g.othersMeetMinimum id stages.highest) hlohi hT
  exact ⟨hclimb, fun h => hexact fun ⟨hup, hmet⟩ => h ⟨hup, othersMeetMinimum_iff.mp hmet⟩⟩

/-- A service of minimum two and maximum five, with one instance, asks for four more while a
second registered service has not reported: it climbs to its minimum. -/
theorem govern_keeps_bounds_below_minimum :
    let d : Descriptor := ⟨"a", 30, 2, 5, 1, none, none, "queue", "jobs", none⟩
    let r : Record := ⟨⟨1, 0, 1, 3⟩, 1⟩
    let g : Governor Nat :=
      { thresholds := {}, configs := [("a", d), ("b", { d with id := "b" })],
        records := [("a", r)] }
    g.configs.get? "a" = some d ∧ g.records.get? "a" = some r ∧
      d.minInstances ≤ d.maxInstances ∧
      ∃ act, (g.govern "a" (.up 4) Stages.calm).2 = .ok act ∧
        (d.maxInstances < r.snapshot.total → act = .down (r.snapshot.total - d.maxInstances)) ∧
        (r.snapshot.total ≤ d.maxInstances →
          act.target r.snapshot.total ≤ d.maxInstances.toNat) ∧
        (d.minInstances ≤ r.snapshot.total →
          d.minInstances.toNat ≤ act.target r.snapshot.total) ∧
        (r.snapshot.total < d.minInstances →
          r.snapshot.total.toNat ≤ act.target r.snapshot.total ∧
          (¬((Action.up 4).operation = .scaleUp ∧
              ∀ o e, (o, e) ∈ g.configs → o ≠ "a" → ¬g.Starving Stages.calm.highest o e) →
            act.target r.snapshot.total = d.minInstances.toNat)) ∧
        (r.snapshot.total = d.minInstances → (Action.up 4).operation ≠ .scaleUp →
          act.operation = .none) :=
  ⟨by decide, by decide, by decide,
    govern_keeps_bounds (.up 4) Stages.calm (by decide) (by decide) (by decide)⟩

/-- While another registered service starves, no request takes a service within its maximum
above both its minimum and its current count, and a request to grow from above the minimum
gives instances back: the count goes down, strictly, to nine tenths of itself rounded down,
but not below the minimum. While none starves, a request to grow gets as much as the
maximum leaves room for. -/
theorem govern_yields_to_starving {g : Governor η} {id : String} {d : Descriptor} {r : Record}
    (a : Action) (stages : Stages) (hd : g.configs.get? id = some d)
    (hr : g.records.get? id = some r) (hT : r.snapshot.total ≤ d.maxInstances) :
    ((∃ o e, (o, e) ∈ g.configs ∧ o ≠ id ∧ g.Starving stages.highest o e) →
      (∃ act, (g.govern id a stages).2 = .ok act ∧
        act.target r.snapshot.total ≤
          ((max d.minInstances.toNat r.snapshot.total.toNat : Nat) : Int)) ∧
      (a.operation = .scaleUp → d.minInstances < r.snapshot.total →
        ∃ k, (g.govern id a stages).2 = .ok (.down k) ∧
          k.toNat = r.snapshot.total.toNat -
            max d.minInstances.toNat (r.snapshot.total.toNat * 9 / 10) ∧
          0 < k.toNat ∧ d.minInstances.toNat ≤ r.snapshot.total.toNat - k.toNat)) ∧
    ((¬∃ o e, (o, e) ∈ g.configs ∧ o ≠ id ∧ g.Starving stages.highest o e) →
      a.operation = .scaleUp →
      (g.govern id a stages).2 = .ok (.up (min a.amount (d.maxInstances - r.snapshot.total)))) := by
  rw [govern_of_recorded hd hr a stages]
  constructor
  · intro hstarving
    have hmet := othersMeetMinimum_eq_false_iff.mpr hstarving
    rw [hmet]
    refine ⟨⟨_, rfl, target_arbitrate_le_of_starved hT rfl⟩, fun hop hlo => ?_⟩
    -- the shed target lies between the minimum and the current count
    have hlo' := UInt32.lt_iff_toNat_lt.mp hlo
    have htarget := toNat_shedTarget d.minInstances r.snapshot.total
    have hle : (if d.minInstances ≤ nineTenths r.snapshot.total then nineTenths r.snapshot.total
        else d.minInstances) ≤ r.snapshot.total := by
      rw [UInt32.le_iff_toNat_le, htarget]
      omega
    refine ⟨_, congrArg Except.ok (arbitrate_scaleUp_of_starved hT hop rfl hlo), ?_, ?_, ?_⟩ <;>
      rw [UInt32.toNat_sub_of_le _ _ hle, htarget] <;> omega
  · intro hnone hop
    have hmet : g.othersMeetMinimum id stages.highest = true := by
      rw [othersMeetMinimum_iff]
      intro o e he hne hst
      exact hnone ⟨o, e, he, hne, hst⟩
    rw [hmet, arbitrate_scaleUp_of_met hT hop rfl]
    rfl

/-- A service of minimum two with four instances asks for one more while a second registered
service has not reported: it gives one instance back. -/
theorem govern_yields_to_unreported :
    let d : Descriptor := ⟨"a", 30, 2, 5, 1, none, none, "queue", "jobs", none⟩
    let r : Record := ⟨⟨4, 0, 4, 3⟩, 4⟩
    let g : Governor Nat :=
      { thresholds := {}, configs := [("a", d), ("b", { d with id := "b" })],
        records := [("a", r)] }
    g.configs.get? "a" = some d ∧ g.records.get? "a" = some r ∧
      r.snapshot.total ≤ d.maxInstances ∧
      ((∃ o e, (o, e) ∈ g.configs ∧ o ≠ "a" ∧ g.Starving Stages.calm.highest o e) →
        (∃ act, (g.govern "a" (.up 1) Stages.calm).2 = .ok act ∧
          act.target r.snapshot.total ≤
            ((max d.minInstances.toNat r.snapshot.total.toNat : Nat) : Int)) ∧
        ((Action.up 1).operation = .scaleUp → d.minInstances < r.snapshot.total →
          ∃ k, (g.govern "a" (.up 1) Stages.calm).2 = .ok (.down k) ∧
            k.toNat = r.snapshot.total.toNat -
              max d.minInstances.toNat (r.snapshot.total.toNat * 9 / 10) ∧
            0 < k.toNat ∧ d.minInstances.toNat ≤ r.snapshot.total.toNat - k.toNat)) ∧
      ((¬∃ o e, (o, e) ∈ g.configs ∧ o ≠ "a" ∧ g.Starving Stages.calm.highest o e) →
        (Action.up 1).operation = .scaleUp →
        (g.govern "a" (.up 1) Stages.calm).2 =
          .ok (.up (min (Action.up 1).amount (d.maxInstances - r.snapshot.total)))) :=
  ⟨by decide, by decide, by decide,
    govern_yields_to_starving (.up 1) Stages.calm (by decide) (by decide) (by decide)⟩

end Governor

end ScaleControl
