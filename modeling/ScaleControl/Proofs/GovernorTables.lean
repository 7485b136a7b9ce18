import Mathlib
import ScaleControl.Governor
import ScaleControl.Proofs.Keyed
import ScaleControl.Proofs.Arbitration
/-!
# The governor's tables

The governor keeps three tables by service: registrations (descriptors), records (the latest
snapshot with the desired count) and donor handles. Each operation is described here by what
a lookup in each table finds after it, and from those descriptions follows the invariant every
sequence of operations keeps: a service with a record is registered (`RecordsRegistered`).

Recording a snapshot of a service that is not registered changes nothing, so a snapshot that
arrives after the service was removed leaves nothing behind; governing such a service fails
and changes nothing either. Asking for a relative difference or for a donor only reads the
tables: a donor that gives up an instance records its new snapshot itself, through `record`.
-/
namespace ScaleControl.Governor

variable {η : Type}

theorem isRegistered_eq_isSome (g : Governor η) (id : String) :
    g.isRegistered id = (g.configs.get? id).isSome :=
  Keyed.contains_eq_isSome g.configs id

/-! ### Registering, listening and removing -/

@[simp] theorem records_register (g : Governor η) (d : Descriptor) :
    (g.register d).records = g.records := rfl

@[simp] theorem donors_register (g : Governor η) (d : Descriptor) :
    (g.register d).donors = g.donors := rfl

theorem configs_get?_register (g : Governor η) (d : Descriptor) (k : String) :
    (g.register d).configs.get? k = if k = d.id then some d else g.configs.get? k :=
  Keyed.get?_put g.configs d.id d k

@[simp] theorem configs_listen (g : Governor η) (id : String) (h : η) :
    (g.listen id h).configs = g.configs := rfl

@[simp] theorem records_listen (g : Governor η) (id : String) (h : η) :
    (g.listen id h).records = g.records := rfl

theorem configs_get?_remove (g : Governor η) (id k : String) :
    (g.remove id).configs.get? k = if k = id then none else g.configs.get? k :=
  Keyed.get?_erase g.configs id k

theorem records_get?_remove (g : Governor η) (id k : String) :
    (g.remove id).records.get? k = if k = id then none else g.records.get? k :=
  Keyed.get?_erase g.records id k

theorem donors_get?_remove (g : Governor η) (id k : String) :
    (g.remove id).donors.get? k = if k = id then none else g.donors.get? k :=
  Keyed.get?_erase g.donors id k

/-! ### Recording -/

theorem record_of_not_registered {g : Governor η} {id : String} (h : g.isRegistered id = false)
    (s : Snapshot) : g.record id s = g := by
  simp [record, h]

@[simp] theorem donors_record (g : Governor η) (id : String) (s : Snapshot) :
    (g.record id s).donors = g.donors := by
  unfold record
  split
  · rfl
  · split <;> rfl

@[simp] theorem thresholds_record (g : Governor η) (id : String) (s : Snapshot) :
    (g.record id s).thresholds = g.thresholds := by
  unfold record
  split
  · rfl
  · split <;> rfl

/-- Recording a registered service's snapshot gives it a record with that snapshot, keeping
its desired count, or starting it at the snapshot's total if it had no record; every other
record stays. -/
theorem records_get?_record {g : Governor η} {id : String} (h : g.isRegistered id = true)
    (s : Snapshot) (k : String) :
    (g.record id s).records.get? k =
      if k = id then some ⟨s, ((g.records.get? id).map (·.desired)).getD s.total⟩
      else g.records.get? k := by
  unfold record
  rw [h, Bool.not_true, if_neg Bool.false_ne_true]
  cases hr : g.records.get? id with
  | none =>
    rw [Keyed.get?_put]
    rfl
  | some r =>
    change (g.records.modify id fun r => { r with snapshot := s }).get? k = _
    rw [Keyed.get?_modify]
    split
    · rename_i hk
      rw [hk, hr]
      rfl
    · rfl

/-! ### Governing -/

theorem govern_of_not_registered {g : Governor η} {id : String} (h : g.isRegistered id = false)
    (a : Action) (stages : Stages) : g.govern id a stages = (g, .error (.notRegistered id)) := by
  rw [isRegistered_eq_isSome, Option.isSome_eq_false_iff, Option.isNone_iff_eq_none] at h
  simp [govern, h]

theorem govern_of_unrecorded {g : Governor η} {id : String} (h : g.isRegistered id = true)
    (hr : g.records.get? id = none) (a : Action) (stages : Stages) :
    g.govern id a stages = (g, .ok a) := by
  rw [isRegistered_eq_isSome, Option.isSome_iff_exists] at h
  obtain ⟨d, hd⟩ := h
  simp [govern, hd, hr]

/-- Governing a registered service with a record changes only its record's desired count,
to the count its request asks for from the recorded snapshot. -/
theorem govern_fst_of_recorded {g : Governor η} {id : String} {r : Record}
    (h : g.isRegistered id = true) (hr : g.records.get? id = some r) (a : Action)
    (stages : Stages) :
    (g.govern id a stages).1 =
      { g with records := g.records.modify id fun r => { r with desired := desiredInstances r.snapshot a } } := by
  rw [isRegistered_eq_isSome, Option.isSome_iff_exists] at h
  obtain ⟨d, hd⟩ := h
  simp [govern, hd, hr]

theorem records_get?_govern {g : Governor η} {id : String} {r : Record}
    (h : g.isRegistered id = true) (hr : g.records.get? id = some r) (a : Action)
    (stages : Stages) (k : String) :
    (g.govern id a stages).1.records.get? k =
      if k = id then some { r with desired := desiredInstances r.snapshot a }
      else g.records.get? k := by
  rw [govern_fst_of_recorded h hr, Keyed.get?_modify]
  split
  · rename_i hk
    rw [hk, hr]
    rfl
  · rfl

@[simp] theorem configs_govern (g : Governor η) (id : String) (a : Action) (stages : Stages) :
    (g.govern id a stages).1.configs = g.configs := by
  unfold govern
  split
  · rfl
  · split <;> rfl

/-- Governing keeps the set of services with a record. -/
theorem records_isSome_govern (g : Governor η) (id : String) (a : Action) (stages : Stages)
    (k : String) :
    ((g.govern id a stages).1.records.get? k).isSome = (g.records.get? k).isSome := by
  cases hreg : g.isRegistered id with
  | false => rw [govern_of_not_registered hreg]
  | true =>
    cases hr : g.records.get? id with
    | none => rw [govern_of_unrecorded hreg hr]
    | some r =>
      rw [records_get?_govern hreg hr]
      split
      · rename_i hk
        rw [hk, hr]
        rfl
      · rfl

/-! ### Records stay within registrations -/

/-- Every service with a record is registered. -/
def RecordsRegistered (g : Governor η) : Prop :=
  ∀ id, (g.records.get? id).isSome → g.isRegistered id

/-- A call on the governor. Asking for a relative difference, or asking for room on behalf of a
service (which picks a donor), only reads the tables; the donor records its new snapshot with
a `record` of its own. -/
inductive Op (η : Type) where
  | register (d : Descriptor)
  | listen (id : String) (donor : η)
  | remove (id : String)
  | record (id : String) (s : Snapshot)
  | govern (id : String) (a : Action) (stages : Stages)
  | relativeDifference (id : String)
  | freeUp (id : String)

/-- The governor after a call. -/
def step (g : Governor η) : Op η → Governor η
  | .register d => g.register d
  | .listen id h => g.listen id h
  | .remove id => g.remove id
  | .record id s => g.record id s
  | .govern id a stages => (g.govern id a stages).1
  | .relativeDifference _ => g
  | .freeUp _ => g

/-- A new governor after a sequence of calls. -/
def run (t : Thresholds) (ops : List (Op η)) : Governor η := ops.foldl step { thresholds := t }

namespace RecordsRegistered

variable {g : Governor η}

theorem register (hg : g.RecordsRegistered) (d : Descriptor) : (g.register d).RecordsRegistered := by
  intro k hk
  have hreg := hg k hk
  rw [isRegistered_eq_isSome] at hreg ⊢
  rw [configs_get?_register]
  split
  · rfl
  · exact hreg

theorem remove (hg : g.RecordsRegistered) (id : String) : (g.remove id).RecordsRegistered := by
  intro k hk
  rw [records_get?_remove] at hk
  rw [isRegistered_eq_isSome, configs_get?_remove]
  split
  · rename_i hkid
    rw [if_pos hkid] at hk
    exact absurd hk Bool.false_ne_true
  · rename_i hkid
    rw [if_neg hkid] at hk
    rw [← isRegistered_eq_isSome]
    exact hg k hk

theorem record (hg : g.RecordsRegistered) (id : String) (s : Snapshot) :
    (g.record id s).RecordsRegistered := by
  cases hreg : g.isRegistered id with
  | false => rwa [record_of_not_registered hreg]
  | true =>
    intro k hk
    -- the record of `id` is new or kept; any other record was there before
    rw [records_get?_record hreg] at hk
    rw [isRegistered, configs_record, ← isRegistered]
    by_cases hkid : k = id
    · rw [hkid]
      exact hreg
    · rw [if_neg hkid] at hk
      exact hg k hk

theorem govern (hg : g.RecordsRegistered) (id : String) (a : Action) (stages : Stages) :
    (g.govern id a stages).1.RecordsRegistered := by
  intro k hk
  rw [records_isSome_govern] at hk
  rw [isRegistered, configs_govern, ← isRegistered]
  exact hg k hk

theorem step (hg : g.RecordsRegistered) : ∀ op : Op η, (g.step op).RecordsRegistered
  | .register d => hg.register d
  | .listen _ _ => hg
  | .remove id => hg.remove id
  | .record id s => hg.record id s
  | .govern id a stages => hg.govern id a stages
  | .relativeDifference _ => hg
  | .freeUp _ => hg

theorem foldl_step (hg : g.RecordsRegistered) (ops : List (Op η)) :
    (ops.foldl Governor.step g).RecordsRegistered := by
  induction ops generalizing g with
  | nil => exact hg
  | cons op ops ih => exact ih (hg.step op)

end RecordsRegistered

/-- Whatever calls a new governor gets, every service with a record is registered. -/
theorem run_recordsRegistered (t : Thresholds) (ops : List (Op η)) :
    (run t ops).RecordsRegistered :=
  RecordsRegistered.foldl_step (fun _ h => by simp at h) ops

/-- The governor's bookkeeping. After any sequence of calls on a new governor, every service
with a record is registered. A snapshot of a service that is not registered is dropped, and
governing such a service fails with `notRegistered`; neither changes the governor. Governing a
registered service without a record hands its request back and changes nothing; with a
record, only that record's desired count changes, to what the request asks for from the
recorded snapshot. Recording a registered service's snapshot replaces the snapshot alone, and
a first record starts the desired count at the snapshot's total. Removing a service forgets its
registration, its record and its donor. -/
theorem governor_bookkeeping :
    (∀ (t : Thresholds) (ops : List (Op η)), (run t ops).RecordsRegistered) ∧
    (∀ (g : Governor η) id s, g.isRegistered id = false → g.record id s = g) ∧
    (∀ (g : Governor η) id a stages, g.isRegistered id = false →
      g.govern id a stages = (g, .error (.notRegistered id))) ∧
    (∀ (g : Governor η) id a stages, g.isRegistered id = true → g.records.get? id = none →
      g.govern id a stages = (g, .ok a)) ∧
    (∀ (g : Governor η) id r a stages, g.isRegistered id = true → g.records.get? id = some r →
      (g.govern id a stages).1 =
        { g with records := g.records.modify id fun r =>
            { r with desired := desiredInstances r.snapshot a } } ∧
      ∀ k, (g.govern id a stages).1.records.get? k =
        if k = id then some { r with desired := desiredInstances r.snapshot a }
        else g.records.get? k) ∧
    (∀ (g : Governor η) id s, g.isRegistered id = true →
      (g.record id s).configs = g.configs ∧ (g.record id s).donors = g.donors ∧
      (g.record id s).thresholds = g.thresholds ∧
      ∀ k, (g.record id s).records.get? k =
        if k = id then some ⟨s, ((g.records.get? id).map (·.desired)).getD s.total⟩
        else g.records.get? k) ∧
    (∀ (g : Governor η) id k,
      (g.remove id).configs.get? k = (if k = id then none else g.configs.get? k) ∧
      (g.remove id).records.get? k = (if k = id then none else g.records.get? k) ∧
      (g.remove id).donors.get? k = (if k = id then none else g.donors.get? k)) :=
  ⟨run_recordsRegistered,
    fun _ _ s h => record_of_not_registered h s,
    fun _ _ a stages h => govern_of_not_registered h a stages,
    fun _ _ a stages h hr => govern_of_unrecorded h hr a stages,
    fun _ _ _ a stages h hr => ⟨govern_fst_of_recorded h hr a stages, records_get?_govern h hr a stages⟩,
    fun g id s h => ⟨configs_record g id s, donors_record g id s, thresholds_record g id s,
      records_get?_record h s⟩,
    fun g id k => ⟨configs_get?_remove g id k, records_get?_remove g id k,
      donors_get?_remove g id k⟩⟩

/-- Service `a` is registered with a record and `b` without one: a snapshot of the unregistered
`ghost` is dropped and governing it fails; `b` gets its request back; governing `a` sets its
desired count from its recorded snapshot; and `b`'s first snapshot starts its desired count at
the snapshot's total. -/
theorem governor_bookkeeping_sample :
    let d : Descriptor := ⟨"a", 30, 2, 5, 1, none, none, "queue", "jobs", none⟩
    let r : Record := ⟨⟨4, 0, 4, 3⟩, 4⟩
    let g : Governor Unit :=
      { thresholds := {}, configs := [("a", d), ("b", { d with id := "b" })],
        records := [("a", r)] }
    let s : Snapshot := ⟨2, 1, 3, 0⟩
    (g.isRegistered "ghost" = false ∧ g.record "ghost" s = g) ∧
    (g.isRegistered "ghost" = false ∧
      g.govern "ghost" (.up 1) Stages.calm = (g, .error (.notRegistered "ghost"))) ∧
    (g.isRegistered "b" = true ∧ g.records.get? "b" = none ∧
      g.govern "b" (.up 1) Stages.calm = (g, .ok (.up 1))) ∧
    (g.isRegistered "a" = true ∧ g.records.get? "a" = some r ∧
      (g.govern "a" (.down 1) Stages.calm).1.records.get? "a" =
        some { r with desired := desiredInstances r.snapshot (.down 1) }) ∧
    (g.isRegistered "b" = true ∧ (g.record "b" s).records.get? "b" = some ⟨s, s.total⟩) := by
  intro d r g s
  obtain ⟨-, hdropped, hfails, hunrecorded, hgoverned, hrecorded, -⟩ :=
    governor_bookkeeping (η := Unit)
  have hghost : g.isRegistered "ghost" = false := by decide
  have ha : g.isRegistered "a" = true := by decide
  have hb : g.isRegistered "b" = true := by decide
  have hra : g.records.get? "a" = some r := by decide
  have hrb : g.records.get? "b" = none := by decide
  refine ⟨⟨hghost, hdropped g "ghost" s hghost⟩, ⟨hghost, hfails g "ghost" _ _ hghost⟩,
    ⟨hb, hrb, hunrecorded g "b" _ _ hb hrb⟩, ⟨ha, hra, ?_⟩, ⟨hb, ?_⟩⟩
  · rw [(hgoverned g "a" r (.down 1) Stages.calm ha hra).2 "a", if_pos rfl]
  · rw [(hrecorded g "b" s hb).2.2.2 "b", if_pos rfl, hrb]
    rfl

end ScaleControl.Governor
