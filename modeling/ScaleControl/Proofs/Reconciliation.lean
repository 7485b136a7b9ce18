import Mathlib
import ScaleControl.Proofs.Scheduling
import ScaleControl.Proofs.GovernorTables
/-!
# Reconciling twice

What a reconcile leaves behind, and when a second reconcile with the same inventory changes
nothing.

A service is *in place* when it is scheduled with its own descriptor, or when no analyser
factory serves its workload metric and neither the reconciler nor the governor holds anything
under its id. The world is *reconciled* with a list of services when every scheduled id is one
of theirs and each of them is in place.

A reconcile that does not overflow leaves the world reconciled with the accepted descriptors
if their ids are distinct (`reconciled_reconcile`), and a reconcile of a world reconciled with
its accepted descriptors changes nothing (`reconcile_of_reconciled`): reconciling twice is
reconciling once (`reconcile_idempotent`). Two accepted descriptors that share an id are never
both in place, and each reconcile replaces the one it finds by the other
(`reconcile_churns_on_shared_id`).
-/
namespace ScaleControl

namespace Keyed

variable {α : Type}

/-- Erasing a key without a value changes nothing. -/
theorem erase_of_get?_eq_none {t : Keyed α} {k : String} (h : t.get? k = none) :
    t.erase k = t := by
  induction t with
  | nil => rfl
  | cons e t ih =>
    obtain ⟨k₀, v⟩ := e
    rw [get?_cons] at h
    by_cases h₀ : k₀ = k
    · rw [if_pos h₀] at h
      exact absurd h (Option.some_ne_none v)
    · rw [if_neg h₀] at h
      rw [erase_cons, if_neg h₀, ih h]

theorem get?_foldl_erase (gs : List String) (t : Keyed α) (k : String) :
    (gs.foldl Keyed.erase t).get? k = if k ∈ gs then none else t.get? k := by
  induction gs generalizing t with
  | nil => simp
  | cons g gs ih =>
    rw [List.foldl_cons, ih, get?_erase]
    by_cases hg : k = g
    · simp [hg]
    · by_cases hk : k ∈ gs <;> simp [hg, hk]

end Keyed

namespace Governor

variable {η : Type}

/-- Removing a service the governor holds nothing of changes nothing. -/
theorem remove_of_get?_eq_none {g : Governor η} {id : String} (hc : g.configs.get? id = none)
    (hr : g.records.get? id = none) (hd : g.donors.get? id = none) : g.remove id = g := by
  unfold remove
  rw [Keyed.erase_of_get?_eq_none hc, Keyed.erase_of_get?_eq_none hr,
    Keyed.erase_of_get?_eq_none hd]

end Governor

namespace World

variable {w w' : World} {d : Descriptor} {δ : Nat}

/-- What the reconciler and the governor hold under a service id: its scheduled controller,
its registration, its record and its donor. -/
def held (w : World) (k : String) :
    Option Scheduled × Option Descriptor × Option Record × Option Nat :=
  (w.autoscaler.scheduled.get? k, w.governor.configs.get? k, w.governor.records.get? k,
    w.governor.donors.get? k)

/-! ### Stopping, scheduling and unregistering one service -/

@[simp] theorem autoscaler_unschedule (w : World) (id : String) :
    (w.unschedule id).autoscaler =
      { w.autoscaler with scheduled := w.autoscaler.scheduled.erase id } := by
  cases h : w.autoscaler.scheduled.get? id with
  | none => simp [unschedule, h, Keyed.erase_of_get?_eq_none h]
  | some s =>
    simp only [unschedule, h]
    split <;> simp

@[simp] theorem governor_unschedule (w : World) (id : String) :
    (w.unschedule id).governor = w.governor := by
  unfold unschedule
  split
  · rfl
  · split <;> simp

@[simp] theorem controllers_unschedule (w : World) (id : String) :
    (w.unschedule id).controllers = w.controllers := by
  unfold unschedule
  split
  · rfl
  · split <;> simp

theorem unschedule_of_get?_eq_none {id : String} (h : w.autoscaler.scheduled.get? id = none) :
    w.unschedule id = w := by
  simp [unschedule, h]

theorem held_unschedule_of_ne {id k : String} (h : k ≠ id) :
    (w.unschedule id).held k = w.held k := by
  simp [held, Keyed.get?_erase, h]

theorem schedule_eq_none_iff :
    w.schedule d δ = none ↔ w.autoscaler.factories.get? d.workloadMetric = none := by
  simp [schedule]

/-- Scheduling a service puts its entry, with the next controller and the next loop. -/
theorem autoscaler_of_schedule (hs : w.schedule d δ = some w') :
    w'.autoscaler = { w.autoscaler with
      scheduled := w.autoscaler.scheduled.put d.id ⟨d, w.controllers.size, w.jobs.size⟩ } := by
  obtain ⟨f, -, rfl⟩ := Option.map_eq_some_iff.mp hs
  simp [addController_eq, spawn_eq]

/-- Scheduling a service registers it with the governor, its controller as its donor. -/
theorem governor_of_schedule (hs : w.schedule d δ = some w') :
    w'.governor = (w.governor.register d).listen d.id w.controllers.size := by
  obtain ⟨f, -, rfl⟩ := Option.map_eq_some_iff.mp hs
  simp [addController_eq, spawn_eq]

/-- Scheduling a service asks its factory for an analyser and adds a controller. -/
theorem controllers_size_of_schedule (hs : w.schedule d δ = some w') :
    w'.controllers.size = w.controllers.size + 1 := by
  obtain ⟨f, -, rfl⟩ := Option.map_eq_some_iff.mp hs
  simp [addController_eq, spawn_eq]

theorem held_of_schedule_of_ne (hs : w.schedule d δ = some w') {k : String} (h : k ≠ d.id) :
    w'.held k = w.held k := by
  simp [held, autoscaler_of_schedule hs, governor_of_schedule hs, Keyed.get?_put,
    Governor.configs_get?_register, Governor.listen, h]

theorem held_remove_of_ne {id k : String} (h : k ≠ id) :
    ({ w with governor := w.governor.remove id } : World).held k = w.held k := by
  simp [held, Governor.configs_get?_remove, Governor.records_get?_remove,
    Governor.donors_get?_remove, h]

/-! ### One descriptor of a batch -/

/-- The world after one descriptor of a batch: its service is stopped and scheduled anew, or,
with no factory for its workload metric, stopped and unregistered. -/
def place (w : World) (d : Descriptor) (δ : Nat) : World :=
  match (w.unschedule d.id).schedule d δ with
  | none => { w.unschedule d.id with governor := (w.unschedule d.id).governor.remove d.id }
  | some w' => w'

/-- Placing a descriptor changes only the reconciler's entries. -/
theorem autoscaler_place (w : World) (d : Descriptor) (δ : Nat) :
    (w.place d δ).autoscaler =
      { w.autoscaler with scheduled := (w.place d δ).autoscaler.scheduled } := by
  unfold place
  split
  · simp
  · rename_i w' hs
    simp [autoscaler_of_schedule hs]

/-- Placing a descriptor touches nothing held under another id. -/
theorem held_place_of_ne {k : String} (h : k ≠ d.id) : (w.place d δ).held k = w.held k := by
  unfold place
  split
  · rw [held_remove_of_ne h, held_unschedule_of_ne h]
  · rename_i w' hs
    rw [held_of_schedule_of_ne hs h, held_unschedule_of_ne h]

/-- Placing a descriptor adds a controller exactly when a factory serves its workload metric. -/
theorem controllers_size_place (w : World) (d : Descriptor) (δ : Nat) :
    (w.place d δ).controllers.size =
      w.controllers.size + if (w.autoscaler.factories.get? d.workloadMetric).isSome then 1 else 0 := by
  unfold place
  split
  · rename_i hs
    rw [schedule_eq_none_iff, autoscaler_unschedule] at hs
    simp [hs]
  · rename_i w' hs
    have hf : (w.autoscaler.factories.get? d.workloadMetric).isSome := by
      cases hnone : w.autoscaler.factories.get? d.workloadMetric with
      | none => rw [schedule_eq_none_iff.mpr (by simpa using hnone)] at hs; cases hs
      | some f => rfl
    rw [controllers_size_of_schedule hs, controllers_unschedule, if_pos hf]

/-- A batch goes on after each descriptor with the world it leaves, at most an increment
later, unless the next delay overflows. -/
theorem scheduleAll_cons (w : World) (δ : Nat) (d : Descriptor) (rest : List Descriptor) :
    ((w.autoscaler.factories.get? d.workloadMetric).isSome ∧
        δ + w.autoscaler.delayIncrementSecs > delayLimitSecs ∧
        w.scheduleAll δ (d :: rest) = (w.place d δ, some "overflow when adding durations")) ∨
      ∃ δ', δ' ≤ δ + w.autoscaler.delayIncrementSecs ∧
        w.scheduleAll δ (d :: rest) = (w.place d δ).scheduleAll δ' rest := by
  rw [scheduleAll]
  unfold place
  cases hs : (w.unschedule d.id).schedule d δ with
  | none => exact .inr ⟨δ, by omega, rfl⟩
  | some w' =>
    -- the increment is the world's own: stopping and scheduling keep it
    have hinc : w'.autoscaler.delayIncrementSecs = w.autoscaler.delayIncrementSecs := by
      rw [autoscaler_of_schedule hs, autoscaler_unschedule]
    have hf : (w.autoscaler.factories.get? d.workloadMetric).isSome := by
      cases hnone : w.autoscaler.factories.get? d.workloadMetric with
      | none => rw [schedule_eq_none_iff.mpr (by simpa using hnone)] at hs; cases hs
      | some f => rfl
    dsimp only
    split
    · exact .inl ⟨hf, by omega, rfl⟩
    · exact .inr ⟨_, by omega, rfl⟩

/-! ### Services in place -/

/-- Service `s` is in place: scheduled with its own descriptor, or, with no factory for its
workload metric, held by neither the reconciler nor the governor. -/
def InPlace (w : World) (s : Descriptor) : Prop :=
  (∃ sc, w.autoscaler.scheduled.get? s.id = some sc ∧ sc.descriptor = s) ∨
    (w.autoscaler.factories.get? s.workloadMetric = none ∧ w.held s.id = (none, none, none, none))

/-- Whether a service is in place depends only on what is held under its id and on the
factories. -/
theorem InPlace.of_held {s : Descriptor} (hs : w.InPlace s) (h : w'.held s.id = w.held s.id)
    (hf : w'.autoscaler.factories = w.autoscaler.factories) : w'.InPlace s := by
  have hsched : w'.autoscaler.scheduled.get? s.id = w.autoscaler.scheduled.get? s.id :=
    congrArg Prod.fst h
  rcases hs with ⟨sc, hsc, hd⟩ | ⟨hnone, hheld⟩
  · exact .inl ⟨sc, hsched ▸ hsc, hd⟩
  · exact .inr ⟨hf ▸ hnone, h ▸ hheld⟩

/-- A placed descriptor is in place. -/
theorem inPlace_place (w : World) (d : Descriptor) (δ : Nat) : (w.place d δ).InPlace d := by
  unfold place
  split
  · -- no factory: the service was stopped and is now unregistered
    rename_i hs
    right
    refine ⟨by simpa using schedule_eq_none_iff.mp hs, ?_⟩
    simp [held, Keyed.get?_erase, Governor.configs_get?_remove, Governor.records_get?_remove,
      Governor.donors_get?_remove]
  · rename_i w' hs
    left
    exact ⟨_, by rw [autoscaler_of_schedule hs, Keyed.get?_put, if_pos rfl], rfl⟩

/-! ### Batches -/

/-- A batch changes only the reconciler's entries. -/
theorem autoscaler_scheduleAll (w : World) (δ : Nat) (L : List Descriptor) :
    (w.scheduleAll δ L).1.autoscaler =
      { w.autoscaler with scheduled := (w.scheduleAll δ L).1.autoscaler.scheduled } := by
  induction L generalizing w δ with
  | nil => rfl
  | cons d rest ih =>
    rcases scheduleAll_cons w δ d rest with ⟨-, -, h⟩ | ⟨δ', -, h⟩
    · rw [h, autoscaler_place]
    · rw [h, ih, autoscaler_place w d δ]

theorem factories_scheduleAll (w : World) (δ : Nat) (L : List Descriptor) :
    (w.scheduleAll δ L).1.autoscaler.factories = w.autoscaler.factories := by
  rw [autoscaler_scheduleAll]

/-- A batch touches nothing held under an id none of its descriptors has. -/
theorem held_scheduleAll_of_not_mem {k : String} (L : List Descriptor)
    (hk : ∀ d ∈ L, d.id ≠ k) (w : World) (δ : Nat) :
    (w.scheduleAll δ L).1.held k = w.held k := by
  induction L generalizing w δ with
  | nil => rfl
  | cons d rest ih =>
    have hd : k ≠ d.id := fun h => hk d List.mem_cons_self h.symm
    have hrest : ∀ d' ∈ rest, d'.id ≠ k := fun d' h => hk d' (List.mem_cons_of_mem d h)
    rcases scheduleAll_cons w δ d rest with ⟨-, -, h⟩ | ⟨δ', -, h⟩
    · rw [h, held_place_of_ne hd]
    · rw [h, ih hrest, held_place_of_ne hd]

/-- After a batch, every scheduled id was scheduled before or is one of the batch's. -/
theorem isSome_scheduleAll {k : String} (L : List Descriptor) (w : World) (δ : Nat)
    (h : ((w.scheduleAll δ L).1.autoscaler.scheduled.get? k).isSome) :
    (w.autoscaler.scheduled.get? k).isSome ∨ ∃ d ∈ L, d.id = k := by
  by_cases hk : ∃ d ∈ L, d.id = k
  · exact .inr hk
  · simp only [not_exists, not_and] at hk
    have hsched := congrArg Prod.fst (held_scheduleAll_of_not_mem L hk w δ)
    simp only [held] at hsched
    exact .inl (hsched ▸ h)

/-- A batch that does not overflow leaves each of its descriptors in place, if their ids are
distinct. -/
theorem inPlace_scheduleAll (L : List Descriptor) (hn : (L.map (·.id)).Nodup) (w : World)
    (δ : Nat) (h : (w.scheduleAll δ L).2 = none) : ∀ s ∈ L, (w.scheduleAll δ L).1.InPlace s := by
  induction L generalizing w δ with
  | nil => intro s hs; cases hs
  | cons d rest ih =>
    rw [List.map_cons, List.nodup_cons] at hn
    have hrest : ∀ d' ∈ rest, d'.id ≠ d.id := fun d' hd' e => hn.1 (e ▸ List.mem_map_of_mem hd')
    rcases scheduleAll_cons w δ d rest with ⟨-, -, hc⟩ | ⟨δ', -, hc⟩
    · rw [hc] at h
      cases h
    · rw [hc] at h ⊢
      intro s hs
      rcases List.mem_cons.mp hs with rfl | hs
      · -- the rest of the batch keeps what the descriptor left under its id
        exact (inPlace_place w s δ).of_held (held_scheduleAll_of_not_mem rest hrest _ _)
          (factories_scheduleAll _ _ _)
      · exact ih hn.2 _ _ h s hs

/-- A batch overflows only if its delays would pass the limit. -/
theorem scheduleAll_snd_eq_none (L : List Descriptor) (w : World) (δ : Nat)
    (h : δ + L.length * w.autoscaler.delayIncrementSecs ≤ delayLimitSecs) :
    (w.scheduleAll δ L).2 = none := by
  induction L generalizing w δ with
  | nil => rfl
  | cons d rest ih =>
    have hinc : (w.place d δ).autoscaler.delayIncrementSecs = w.autoscaler.delayIncrementSecs := by
      rw [autoscaler_place]
    rw [List.length_cons, Nat.succ_mul] at h
    rcases scheduleAll_cons w δ d rest with ⟨-, hover, -⟩ | ⟨δ', hδ', hc⟩
    · exfalso
      have : rest.length * w.autoscaler.delayIncrementSecs ≥ 0 := Nat.zero_le _
      omega
    · rw [hc]
      apply ih
      rw [hinc]
      omega

theorem controllers_size_le_scheduleAll (L : List Descriptor) (w : World) (δ : Nat) :
    w.controllers.size ≤ (w.scheduleAll δ L).1.controllers.size := by
  induction L generalizing w δ with
  | nil => exact le_rfl
  | cons d rest ih =>
    have hp : w.controllers.size ≤ (w.place d δ).controllers.size := by
      rw [controllers_size_place]
      omega
    rcases scheduleAll_cons w δ d rest with ⟨-, -, h⟩ | ⟨δ', -, h⟩
    · rw [h]
      exact hp
    · rw [h]
      exact hp.trans (ih _ _)

/-- A batch with a descriptor that a factory serves adds a controller, whether or not it
overflows. -/
theorem controllers_size_lt_scheduleAll {d : Descriptor} (L : List Descriptor) (hd : d ∈ L)
    (w : World) (δ : Nat) (hf : (w.autoscaler.factories.get? d.workloadMetric).isSome) :
    w.controllers.size < (w.scheduleAll δ L).1.controllers.size := by
  induction L generalizing w δ with
  | nil => cases hd
  | cons d₀ rest ih =>
    rcases scheduleAll_cons w δ d₀ rest with ⟨hf₀, -, h⟩ | ⟨δ', -, h⟩
    · -- an overflow comes right after a descriptor that was scheduled
      rw [h, controllers_size_place, if_pos hf₀]
      omega
    · rw [h]
      rcases List.mem_cons.mp hd with rfl | hd
      · have hlt : w.controllers.size < (w.place d δ).controllers.size := by
          rw [controllers_size_place, if_pos hf]
          omega
        exact lt_of_lt_of_le hlt (controllers_size_le_scheduleAll _ _ _)
      · have hp : w.controllers.size ≤ (w.place d₀ δ).controllers.size := by
          rw [controllers_size_place]
          omega
        have hf' : ((w.place d₀ δ).autoscaler.factories.get? d.workloadMetric).isSome := by
          rw [autoscaler_place]
          exact hf
        exact lt_of_le_of_lt hp (ih hd _ _ hf')

/-- A batch of services none of which has a factory or holds anything changes nothing. -/
theorem scheduleAll_of_unheld (L : List Descriptor)
    (hL : ∀ d ∈ L, w.autoscaler.factories.get? d.workloadMetric = none ∧
      w.held d.id = (none, none, none, none)) (δ : Nat) :
    w.scheduleAll δ L = (w, none) := by
  induction L with
  | nil => rfl
  | cons d rest ih =>
    obtain ⟨hf, hheld⟩ := hL d List.mem_cons_self
    simp only [held, Prod.mk.injEq] at hheld
    obtain ⟨hsched, hc, hr, hd⟩ := hheld
    have hun : w.unschedule d.id = w := unschedule_of_get?_eq_none hsched
    have hnone : w.schedule d δ = none := schedule_eq_none_iff.mpr hf
    rw [scheduleAll, hun, hnone]
    dsimp only
    rw [Governor.remove_of_get?_eq_none hc hr hd]
    exact ih fun d' hd' => hL d' (List.mem_cons_of_mem d hd')

/-! ### Dropping the services that are gone -/

/-- Dropping services one after another erases their entries; nothing else of the reconciler
changes. -/
theorem autoscaler_foldl_forget (gs : List String) (w : World) :
    (gs.foldl (fun w id => { w.unschedule id with governor := w.governor.remove id }) w).autoscaler =
      { w.autoscaler with scheduled := gs.foldl Keyed.erase w.autoscaler.scheduled } := by
  induction gs generalizing w with
  | nil => rfl
  | cons g gs ih =>
    rw [List.foldl_cons, ih, List.foldl_cons]
    simp

theorem controllers_foldl_forget (gs : List String) (w : World) :
    (gs.foldl (fun w id => { w.unschedule id with governor := w.governor.remove id }) w).controllers =
      w.controllers := by
  induction gs generalizing w with
  | nil => rfl
  | cons g gs ih =>
    rw [List.foldl_cons, ih]
    simp

/-- After dropping what is gone, a scheduled service keeps its entry exactly when one of the
services has its id. -/
theorem scheduled_get?_dropGone (w : World) (S : List Descriptor) (k : String) :
    (w.dropGone S).autoscaler.scheduled.get? k =
      if S.any (·.id == k) then w.autoscaler.scheduled.get? k else none := by
  unfold dropGone
  rw [autoscaler_foldl_forget, Keyed.get?_foldl_erase]
  by_cases hS : S.any (·.id == k) = true
  · simp [hS]
  · cases hk : w.autoscaler.scheduled.get? k <;> simp [hS, hk, Keyed.mem_keys_iff]

theorem autoscaler_dropGone (w : World) (S : List Descriptor) :
    (w.dropGone S).autoscaler =
      { w.autoscaler with scheduled := (w.dropGone S).autoscaler.scheduled } := by
  unfold dropGone
  rw [autoscaler_foldl_forget]

@[simp] theorem controllers_dropGone (w : World) (S : List Descriptor) :
    (w.dropGone S).controllers = w.controllers :=
  controllers_foldl_forget _ w

/-- Nothing is dropped when every scheduled id is one of the services'. -/
theorem dropGone_of_keys {S : List Descriptor}
    (h : ∀ k, (w.autoscaler.scheduled.get? k).isSome → ∃ s ∈ S, s.id = k) : w.dropGone S = w := by
  have hgone : ((w.autoscaler.scheduled.map (·.1)).filter fun id => !S.any (·.id == id)) = [] := by
    rw [List.filter_eq_nil_iff]
    intro k hk
    obtain ⟨s, hs, rfl⟩ := h k ((Keyed.mem_keys_iff _ k).mp hk)
    simpa using ⟨s, hs, rfl⟩
  unfold dropGone
  rw [hgone]
  rfl

/-! ### Reconciled worlds -/

/-- The world is reconciled with `services`: every scheduled id is one of theirs, and each of
them is in place. -/
structure Reconciled (w : World) (services : List Descriptor) : Prop where
  scheduled_mem : ∀ k, (w.autoscaler.scheduled.get? k).isSome → ∃ s ∈ services, s.id = k
  inPlace : ∀ s ∈ services, w.InPlace s

theorem mem_changed_iff {S : List Descriptor} {s : Descriptor} :
    s ∈ w.changed S ↔ s ∈ S ∧ ∀ sc, w.autoscaler.scheduled.get? s.id = some sc → sc.descriptor ≠ s := by
  unfold changed
  rw [List.mem_filter]
  cases w.autoscaler.scheduled.get? s.id <;> simp

/-- The accepted descriptors depend only on the metrics the validator knows. -/
theorem accepted_of_known (h : w'.autoscaler.known = w.autoscaler.known) (D : List Descriptor) :
    w'.accepted D = w.accepted D := by
  simp [accepted, h]

/-- A reconcile changes only the reconciler's entries. -/
theorem autoscaler_reconcile (w : World) (D : List Descriptor) :
    (w.reconcile D).1.autoscaler =
      { w.autoscaler with scheduled := (w.reconcile D).1.autoscaler.scheduled } := by
  dsimp only [reconcile]
  rw [autoscaler_scheduleAll, autoscaler_dropGone]

theorem accepted_reconcile (w : World) (D D' : List Descriptor) :
    (w.reconcile D).1.accepted D' = w.accepted D' :=
  accepted_of_known (by rw [autoscaler_reconcile]) D'

/-- A reconcile overflows only if the delays of its accepted descriptors would pass the
limit. -/
theorem reconcile_snd_eq_none {D : List Descriptor}
    (h : w.autoscaler.initialDelaySecs + (w.accepted D).length * w.autoscaler.delayIncrementSecs ≤
      delayLimitSecs) :
    (w.reconcile D).2 = none := by
  dsimp only [reconcile]
  have hδ : (w.dropGone (w.accepted D)).autoscaler.initialDelaySecs =
      w.autoscaler.initialDelaySecs := by
    rw [autoscaler_dropGone]
  have hinc : (w.dropGone (w.accepted D)).autoscaler.delayIncrementSecs =
      w.autoscaler.delayIncrementSecs := by
    rw [autoscaler_dropGone]
  have hlen : ((w.dropGone (w.accepted D)).changed (w.accepted D)).length ≤
      (w.accepted D).length := List.length_filter_le _ _
  apply scheduleAll_snd_eq_none
  rw [List.length_mergeSort, hδ, hinc]
  calc _ ≤ w.autoscaler.initialDelaySecs +
        (w.accepted D).length * w.autoscaler.delayIncrementSecs :=
        Nat.add_le_add_left (Nat.mul_le_mul_right _ hlen) _
    _ ≤ delayLimitSecs := h

/-- Reconciling a world reconciled with its accepted descriptors changes nothing. -/
theorem reconcile_of_reconciled {D : List Descriptor} (h : w.Reconciled (w.accepted D)) :
    w.reconcile D = (w, none) := by
  dsimp only [reconcile]
  rw [dropGone_of_keys h.scheduled_mem]
  apply scheduleAll_of_unheld
  intro s hs
  rw [List.mem_mergeSort, mem_changed_iff] at hs
  -- a changed service is not scheduled with its descriptor, so it is in place for want of a
  -- factory
  rcases h.inPlace s hs.1 with ⟨sc, hsc, hd⟩ | hnone
  · exact absurd hd (hs.2 sc hsc)
  · exact hnone

/-- A reconcile that does not overflow leaves the world reconciled with the accepted
descriptors, if their ids are distinct. -/
theorem reconciled_reconcile {D : List Descriptor} (hu : ((w.accepted D).map (·.id)).Nodup)
    (h : (w.reconcile D).2 = none) : (w.reconcile D).1.Reconciled (w.accepted D) := by
  set S := w.accepted D
  set w₁ := w.dropGone S
  set L := (w₁.changed S).mergeSort fun a b => decide (a.id ≤ b.id)
  have hreconcile : w.reconcile D = w₁.scheduleAll w₁.autoscaler.initialDelaySecs L := rfl
  have hLS : ∀ s ∈ L, s ∈ S := fun s hs => (mem_changed_iff.mp (List.mem_mergeSort.mp hs)).1
  have hLn : (L.map (·.id)).Nodup := by
    have hsub : (w₁.changed S).Sublist S := List.filter_sublist
    exact ((List.mergeSort_perm _ _).map _).nodup_iff.mpr (hu.sublist (hsub.map _))
  rw [hreconcile] at h ⊢
  constructor
  · intro k hk
    rcases isSome_scheduleAll L w₁ _ hk with hk₁ | ⟨s, hs, rfl⟩
    · rw [scheduled_get?_dropGone] at hk₁
      by_cases hS : S.any (·.id == k) = true
      · simpa using hS
      · rw [if_neg hS] at hk₁
        cases hk₁
    · exact ⟨s, hLS s hs, rfl⟩
  · intro s hs
    by_cases hsL : s ∈ L
    · exact inPlace_scheduleAll L hLn w₁ _ h s hsL
    · -- not changed: it kept its entry, and no descriptor of the batch shares its id
      have hkeep : ∃ sc, w₁.autoscaler.scheduled.get? s.id = some sc ∧ sc.descriptor = s := by
        rw [List.mem_mergeSort, mem_changed_iff] at hsL
        simp only [not_and, not_forall, not_not, exists_prop] at hsL
        exact hsL hs
      have hother : ∀ d ∈ L, d.id ≠ s.id := fun d hd e =>
        hsL ((List.inj_on_of_nodup_map hu (hLS d hd) hs e) ▸ hd)
      exact InPlace.of_held (.inl hkeep) (held_scheduleAll_of_not_mem L hother w₁ _)
        (factories_scheduleAll _ _ _)

/-- Reconciling twice with the same inventory is reconciling once, when the accepted
descriptors have distinct ids: the second pass stops no controller, asks no factory for an
analyser and leaves the reconciler's services and the governor as they are. -/
theorem reconcile_idempotent {D : List Descriptor} (hu : ((w.accepted D).map (·.id)).Nodup)
    (h : w.reconcile D = (w', none)) : w'.reconcile D = (w', none) := by
  have hw' : w' = (w.reconcile D).1 := by rw [h]
  have hrec : w'.Reconciled (w'.accepted D) := by
    rw [hw', accepted_reconcile]
    exact reconciled_reconcile hu (by rw [h])
  exact reconcile_of_reconciled hrec

/-! ### Descriptors that share an id -/

/-- Every reconcile starts a new controller when two accepted descriptors share an id and
factories serve both: the reconciler keeps one descriptor per id, so one of the two is always
found changed. -/
theorem controllers_size_lt_reconcile {D : List Descriptor} {s s' : Descriptor}
    (hs : s ∈ w.accepted D) (hs' : s' ∈ w.accepted D) (hne : s ≠ s') (hid : s.id = s'.id)
    (hf : (w.autoscaler.factories.get? s.workloadMetric).isSome)
    (hf' : (w.autoscaler.factories.get? s'.workloadMetric).isSome) :
    w.controllers.size < (w.reconcile D).1.controllers.size := by
  set S := w.accepted D
  set w₁ := w.dropGone S
  have hreconcile : w.reconcile D = w₁.scheduleAll w₁.autoscaler.initialDelaySecs
      ((w₁.changed S).mergeSort fun a b => decide (a.id ≤ b.id)) := rfl
  have hfac : w₁.autoscaler.factories = w.autoscaler.factories := by
    rw [autoscaler_dropGone]
  obtain ⟨c, hc, hcf⟩ : ∃ c ∈ w₁.changed S, (w.autoscaler.factories.get? c.workloadMetric).isSome := by
    by_cases hin : ∃ sc, w₁.autoscaler.scheduled.get? s.id = some sc ∧ sc.descriptor = s
    · -- the entry under the shared id holds `s`, so `s'` is changed
      obtain ⟨sc, hsc, hd⟩ := hin
      refine ⟨s', mem_changed_iff.mpr ⟨hs', fun sc' hsc' e => hne ?_⟩, hf'⟩
      rw [← hid, hsc, Option.some.injEq] at hsc'
      rw [← hd, ← e, hsc']
    · exact ⟨s, mem_changed_iff.mpr ⟨hs, fun sc hsc e => hin ⟨sc, hsc, e⟩⟩, hf⟩
  rw [hreconcile, ← controllers_dropGone w S]
  exact controllers_size_lt_scheduleAll _ (List.mem_mergeSort.mpr hc) _ _ (hfac ▸ hcf)

/-- A world whose one factory, for the workload metric "queue", makes analysers that never
act. -/
def queueWorld : World where
  ctx := ⟨{}, ⟨1, 1, 1, 1, 1⟩⟩
  platform := {}
  probe := { reading := Probe.initial }
  cache := { refreshMs := 0 }
  alerter := ⟨0, 0, true, []⟩
  dispatchers := []
  governor := { thresholds := {} }
  autoscaler := { factories := [("queue", .fixed .noAction)], known := ["queue"] }

/-- Service "a" on the metric "queue", with at most `n` instances. -/
def queueService (n : UInt32) : Descriptor :=
  ⟨"a", 100, 0, n, 0, none, none, "queue", "a-in", none⟩

theorem reconcile_idempotent_queueService :
    ((queueWorld.accepted [queueService 3]).map (·.id)).Nodup ∧
      queueWorld.reconcile [queueService 3] = ((queueWorld.reconcile [queueService 3]).1, none) ∧
      (queueWorld.reconcile [queueService 3]).1.reconcile [queueService 3] =
        ((queueWorld.reconcile [queueService 3]).1, none) := by
  have hu : ((queueWorld.accepted [queueService 3]).map (·.id)).Nodup := by decide
  have h : queueWorld.reconcile [queueService 3] =
      ((queueWorld.reconcile [queueService 3]).1, none) :=
    Prod.ext rfl (reconcile_snd_eq_none (by decide))
  exact ⟨hu, h, reconcile_idempotent hu h⟩

/-- Two descriptors of service "a" that differ in their maximum: the second reconcile with
both starts a controller again. -/
theorem reconcile_churns_on_shared_id :
    (queueWorld.reconcile [queueService 2, queueService 3]).1.controllers.size <
      ((queueWorld.reconcile [queueService 2, queueService 3]).1.reconcile
        [queueService 2, queueService 3]).1.controllers.size := by
  have hacc : (queueWorld.reconcile [queueService 2, queueService 3]).1.accepted
      [queueService 2, queueService 3] = [queueService 2, queueService 3] := by
    rw [accepted_reconcile]
    decide
  have hfac : ((queueWorld.reconcile [queueService 2, queueService 3]).1.autoscaler.factories.get?
      "queue").isSome := by
    rw [autoscaler_reconcile]
    decide
  have h₂ : queueService 2 ∈ (queueWorld.reconcile [queueService 2, queueService 3]).1.accepted
      [queueService 2, queueService 3] := by
    rw [hacc]
    decide
  have h₃ : queueService 3 ∈ (queueWorld.reconcile [queueService 2, queueService 3]).1.accepted
      [queueService 2, queueService 3] := by
    rw [hacc]
    decide
  exact controllers_size_lt_reconcile h₂ h₃ (by decide) rfl hfac hfac

end World

end ScaleControl
