import Mathlib
import ScaleControl.Proofs.LoopInvariant
import ScaleControl.Proofs.Reconciliation
import ScaleControl.Wire.CoreSession
/-!
# The reconciler and the governor over whole runs

A reconciler's run starts with no loops and nothing scheduled or registered, and goes on with
updates to the discovered services, waits in which the controllers' loops run, and shutdowns.
Along every such run the reconciler's services and the governor's registrations agree
(`Agrees`): the governor registers exactly the scheduled ids, each with the descriptor of the
service's controller, and each scheduled service's loop runs that controller on its token.

Each operation of an update is described by what it does to what is held under one id
(`AgreesAt`): stopping a service and scheduling one touch only their own id. An update stops
and unregisters every service that is gone, leaves a service whose descriptor is unchanged
with its controller, schedules only accepted descriptors, and, when every known workload
metric has a factory, schedules exactly the accepted ids. A shutdown leaves nothing scheduled
or registered.
-/
namespace ScaleControl

namespace World

variable {w w' : World} {d : Descriptor} {δ : Nat}

/-! ### What stopping and scheduling a service change -/

@[simp] theorem jobs_unschedule (w : World) (id : String) : (w.unschedule id).jobs = w.jobs := by
  unfold unschedule
  split
  · rfl
  · split <;> simp

@[simp] theorem tokens_size_unschedule (w : World) (id : String) :
    (w.unschedule id).tokens.size = w.tokens.size := by
  unfold unschedule
  split
  · rfl
  · split <;> simp

theorem sound_unschedule (h : w.loopPart.Sound) (id : String) :
    (w.unschedule id).loopPart.Sound := by
  unfold unschedule
  split
  · exact h
  · split
    · exact cancel_sound h _
    · exact h

/-- Stopping a service cancels no token that was not cancelled, and keeps every mark. -/
theorem cancelled_unschedule {t : Nat} (h : w.cancelled t = true) (id : String) :
    (w.unschedule id).cancelled t = true := by
  unfold unschedule
  split
  · exact h
  · split
    · exact cancelled_cancel h _
    · exact h

/-- Stopping a scheduled service cancels its controller's token. -/
theorem cancelled_unschedule_self {id : String} {sc : Scheduled} {c : Controller}
    (hsc : w.autoscaler.scheduled.get? id = some sc) (hc : w.controllers[sc.controller]? = some c)
    (ht : c.token < w.tokens.size) : (w.unschedule id).cancelled c.token = true := by
  unfold unschedule
  rw [hsc]
  dsimp only
  rw [hc]
  exact cancelled_cancel_self ht

/-- Scheduling a descriptor makes a token from the root, a controller with that token, and a
loop that runs the controller, queued to start. -/
theorem schedule_eq_some (hs : w.schedule d δ = some w') :
    ∃ a : Analyser,
      w'.tokens = w.tokens.push { parent := some w.autoscaler.root } ∧
      w'.controllers = w.controllers.push { descriptor := d, token := w.tokens.size, analyser := a } ∧
      w'.jobs = w.jobs.push
        ⟨.run ⟨w.controllers.size, d.id, w.tokens.size⟩ (δ * 1000) (d.intervalSecs.toNat * 1000)
            .starting,
          .waiting fun _ => (Loop.run ⟨w.controllers.size, d.id, w.tokens.size⟩ (δ * 1000)
            (d.intervalSecs.toNat * 1000) .starting).program w.ctx⟩ ∧
      w'.loopPart = ⟨w.ctx, w'.jobs, w'.tokens, w.timers, w.ready ++ [(w.jobs.size, true)]⟩ := by
  obtain ⟨f, -, rfl⟩ := Option.map_eq_some_iff.mp hs
  refine ⟨f.analyser d.scalingTarget d.scalingProfile, rfl, rfl, ?_, rfl⟩
  simp [addController_eq, spawn_eq]

theorem sound_schedule (h : w.loopPart.Sound) (hs : w.schedule d δ = some w') :
    w'.loopPart.Sound := by
  obtain ⟨a, htokens, -, hjobs, hpart⟩ := schedule_eq_some hs
  rw [hpart, hjobs, htokens]
  exact (newToken_sound h (some w.autoscaler.root)).pushJob _ _ _ _

theorem cancelled_schedule {t : Nat} (h : w.cancelled t = true) (hs : w.schedule d δ = some w') :
    w'.cancelled t = true := by
  obtain ⟨a, htokens, -⟩ := schedule_eq_some hs
  unfold World.cancelled
  rw [htokens]
  exact cancelled_newToken h (some w.autoscaler.root)

theorem keys_unschedule (h : (w.autoscaler.scheduled.map (·.1)).Nodup) (id : String) :
    ((w.unschedule id).autoscaler.scheduled.map (·.1)).Nodup := by
  rw [autoscaler_unschedule]
  exact Keyed.nodup_keys_erase h id

theorem keys_schedule (h : (w.autoscaler.scheduled.map (·.1)).Nodup)
    (hs : w.schedule d δ = some w') : (w'.autoscaler.scheduled.map (·.1)).Nodup := by
  rw [autoscaler_of_schedule hs]
  exact Keyed.nodup_keys_put h _ _

/-! ### Agreement under one id -/

/-- What the reconciler and the governor hold under id `k` agree: the governor registers the
scheduled descriptor, or nothing when no service is scheduled, and a scheduled service has its
controller, with that descriptor and a token, and a loop that runs the controller. -/
structure AgreesAt (w : World) (k : String) : Prop where
  registered : w.governor.configs.get? k = (w.autoscaler.scheduled.get? k).map (·.descriptor)
  running : ∀ sc, w.autoscaler.scheduled.get? k = some sc →
    ∃ c, w.controllers[sc.controller]? = some c ∧ c.descriptor = sc.descriptor ∧
      c.token < w.tokens.size ∧
      ∃ j : Job, w.jobs[sc.job]? = some j ∧ j.loop.controller? = some ⟨sc.controller, k, c.token⟩

/-- The reconciler has one entry per id, and it agrees with the governor under every id. -/
structure Agrees (w : World) : Prop where
  keys : (w.autoscaler.scheduled.map (·.1)).Nodup
  each : ∀ k, w.AgreesAt k

/-- Dropping a service: stopping it and unregistering it. -/
abbrev forget (w : World) (id : String) : World :=
  { w.unschedule id with governor := w.governor.remove id }

theorem AgreesAt.unschedule_of_ne {k id : String} (h : w.AgreesAt k) (hk : k ≠ id) :
    (w.unschedule id).AgreesAt k := by
  have hsched : (w.unschedule id).autoscaler.scheduled.get? k = w.autoscaler.scheduled.get? k := by
    rw [autoscaler_unschedule]
    exact (Keyed.get?_erase _ _ _).trans (if_neg hk)
  refine ⟨by rw [governor_unschedule, hsched]; exact h.registered, fun sc hsc => ?_⟩
  rw [hsched] at hsc
  simpa using h.running sc hsc

theorem AgreesAt.forget_of_ne {k id : String} (h : w.AgreesAt k) (hk : k ≠ id) :
    (w.forget id).AgreesAt k := by
  have hu := h.unschedule_of_ne hk
  refine ⟨?_, hu.running⟩
  show (w.governor.remove id).configs.get? k = _
  rw [Governor.configs_get?_remove, if_neg hk, ← governor_unschedule w id]
  exact hu.registered

theorem agreesAt_forget_self (w : World) (id : String) : (w.forget id).AgreesAt id := by
  have hsched : (w.unschedule id).autoscaler.scheduled.get? id = none := by
    rw [autoscaler_unschedule]
    exact (Keyed.get?_erase _ _ _).trans (if_pos rfl)
  refine ⟨?_, fun sc hsc => ?_⟩
  · show (w.governor.remove id).configs.get? id = _
    rw [Governor.configs_get?_remove, if_pos rfl, hsched]
    rfl
  · have hsc' : (w.unschedule id).autoscaler.scheduled.get? id = some sc := hsc
    rw [hsched] at hsc'
    cases hsc'

theorem AgreesAt.schedule_of_ne {k : String} (h : w.AgreesAt k) (hs : w.schedule d δ = some w')
    (hk : k ≠ d.id) : w'.AgreesAt k := by
  obtain ⟨a, htokens, hctl, hjobs, -⟩ := schedule_eq_some hs
  have hsched : w'.autoscaler.scheduled.get? k = w.autoscaler.scheduled.get? k := by
    rw [autoscaler_of_schedule hs]
    exact (Keyed.get?_put _ _ _ _).trans (if_neg hk)
  refine ⟨?_, fun sc hsc => ?_⟩
  · rw [governor_of_schedule hs, hsched, Governor.configs_listen, Governor.configs_get?_register,
      if_neg hk]
    exact h.registered
  · rw [hsched] at hsc
    obtain ⟨c, hc, hdesc, htok, j, hj, hloop⟩ := h.running sc hsc
    -- the controller and the loop were there before: pushing keeps them
    refine ⟨c, ?_, hdesc, ?_, j, ?_, hloop⟩
    · rw [hctl, Array.getElem?_push, if_neg (Nat.ne_of_lt (Array.getElem?_eq_some_iff.mp hc).1)]
      exact hc
    · rw [htokens, Array.size_push]
      omega
    · rw [hjobs, Array.getElem?_push, if_neg (Nat.ne_of_lt (Array.getElem?_eq_some_iff.mp hj).1)]
      exact hj

theorem agreesAt_schedule_self (hs : w.schedule d δ = some w') : w'.AgreesAt d.id := by
  obtain ⟨a, htokens, hctl, hjobs, -⟩ := schedule_eq_some hs
  have hsched : w'.autoscaler.scheduled.get? d.id = some ⟨d, w.controllers.size, w.jobs.size⟩ := by
    rw [autoscaler_of_schedule hs]
    exact Keyed.get?_put_self _ _ _
  refine ⟨?_, fun sc hsc => ?_⟩
  · rw [governor_of_schedule hs, hsched, Governor.configs_listen, Governor.configs_get?_register,
      if_pos rfl]
    rfl
  · rw [hsched] at hsc
    cases hsc
    exact ⟨_, by rw [hctl, Array.getElem?_push_size], rfl,
      by rw [htokens, Array.size_push]; exact Nat.lt_succ_self _, _,
      by rw [hjobs, Array.getElem?_push_size], rfl⟩

/-! ### Agreement through an update -/

theorem Agrees.forget (h : w.Agrees) (id : String) : (w.forget id).Agrees := by
  refine ⟨keys_unschedule h.keys id, fun k => ?_⟩
  by_cases hk : k = id
  · subst hk
    exact agreesAt_forget_self w k
  · exact (h.each k).forget_of_ne hk

theorem Agrees.place (h : w.Agrees) (d : Descriptor) (δ : Nat) : (w.place d δ).Agrees := by
  unfold World.place
  split
  · rw [governor_unschedule]
    exact h.forget d.id
  · rename_i w' hs
    refine ⟨keys_schedule (keys_unschedule h.keys d.id) hs, fun k => ?_⟩
    by_cases hk : k = d.id
    · subst hk
      exact agreesAt_schedule_self hs
    · exact ((h.each k).unschedule_of_ne hk).schedule_of_ne hs hk

/-! ### What an update carries -/

/-- What every placement carries from a world to the next, a batch carries too. -/
theorem scheduleAll_carries (P : World → World → Prop) (hrefl : ∀ w, P w w)
    (htrans : ∀ w₁ w₂ w₃, P w₁ w₂ → P w₂ w₃ → P w₁ w₃) (hplace : ∀ w d δ, P w (w.place d δ))
    (L : List Descriptor) : ∀ (w : World) (δ : Nat), P w (w.scheduleAll δ L).1 := by
  induction L with
  | nil => exact fun w _ => hrefl w
  | cons d rest ih =>
    intro w δ
    rcases scheduleAll_cons w δ d rest with ⟨-, -, h⟩ | ⟨δ', -, h⟩
    · rw [h]
      exact hplace w d δ
    · rw [h]
      exact htrans _ _ _ (hplace w d δ) (ih _ δ')

/-- What dropping one service carries, dropping several carries too. -/
theorem foldl_forget_carries (P : World → World → Prop) (hrefl : ∀ w, P w w)
    (htrans : ∀ w₁ w₂ w₃, P w₁ w₂ → P w₂ w₃ → P w₁ w₃) (hforget : ∀ w id, P w (w.forget id))
    (gs : List String) : ∀ w : World, P w (gs.foldl forget w) := by
  induction gs with
  | nil => exact hrefl
  | cons g gs ih => exact fun w => htrans _ _ _ (hforget w g) (ih _)

/-- What dropping a service and placing a descriptor both carry, an update carries. -/
theorem reconcile_carries (P : World → World → Prop) (hrefl : ∀ w, P w w)
    (htrans : ∀ w₁ w₂ w₃, P w₁ w₂ → P w₂ w₃ → P w₁ w₃) (hforget : ∀ w id, P w (w.forget id))
    (hplace : ∀ w d δ, P w (w.place d δ)) (w : World) (D : List Descriptor) :
    P w (w.reconcile D).1 :=
  htrans _ _ _ (foldl_forget_carries P hrefl htrans hforget _ w)
    (scheduleAll_carries P hrefl htrans hplace _ _ _)

theorem sound_place (h : w.loopPart.Sound) (d : Descriptor) (δ : Nat) :
    (w.place d δ).loopPart.Sound := by
  unfold World.place
  split
  · exact sound_unschedule h d.id
  · rename_i w' hs
    exact sound_schedule (sound_unschedule h d.id) hs

theorem sound_reconcile (h : w.loopPart.Sound) (D : List Descriptor) :
    (w.reconcile D).1.loopPart.Sound :=
  reconcile_carries (fun w w' => w.loopPart.Sound → w'.loopPart.Sound) (fun _ => id)
    (fun _ _ _ h₁ h₂ => h₂ ∘ h₁) (fun _ id h => sound_unschedule h id)
    (fun _ d δ h => sound_place h d δ) w D h

theorem Agrees.reconcile (h : w.Agrees) (D : List Descriptor) : (w.reconcile D).1.Agrees :=
  reconcile_carries (fun w w' => w.Agrees → w'.Agrees) (fun _ => id)
    (fun _ _ _ h₁ h₂ => h₂ ∘ h₁) (fun _ id h => h.forget id) (fun _ d δ h => h.place d δ) w D h

theorem cancelled_place {t : Nat} (h : w.cancelled t = true) (d : Descriptor) (δ : Nat) :
    (w.place d δ).cancelled t = true := by
  unfold World.place
  split
  · exact cancelled_unschedule h d.id
  · rename_i w' hs
    exact cancelled_schedule (cancelled_unschedule h d.id) hs

theorem cancelled_scheduleAll {t : Nat} (h : w.cancelled t = true) (δ : Nat) (L : List Descriptor) :
    (w.scheduleAll δ L).1.cancelled t = true :=
  scheduleAll_carries (fun w w' => w.cancelled t = true → w'.cancelled t = true) (fun _ => id)
    (fun _ _ _ h₁ h₂ => h₂ ∘ h₁) (fun _ d δ h => cancelled_place h d δ) L w δ h

/-- An update clears no token's mark: what was cancelled stays cancelled. -/
theorem cancelled_reconcile {t : Nat} (h : w.cancelled t = true) (D : List Descriptor) :
    (w.reconcile D).1.cancelled t = true :=
  reconcile_carries (fun w w' => w.cancelled t = true → w'.cancelled t = true)
    (fun _ => id) (fun _ _ _ h₁ h₂ => h₂ ∘ h₁) (fun _ id h => cancelled_unschedule h id)
    (fun _ d δ h => cancelled_place h d δ) w D h

/-- An update only adds controllers: each one there stays as it is. -/
theorem controllers_reconcile {i : Nat} {c : Controller} (h : w.controllers[i]? = some c)
    (D : List Descriptor) : (w.reconcile D).1.controllers[i]? = some c := by
  refine reconcile_carries (fun w w' => w.controllers[i]? = some c → w'.controllers[i]? = some c)
    (fun _ => id) (fun _ _ _ h₁ h₂ => h₂ ∘ h₁) (fun _ id h => by simpa using h)
    (fun w d δ h => ?_) w D h
  unfold World.place
  split
  · simpa using h
  · rename_i w' hs
    obtain ⟨a, -, hctl, -⟩ := schedule_eq_some hs
    rw [hctl, Array.getElem?_push, controllers_unschedule,
      if_neg (Nat.ne_of_lt (Array.getElem?_eq_some_iff.mp h).1)]
    exact h

/-! ### What an update leaves -/

theorem configs_get?_foldl_forget (gs : List String) (w : World) (k : String) :
    (gs.foldl forget w).governor.configs.get? k =
      if k ∈ gs then none else w.governor.configs.get? k := by
  induction gs generalizing w with
  | nil => simp
  | cons g gs ih =>
    rw [List.foldl_cons, ih]
    show (if k ∈ gs then none else (w.governor.remove g).configs.get? k) = _
    rw [Governor.configs_get?_remove]
    by_cases hkg : k = g <;> by_cases hks : k ∈ gs <;> simp [hkg, hks]

/-- Dropping a list of services cancels the token of each one's controller. -/
theorem cancelled_foldl_forget {k : String} {sc : Scheduled} {c : Controller} (gs : List String)
    (hk : k ∈ gs) : ∀ w : World, w.autoscaler.scheduled.get? k = some sc →
      w.controllers[sc.controller]? = some c → c.token < w.tokens.size →
      (gs.foldl forget w).cancelled c.token = true := by
  induction gs with
  | nil => cases hk
  | cons g gs ih =>
    intro w hsc hc ht
    rw [List.foldl_cons]
    by_cases hkg : k = g
    · -- dropped here; the later drops keep the mark
      subst hkg
      exact foldl_forget_carries (fun w w' => w.cancelled c.token = true → w'.cancelled c.token = true)
        (fun _ => id) (fun _ _ _ h₁ h₂ => h₂ ∘ h₁) (fun _ id h => cancelled_unschedule h id) gs _
        (cancelled_unschedule_self hsc hc ht)
    · have hsc' : (w.forget g).autoscaler.scheduled.get? k = some sc := by
        show (w.unschedule g).autoscaler.scheduled.get? k = some sc
        rw [autoscaler_unschedule]
        exact (Keyed.get?_erase _ _ _).trans ((if_neg hkg).trans hsc)
      exact ih (List.mem_of_ne_of_mem hkg hk) _ hsc' (by simpa using hc) (by simpa using ht)

/-- What a placement leaves under an id: the placed descriptor, or what was there before under
another id. -/
theorem scheduled_get?_place {k : String} {sc : Scheduled}
    (h : (w.place d δ).autoscaler.scheduled.get? k = some sc) :
    sc.descriptor = d ∨ (k ≠ d.id ∧ w.autoscaler.scheduled.get? k = some sc) := by
  by_cases hk : k = d.id
  · subst hk
    left
    unfold World.place at h
    split at h
    · simp [Keyed.get?_erase] at h
    · rename_i w' hs
      rw [autoscaler_of_schedule hs, Keyed.get?_put_self] at h
      cases h
      rfl
  · exact .inr ⟨hk, (congrArg Prod.fst (held_place_of_ne hk)).symm.trans h⟩

/-- After a batch that does not overflow, a scheduled service holds one of the batch's
descriptors, or what it held before when none of them has its id. -/
theorem scheduled_get?_scheduleAll {k : String} {sc : Scheduled} (L : List Descriptor) :
    ∀ (w : World) (δ : Nat), (w.scheduleAll δ L).2 = none →
      (w.scheduleAll δ L).1.autoscaler.scheduled.get? k = some sc →
      sc.descriptor ∈ L ∨ (w.autoscaler.scheduled.get? k = some sc ∧ ∀ d ∈ L, d.id ≠ k) := by
  induction L with
  | nil => exact fun w δ _ h => .inr ⟨h, fun _ hd => by cases hd⟩
  | cons d rest ih =>
    intro w δ hnone h
    rcases scheduleAll_cons w δ d rest with ⟨-, -, hc⟩ | ⟨δ', -, hc⟩
    · rw [hc] at hnone
      cases hnone
    · rw [hc] at hnone h
      rcases ih _ _ hnone h with hmem | ⟨hplaced, hrest⟩
      · exact .inl (List.mem_cons_of_mem d hmem)
      · rcases scheduled_get?_place hplaced with hd | ⟨hk, hsc⟩
        · exact .inl (hd ▸ List.mem_cons_self)
        · refine .inr ⟨hsc, fun d' hd' => ?_⟩
          rcases List.mem_cons.mp hd' with rfl | hd'
          · exact Ne.symm hk
          · exact hrest d' hd'

/-- A batch that does not overflow, of descriptors that factories serve, leaves scheduled every
id that was scheduled and every id of the batch. -/
theorem isSome_scheduleAll_of_factories (L : List Descriptor) :
    ∀ (w : World) (δ : Nat), (∀ d ∈ L, (w.autoscaler.factories.get? d.workloadMetric).isSome) →
      (w.scheduleAll δ L).2 = none → ∀ k,
      ((w.autoscaler.scheduled.get? k).isSome ∨ ∃ d ∈ L, d.id = k) →
      ((w.scheduleAll δ L).1.autoscaler.scheduled.get? k).isSome := by
  induction L with
  | nil =>
    intro w δ _ _ k hk
    rcases hk with hk | ⟨d, hd, -⟩
    · exact hk
    · cases hd
  | cons d rest ih =>
    intro w δ hf hnone k hk
    rcases scheduleAll_cons w δ d rest with ⟨-, -, hc⟩ | ⟨δ', -, hc⟩
    · rw [hc] at hnone
      cases hnone
    · rw [hc] at hnone ⊢
      have hfac : (w.place d δ).autoscaler.factories = w.autoscaler.factories := by
        rw [autoscaler_place]
      refine ih _ _ (fun d' hd' => hfac ▸ hf d' (List.mem_cons_of_mem d hd')) hnone k ?_
      by_cases hkd : k = d.id
      · -- a descriptor that a factory serves is scheduled in place
        subst hkd
        left
        rcases inPlace_place w d δ with ⟨sc, hsc, -⟩ | ⟨hnf, -⟩
        · rw [hsc]
          rfl
        · have := hf d List.mem_cons_self
          rw [← hfac, hnf] at this
          cases this
      · rcases hk with hk | ⟨d', hd', rfl⟩
        · have hsame : (w.place d δ).autoscaler.scheduled.get? k = w.autoscaler.scheduled.get? k :=
            congrArg Prod.fst (held_place_of_ne hkd)
          left
          rwa [hsame]
        · rcases List.mem_cons.mp hd' with rfl | hd'
          · exact absurd rfl hkd
          · exact .inr ⟨d', hd', rfl⟩

/-- An accepted descriptor names a known workload metric. -/
theorem mem_known_of_mem_accepted {D : List Descriptor} {s : Descriptor} (hs : s ∈ w.accepted D) :
    s.workloadMetric ∈ w.autoscaler.known := by
  have hv := (List.mem_filter.mp hs).2
  unfold Descriptor.violation at hv
  by_contra hk
  split_ifs at hv <;> simp_all

/-! ### The four promises of an update -/

section Update

variable {D : List Descriptor}

/-- An update reconciles with its accepted descriptors after dropping the services that are gone:
`w.dropGone` then the changed descriptors in id order. -/
theorem reconcile_eq (w : World) (D : List Descriptor) :
    w.reconcile D = (w.dropGone (w.accepted D)).scheduleAll
      (w.dropGone (w.accepted D)).autoscaler.initialDelaySecs
      (((w.dropGone (w.accepted D)).changed (w.accepted D)).mergeSort
        fun a b => decide (a.id ≤ b.id)) := rfl

/-- An update stops and unregisters every scheduled service that no accepted descriptor has,
and cancels its controller's token. -/
theorem reconcile_drops_gone (h : w.Agrees) {k : String} {sc : Scheduled}
    (hsc : w.autoscaler.scheduled.get? k = some sc) (hgone : ∀ s ∈ w.accepted D, s.id ≠ k) :
    (w.reconcile D).1.autoscaler.scheduled.get? k = none ∧
      (w.reconcile D).1.governor.configs.get? k = none ∧
      ∃ c, w.controllers[sc.controller]? = some c ∧ (w.reconcile D).1.cancelled c.token = true := by
  obtain ⟨c, hc, -, htok, -⟩ := (h.each k).running sc hsc
  set S := w.accepted D
  set w₁ := w.dropGone S
  set L := (w₁.changed S).mergeSort fun a b => decide (a.id ≤ b.id)
  set gone := (w.autoscaler.scheduled.map (·.1)).filter fun id => !S.any (·.id == id)
  have hany : S.any (·.id == k) = false := by
    simpa using hgone
  have hkgone : k ∈ gone := by
    rw [List.mem_filter, Keyed.mem_keys_iff, hsc, hany]
    exact ⟨rfl, rfl⟩
  have hw₁ : w₁ = gone.foldl forget w := rfl
  -- no descriptor of the batch has the id, so the batch leaves what the drop left under it
  have hL : ∀ d ∈ L, d.id ≠ k := fun d hd => hgone d (mem_changed_iff.mp (List.mem_mergeSort.mp hd)).1
  have hheld := held_scheduleAll_of_not_mem L hL w₁ w₁.autoscaler.initialDelaySecs
  have hsched : (w₁.scheduleAll w₁.autoscaler.initialDelaySecs L).1.autoscaler.scheduled.get? k =
      w₁.autoscaler.scheduled.get? k := congrArg Prod.fst hheld
  have hconfigs : (w₁.scheduleAll w₁.autoscaler.initialDelaySecs L).1.governor.configs.get? k =
      w₁.governor.configs.get? k := congrArg (fun x => x.2.1) hheld
  rw [reconcile_eq]
  refine ⟨?_, ?_, c, hc, ?_⟩
  · rw [hsched, scheduled_get?_dropGone, hany]
    rfl
  · rw [hconfigs, hw₁, configs_get?_foldl_forget, if_pos hkgone]
  · have hc₁ : w₁.cancelled c.token = true := hw₁ ▸ cancelled_foldl_forget gone hkgone w hsc hc htok
    exact cancelled_scheduleAll hc₁ _ L

/-- After an update that does not overflow, every scheduled service holds an accepted
descriptor. -/
theorem descriptor_mem_accepted (hnone : (w.reconcile D).2 = none) {k : String} {sc : Scheduled}
    (h : (w.reconcile D).1.autoscaler.scheduled.get? k = some sc) : sc.descriptor ∈ w.accepted D := by
  set S := w.accepted D
  set w₁ := w.dropGone S
  set L := (w₁.changed S).mergeSort fun a b => decide (a.id ≤ b.id)
  rw [reconcile_eq] at hnone h
  rcases scheduled_get?_scheduleAll L w₁ _ hnone h with hmem | ⟨h₁, hnot⟩
  · exact (mem_changed_iff.mp (List.mem_mergeSort.mp hmem)).1
  · -- kept from before: an accepted descriptor has its id, and the entry holds that one, or
    -- the descriptor would have been found changed and placed
    have hany : S.any (·.id == k) = true := by
      by_contra hS
      rw [scheduled_get?_dropGone, if_neg hS] at h₁
      cases h₁
    obtain ⟨s, hs, hsk⟩ : ∃ s ∈ S, s.id = k := by simpa using hany
    by_contra hne
    have hch : s ∈ w₁.changed S := mem_changed_iff.mpr ⟨hs, fun sc' hsc' e => by
      rw [hsk, h₁, Option.some.injEq] at hsc'
      exact hne (hsc' ▸ e ▸ hs)⟩
    exact hnot s (List.mem_mergeSort.mpr hch) hsk

/-- An update leaves a scheduled service with its entry, and so its controller and loop, when
its descriptor is accepted unchanged and no other accepted descriptor has its id. -/
theorem reconcile_keeps_unchanged {s : Descriptor} (hs : s ∈ w.accepted D)
    (huniq : ∀ s' ∈ w.accepted D, s'.id = s.id → s' = s) {sc : Scheduled}
    (hsc : w.autoscaler.scheduled.get? s.id = some sc) (hd : sc.descriptor = s) :
    (w.reconcile D).1.autoscaler.scheduled.get? s.id = some sc := by
  set S := w.accepted D
  set w₁ := w.dropGone S
  set L := (w₁.changed S).mergeSort fun a b => decide (a.id ≤ b.id)
  have hany : S.any (·.id == s.id) = true := List.any_eq_true.mpr ⟨s, hs, by simp⟩
  have h₁ : w₁.autoscaler.scheduled.get? s.id = some sc := by
    rw [scheduled_get?_dropGone, if_pos hany, hsc]
  -- the descriptor is not changed, and no other descriptor of the batch has its id
  have hnot : ∀ d ∈ L, d.id ≠ s.id := fun d hdL e => by
    have hch := List.mem_mergeSort.mp hdL
    rw [huniq d (mem_changed_iff.mp hch).1 e, mem_changed_iff] at hch
    exact hch.2 sc h₁ hd
  have hheld := held_scheduleAll_of_not_mem L hnot w₁ w₁.autoscaler.initialDelaySecs
  rw [reconcile_eq]
  exact (congrArg Prod.fst hheld).trans h₁

/-- When every known workload metric has a factory, an update that does not overflow schedules
exactly the ids of the accepted descriptors. -/
theorem scheduled_ids_reconcile
    (hknown : ∀ m ∈ w.autoscaler.known, (w.autoscaler.factories.get? m).isSome)
    (hnone : (w.reconcile D).2 = none) (k : String) :
    ((w.reconcile D).1.autoscaler.scheduled.get? k).isSome ↔ ∃ s ∈ w.accepted D, s.id = k := by
  set S := w.accepted D
  set w₁ := w.dropGone S
  set L := (w₁.changed S).mergeSort fun a b => decide (a.id ≤ b.id)
  have hLS : ∀ d ∈ L, d ∈ S := fun d hd => (mem_changed_iff.mp (List.mem_mergeSort.mp hd)).1
  rw [reconcile_eq] at hnone ⊢
  constructor
  · intro hk
    rcases isSome_scheduleAll L w₁ _ hk with hk₁ | ⟨d, hd, rfl⟩
    · by_contra hS
      have hany : S.any (·.id == k) = false := by simpa using hS
      rw [scheduled_get?_dropGone, hany] at hk₁
      cases hk₁
    · exact ⟨d, hLS d hd, rfl⟩
  · rintro ⟨s, hs, rfl⟩
    have hfac : ∀ d ∈ L, (w₁.autoscaler.factories.get? d.workloadMetric).isSome := fun d hd => by
      rw [autoscaler_dropGone]
      exact hknown _ (mem_known_of_mem_accepted (hLS d hd))
    refine isSome_scheduleAll_of_factories L w₁ _ hfac hnone s.id ?_
    by_cases hsL : s ∈ L
    · exact .inr ⟨s, hsL, rfl⟩
    · -- not changed: it kept an entry
      rw [List.mem_mergeSort, mem_changed_iff] at hsL
      simp only [not_and, not_forall, not_not, exists_prop] at hsL
      obtain ⟨sc, hsc, -⟩ := hsL hs
      left
      rw [hsc]
      rfl

end Update

/-! ### Waits and shutdowns -/

/-- The loops running keeps the agreement: they change nothing of what it reads. -/
theorem Agrees.of_steady (h : w.Agrees) (hs : Steady w w') : w'.Agrees := by
  refine ⟨by rw [hs.autoscaler]; exact h.keys, fun k => ⟨?_, fun sc hsc => ?_⟩⟩
  · rw [hs.configs, hs.autoscaler]
    exact (h.each k).registered
  · rw [hs.autoscaler] at hsc
    obtain ⟨c, hc, hdesc, htok, j, hj, hloop⟩ := (h.each k).running sc hsc
    obtain ⟨c', hc', hkey⟩ :=
      Option.map_eq_some_iff.mp ((hs.controllers sc.controller).trans (by rw [hc]; rfl))
    obtain ⟨j', hj', hl⟩ := Option.map_eq_some_iff.mp ((hs.loops sc.job).trans (by rw [hj]; rfl))
    -- the controller keeps its descriptor and its token, the loop its controller
    have hd' : c'.descriptor = c.descriptor := congrArg Prod.fst hkey
    have ht' : c'.token = c.token := congrArg Prod.snd hkey
    refine ⟨c', hc', hd'.trans hdesc, by rw [hs.tokens, ht']; exact htok, j', hj', ?_⟩
    simp only at hl
    rw [hl, hloop, ht']

theorem agrees_of_empty (hsched : w.autoscaler.scheduled = [])
    (hconfigs : ∀ k, w.governor.configs.get? k = none) : w.Agrees :=
  ⟨by rw [hsched]; exact List.nodup_nil, fun k =>
    ⟨by rw [hconfigs, hsched]; rfl, fun sc hsc => by rw [hsched] at hsc; cases hsc⟩⟩

theorem joinLoop_eq {job : Nat} (h : Wire.joinLoop w job = .ok w') :
    w' = (w.drive Wire.driveFuel (Prog.request (.join job))).1 := by
  unfold Wire.joinLoop Wire.runDriver at h
  cases hfin : (w.drive Wire.driveFuel (Prog.request (.join job))).2 <;>
    simp_all [Wire.finished, bind, Except.bind, pure, Except.pure]

/-- Waiting, service after service, for each one's loop after unregistering it keeps the loops
sound and the reconciler as it is, and unregisters exactly those services. -/
theorem foldlM_join {f : World → String × Scheduled → Wire.Answer World}
    (hf : ∀ w id s w', f w (id, s) = .ok w' →
      w' = (({ w with governor := w.governor.remove id } : World).drive Wire.driveFuel
        (Prog.request (.join s.job))).1) :
    ∀ (es : Keyed Scheduled) (w w' : World), es.foldlM f w = .ok w' → w.loopPart.Sound →
      w'.loopPart.Sound ∧ w'.autoscaler = w.autoscaler ∧
      ∀ k, w'.governor.configs.get? k = if k ∈ es.map (·.1) then none else w.governor.configs.get? k
  | [], w, w', h, hs => by
    cases h
    exact ⟨hs, rfl, fun k => by simp⟩
  | (id, s) :: es, w, w', h, hs => by
    rw [List.foldlM_cons] at h
    cases hstep : f w (id, s) with
    | error e =>
      rw [hstep] at h
      cases h
    | ok w₁ =>
      rw [hstep] at h
      obtain rfl := hf w id s w₁ hstep
      obtain ⟨hs₁, hst⟩ := drive_sound Wire.driveFuel ({ w with governor := w.governor.remove id } : World)
        (Prog.request (.join s.job)) (fun _ => ⟨nofun, trivial⟩) hs
      obtain ⟨hs', ha', hc'⟩ := foldlM_join hf es _ w' h hs₁
      refine ⟨hs', ha'.trans hst.autoscaler, fun k => ?_⟩
      rw [hc', hst.configs]
      show _ = if k ∈ id :: es.map (·.1) then none else w.governor.configs.get? k
      rw [Governor.configs_get?_remove]
      by_cases hki : k = id <;> by_cases hks : k ∈ es.map (·.1) <;> simp [hki, hks]

/-- A shutdown leaves nothing scheduled or registered, and the loops sound. -/
theorem shutdownReconciler_clears (hs : w.loopPart.Sound) (ha : w.Agrees)
    (h : Wire.shutdownReconciler w = .ok w') :
    w'.loopPart.Sound ∧ w'.autoscaler.scheduled = [] ∧ ∀ k, w'.governor.configs.get? k = none := by
  unfold Wire.shutdownReconciler at h
  dsimp only at h
  have hs₀ := @cancel_sound (w.withAutoscaler fun a => { a with scheduled := [] }) hs w.autoscaler.root
  obtain ⟨hs', ha', hc'⟩ := foldlM_join (fun w id s w' h => joinLoop_eq h) _ _ _ h hs₀
  refine ⟨hs', by rw [ha', autoscaler_cancel]; rfl, fun k => ?_⟩
  rw [hc', governor_cancel]
  split
  · rfl
  · -- an id with no entry had nothing registered
    rename_i hk
    have hnone : w.autoscaler.scheduled.get? k = none := by
      rw [Keyed.mem_keys_iff] at hk
      simpa using hk
    show w.governor.configs.get? k = none
    rw [(ha.each k).registered, hnone]
    rfl

/-! ### Runs of a reconciler -/

end World

/-- The worlds a reconciler passes through: a start with no loops and nothing scheduled or
registered, then updates, shutdowns, and waits in which the loops run. An update that crashes
on an overflowing delay leaves the world as far as it got, and the next call sees it. -/
inductive ReconcilerRun : World → Prop
  | start {w : World} (hjobs : w.jobs = #[]) (htimers : w.timers = []) (hready : w.ready = [])
      (hscheduled : w.autoscaler.scheduled = []) (hconfigs : w.governor.configs = []) :
      ReconcilerRun w
  | update {w : World} (D : List Descriptor) :
      ReconcilerRun w → ReconcilerRun (w.reconcile D).1
  | shutdown {w w' : World} :
      ReconcilerRun w → Wire.shutdownReconciler w = .ok w' → ReconcilerRun w'
  | wait {w : World} (fuel ms : Nat) :
      ReconcilerRun w → ReconcilerRun (w.drive fuel (Prog.request (.pause ms))).1

/-- Along a reconciler's run the loops stay sound and the reconciler agrees with the governor. -/
theorem ReconcilerRun.tracked {w : World} (h : ReconcilerRun w) : w.loopPart.Sound ∧ w.Agrees := by
  induction h with
  | start hjobs htimers hready hscheduled hconfigs =>
    exact ⟨LoopPart.sound_of_idle hjobs htimers hready,
      World.agrees_of_empty hscheduled fun k => by rw [hconfigs]; rfl⟩
  | update D _ ih => exact ⟨World.sound_reconcile ih.1 D, ih.2.reconcile D⟩
  | shutdown _ hw ih =>
    obtain ⟨hs, hsched, hconfigs⟩ := World.shutdownReconciler_clears ih.1 ih.2 hw
    exact ⟨hs, World.agrees_of_empty hsched hconfigs⟩
  | wait fuel ms _ ih =>
    obtain ⟨hs, hst⟩ := World.drive_sound fuel _ (Prog.request (.pause ms)) (fun _ => ⟨nofun, trivial⟩) ih.1
    exact ⟨hs, ih.2.of_steady hst⟩

/-- The run that starts a reconciler with one queue factory and schedules service "a". -/
theorem ReconcilerRun.queueService :
    ReconcilerRun (World.queueWorld.reconcile [World.queueService 3]).1 :=
  .update _ (.start rfl rfl rfl rfl rfl)

/-- Along every run of a reconciler the governor registers exactly the scheduled ids, each with
the descriptor of its service's controller. An update that does not crash stops every scheduled
service that is gone, cancelling its controller's token and unregistering it; schedules only
accepted descriptors; keeps the entry and the controller of a service accepted unchanged under
an id no other accepted descriptor has; and, when every known workload metric has a factory,
schedules exactly the accepted ids. A shutdown leaves nothing scheduled or registered. -/
theorem reconciler_keeps_governor_in_step {w : World} (hw : ReconcilerRun w) :
    (∀ k, w.governor.isRegistered k = (w.autoscaler.scheduled.get? k).isSome ∧
      ∀ sc, w.autoscaler.scheduled.get? k = some sc →
        ∃ c, w.controllers[sc.controller]? = some c ∧ w.governor.configs.get? k = some c.descriptor) ∧
    (∀ D, (w.reconcile D).2 = none →
      (∀ k sc, w.autoscaler.scheduled.get? k = some sc → (∀ s ∈ w.accepted D, s.id ≠ k) →
        ∃ c, w.controllers[sc.controller]? = some c ∧ (w.reconcile D).1.cancelled c.token = true ∧
          (w.reconcile D).1.governor.isRegistered k = false ∧
          (w.reconcile D).1.autoscaler.scheduled.get? k = none) ∧
      (∀ k sc, (w.reconcile D).1.autoscaler.scheduled.get? k = some sc →
        sc.descriptor ∈ w.accepted D) ∧
      (∀ s ∈ w.accepted D, (∀ s' ∈ w.accepted D, s'.id = s.id → s' = s) →
        ∀ sc, w.autoscaler.scheduled.get? s.id = some sc → sc.descriptor = s →
          (w.reconcile D).1.autoscaler.scheduled.get? s.id = some sc ∧
          ∃ c, w.controllers[sc.controller]? = some c ∧
            (w.reconcile D).1.controllers[sc.controller]? = some c) ∧
      ((∀ m ∈ w.autoscaler.known, (w.autoscaler.factories.get? m).isSome) →
        ∀ k, ((w.reconcile D).1.autoscaler.scheduled.get? k).isSome ↔ ∃ s ∈ w.accepted D, s.id = k)) ∧
    (∀ w', Wire.shutdownReconciler w = .ok w' →
      w'.autoscaler.scheduled = [] ∧ ∀ k, w'.governor.isRegistered k = false) := by
  obtain ⟨hs, ha⟩ := hw.tracked
  refine ⟨fun k => ⟨?_, fun sc hsc => ?_⟩, fun D hnone => ⟨fun k sc hsc hgone => ?_,
    fun k sc h => World.descriptor_mem_accepted hnone h, fun s hs huniq sc hsc hd => ?_,
    fun hknown => World.scheduled_ids_reconcile hknown hnone⟩, fun w' h => ?_⟩
  · rw [Governor.isRegistered_eq_isSome, (ha.each k).registered, Option.isSome_map]
  · obtain ⟨c, hc, hdesc, -⟩ := (ha.each k).running sc hsc
    exact ⟨c, hc, by rw [(ha.each k).registered, hsc, hdesc]; rfl⟩
  · obtain ⟨hsched, hconfigs, c, hc, hcancel⟩ := World.reconcile_drops_gone ha hsc hgone
    exact ⟨c, hc, hcancel, by rw [Governor.isRegistered_eq_isSome, hconfigs]; rfl, hsched⟩
  · obtain ⟨c, hc, -⟩ := (ha.each s.id).running sc hsc
    exact ⟨World.reconcile_keeps_unchanged hs huniq hsc hd, c, hc, World.controllers_reconcile hc D⟩
  · obtain ⟨-, hsched, hconfigs⟩ := World.shutdownReconciler_clears hs ha h
    exact ⟨hsched, fun k => by rw [Governor.isRegistered_eq_isSome, hconfigs]; rfl⟩

/-- A reconciler that schedules service "a" registers it with the governor. -/
theorem queueService_registered :
    ReconcilerRun (World.queueWorld.reconcile [World.queueService 3]).1 ∧
      (World.queueWorld.reconcile [World.queueService 3]).1.governor.isRegistered "a" =
        ((World.queueWorld.reconcile [World.queueService 3]).1.autoscaler.scheduled.get? "a").isSome :=
  ⟨ReconcilerRun.queueService,
    ((reconciler_keeps_governor_in_step ReconcilerRun.queueService).1 "a").1⟩

end ScaleControl
