import Mathlib
import ScaleControl.Proofs.ReconcilerRuns
/-!
# Staggered starts

An update schedules the changed services in id order, and each new controller's loop waits
out a first delay of its own: the first after the initial delay, each next one an increment
later. A descriptor whose workload metric no analyser factory serves starts nothing and takes
no increment; it stops the controller under its id and leaves nothing registered under it.
Delays are whole seconds of at most 64 bits, and an increment past that crashes the update.

`World.placeAll` is a batch whose delays have no limit. A batch places a prefix of its
descriptors, all of them unless a delay overflows (`scheduleAll_eq_placeAll`), so an update
crashes exactly when the delay after the last descriptor it serves passes the limit
(`reconcile_snd_eq`), whatever the settings. The loops an update starts are, in id order,
one per served descriptor it placed, the `j`-th after the initial delay and `j` increments. Two
accepted descriptors may share an id; a later one replaces what an earlier one scheduled. So a
descriptor that no factory serves and that is the last of its id leaves nothing under the id,
and every controller that ran under the id cancelled (`placeAll_clears_unserved`,
`reconcile_staggers_in_id_order`).
-/
namespace ScaleControl

namespace World

variable {w v : World} {d : Descriptor} {δ : Nat}

/-- Whether an analyser factory serves a descriptor's workload metric. -/
def serves (w : World) (d : Descriptor) : Bool :=
  (w.autoscaler.factories.get? d.workloadMetric).isSome

/-- The loops spawned so far, in order. -/
def loops (w : World) : List Loop := w.jobs.toList.map (·.loop)

/-- The descriptors of the controllers made so far, in order. -/
def descriptors (w : World) : List Descriptor := w.controllers.toList.map (·.descriptor)

/-- Places the descriptors of a batch one after another, with no limit on the delays: the
first served one after `δ` seconds, each next served one an increment later. -/
def placeAll (w : World) (δ : Nat) : List Descriptor → World
  | [] => w
  | d :: rest =>
    (w.place d δ).placeAll (if w.serves d then δ + w.autoscaler.delayIncrementSecs else δ) rest

/-! ### Placing one descriptor -/

@[simp] theorem serves_place (w : World) (d : Descriptor) (δ : Nat) :
    (w.place d δ).serves = w.serves := by
  funext d'
  unfold serves
  rw [autoscaler_place]

@[simp] theorem delayIncrementSecs_place (w : World) (d : Descriptor) (δ : Nat) :
    (w.place d δ).autoscaler.delayIncrementSecs = w.autoscaler.delayIncrementSecs := by
  rw [autoscaler_place]

theorem schedule_unschedule_eq_none (h : w.serves d = false) :
    (w.unschedule d.id).schedule d δ = none := by
  rw [schedule_eq_none_iff, autoscaler_unschedule]
  simpa [serves] using h

theorem place_of_serves_eq_false (h : w.serves d = false) :
    w.place d δ = { w.unschedule d.id with governor := w.governor.remove d.id } := by
  unfold place
  rw [schedule_unschedule_eq_none h, governor_unschedule]

theorem place_of_serves_eq_true (h : w.serves d = true) (δ : Nat) :
    ∃ w', (w.unschedule d.id).schedule d δ = some w' ∧ w.place d δ = w' := by
  cases hs : (w.unschedule d.id).schedule d δ with
  | none =>
    rw [schedule_eq_none_iff, autoscaler_unschedule] at hs
    simp [serves, hs] at h
  | some w' =>
    refine ⟨w', rfl, ?_⟩
    unfold place
    rw [hs]

theorem controllers_size_eq_length_descriptors (w : World) :
    w.controllers.size = w.descriptors.length := by
  simp [descriptors]

/-- Placing a served descriptor adds a token, a controller with that descriptor and token, and
a loop that runs the controller after `δ` seconds; placing another adds nothing. -/
theorem place_adds (w : World) (d : Descriptor) (δ : Nat) :
    (w.place d δ).tokens.size = w.tokens.size + (if w.serves d then 1 else 0) ∧
      (w.place d δ).descriptors = w.descriptors ++ (if w.serves d then [d] else []) ∧
      (w.place d δ).loops = w.loops ++
        (if w.serves d then
          [.run ⟨w.controllers.size, d.id, w.tokens.size⟩ (δ * 1000) (d.intervalSecs.toNat * 1000)
            .starting]
        else []) := by
  cases hd : w.serves d with
  | false =>
    rw [place_of_serves_eq_false hd]
    simp [descriptors, loops]
  | true =>
    obtain ⟨w', hs, hw'⟩ := place_of_serves_eq_true hd δ
    obtain ⟨a, htokens, hctl, hjobs, -⟩ := schedule_eq_some hs
    rw [hw', htokens, descriptors, loops, hctl, hjobs]
    simp [descriptors, loops]

/-- Placing a served descriptor schedules it with the new controller and loop. -/
theorem scheduled_get?_place_self (h : w.serves d = true) :
    (w.place d δ).autoscaler.scheduled.get? d.id = some ⟨d, w.controllers.size, w.jobs.size⟩ := by
  obtain ⟨w', hs, hw'⟩ := place_of_serves_eq_true h δ
  rw [hw', autoscaler_of_schedule hs, Keyed.get?_put_self, controllers_unschedule,
    jobs_unschedule]

/-- Placing a descriptor that no factory serves leaves nothing held under its id. -/
theorem held_place_of_serves_eq_false (h : w.serves d = false) :
    (w.place d δ).held d.id = (none, none, none, none) := by
  rw [place_of_serves_eq_false h]
  simp [held, Keyed.get?_erase, Governor.configs_get?_remove, Governor.records_get?_remove,
    Governor.donors_get?_remove]

/-- Placing a descriptor keeps every controller there. -/
theorem controllers_getElem?_place {i : Nat} {c : Controller} (h : w.controllers[i]? = some c)
    (d : Descriptor) (δ : Nat) : (w.place d δ).controllers[i]? = some c := by
  unfold place
  split
  · simpa using h
  · rename_i w' hs
    obtain ⟨a, -, hctl, -⟩ := schedule_eq_some hs
    rw [hctl, Array.getElem?_push, controllers_unschedule,
      if_neg (Nat.ne_of_lt (Array.getElem?_eq_some_iff.mp h).1)]
    exact h

/-- What stopping the service under a descriptor's id cancels stays cancelled when the
descriptor is placed. -/
theorem cancelled_place_of_unschedule {t : Nat} (h : (w.unschedule d.id).cancelled t = true)
    (δ : Nat) : (w.place d δ).cancelled t = true := by
  unfold place
  split
  · exact h
  · rename_i w' hs
    exact cancelled_schedule h hs

/-- Placing a descriptor cancels the controller scheduled under its id. -/
theorem place_cancels_scheduled (hv : w.Agrees) {sc : Scheduled}
    (hsc : w.autoscaler.scheduled.get? d.id = some sc) (δ : Nat) :
    ∃ c, w.controllers[sc.controller]? = some c ∧ (w.place d δ).cancelled c.token = true := by
  obtain ⟨c, hc, -, htok, -⟩ := (hv.each d.id).running sc hsc
  exact ⟨c, hc, cancelled_place_of_unschedule (cancelled_unschedule_self hsc hc htok) δ⟩

/-- A controller that placing a descriptor made comes last and holds that descriptor, which a
factory serves. -/
theorem controllers_getElem?_place_new {i : Nat} {c : Controller} (hi : w.controllers.size ≤ i)
    (h : (w.place d δ).controllers[i]? = some c) :
    w.serves d = true ∧ i = w.controllers.size ∧ c.descriptor = d := by
  have hdesc : (w.place d δ).descriptors[i]? = some c.descriptor := by
    simp [descriptors, h]
  rw [(place_adds w d δ).2.1, List.getElem?_append_right
    (by rw [← controllers_size_eq_length_descriptors]; exact hi),
    ← controllers_size_eq_length_descriptors] at hdesc
  cases hd : w.serves d with
  | false => simp [hd] at hdesc
  | true =>
    rw [hd, if_pos rfl, List.getElem?_singleton] at hdesc
    by_cases hz : i - w.controllers.size = 0
    · rw [if_pos hz] at hdesc
      exact ⟨rfl, by omega, (Option.some.inj hdesc).symm⟩
    · rw [if_neg hz] at hdesc
      cases hdesc

/-! ### Batches -/

@[simp] theorem placeAll_nil (w : World) (δ : Nat) : w.placeAll δ [] = w := rfl

/-- One descriptor of a batch is placed; the batch crashes right after it if a factory serves
it and the next delay passes the limit, and goes on otherwise, an increment later if it was
served. -/
theorem scheduleAll_cons_eq (w : World) (δ : Nat) (d : Descriptor) (rest : List Descriptor) :
    w.scheduleAll δ (d :: rest) =
      if w.serves d = true ∧ delayLimitSecs < δ + w.autoscaler.delayIncrementSecs then
        (w.place d δ, some "overflow when adding durations")
      else
        (w.place d δ).scheduleAll
          (if w.serves d then δ + w.autoscaler.delayIncrementSecs else δ) rest := by
  cases hd : w.serves d with
  | false =>
    rw [scheduleAll, schedule_unschedule_eq_none hd, place_of_serves_eq_false hd,
      governor_unschedule]
    simp
  | true =>
    obtain ⟨w', hs, hw'⟩ := place_of_serves_eq_true hd δ
    -- the increment is the world's own: stopping and scheduling keep it
    have hinc : w'.autoscaler.delayIncrementSecs = w.autoscaler.delayIncrementSecs := by
      rw [autoscaler_of_schedule hs, autoscaler_unschedule]
    rw [scheduleAll, hs, hw']
    simp [hinc]

/-- A batch places a prefix of its descriptors: all of them unless a delay overflows. -/
theorem scheduleAll_eq_placeAll (L : List Descriptor) (w : World) (δ : Nat) :
    ∃ m ≤ L.length, ((w.scheduleAll δ L).2 = none → m = L.length) ∧
      (w.scheduleAll δ L).1 = w.placeAll δ (L.take m) := by
  induction L generalizing w δ with
  | nil => exact ⟨0, le_rfl, fun _ => rfl, rfl⟩
  | cons d rest ih =>
    rw [scheduleAll_cons_eq]
    split
    · -- the delay after this descriptor overflows: the batch stops here
      exact ⟨1, by simp, by simp, by simp [placeAll]⟩
    · obtain ⟨m, hm, hnone, hw⟩ := ih (w.place d δ) _
      refine ⟨m + 1, by simpa using hm, fun h => by simp [hnone h], ?_⟩
      rw [hw]
      rfl

/-- A batch crashes exactly when it serves some descriptor and the delay after the last one it
serves passes the limit. -/
theorem scheduleAll_snd_eq (L : List Descriptor) (w : World) (δ : Nat) :
    (w.scheduleAll δ L).2 =
      if 0 < (L.filter w.serves).length ∧
          delayLimitSecs < δ + (L.filter w.serves).length * w.autoscaler.delayIncrementSecs
      then some "overflow when adding durations" else none := by
  induction L generalizing w δ with
  | nil => simp [scheduleAll]
  | cons d rest ih =>
    rw [scheduleAll_cons_eq]
    cases hd : w.serves d with
    | false =>
      rw [if_neg (by simp), ih, serves_place, delayIncrementSecs_place,
        List.filter_cons_of_neg (by simp [hd])]
      rfl
    | true =>
      rw [List.filter_cons_of_pos hd, List.length_cons, Nat.succ_mul]
      by_cases hover : delayLimitSecs < δ + w.autoscaler.delayIncrementSecs
      · rw [if_pos ⟨rfl, hover⟩, if_pos ⟨Nat.succ_pos _, by omega⟩]
      · rw [if_neg (fun h => hover h.2), if_pos rfl, ih, serves_place, delayIncrementSecs_place]
        -- with no later served descriptor there is no later increment
        rcases Nat.eq_zero_or_pos (rest.filter w.serves).length with hn | hn
        · rw [hn]
          simp only [Nat.lt_irrefl, false_and, if_false, Nat.zero_mul, Nat.zero_add,
            Nat.zero_lt_one, true_and]
          rw [if_neg hover]
        · simp only [hn, true_and, Nat.succ_pos]
          rw [show δ + w.autoscaler.delayIncrementSecs +
              (rest.filter w.serves).length * w.autoscaler.delayIncrementSecs =
            δ + ((rest.filter w.serves).length * w.autoscaler.delayIncrementSecs +
              w.autoscaler.delayIncrementSecs) by omega]

/-! ### What a batch adds -/

/-- A batch adds a token and a controller for each descriptor a factory serves, in order. -/
theorem placeAll_adds_controllers (P : List Descriptor) (w : World) (δ : Nat) :
    (w.placeAll δ P).tokens.size = w.tokens.size + (P.filter w.serves).length ∧
      (w.placeAll δ P).descriptors = w.descriptors ++ P.filter w.serves := by
  induction P generalizing w δ with
  | nil => simp
  | cons d rest ih =>
    obtain ⟨htokens, hdesc, -⟩ := place_adds w d δ
    rw [placeAll, (ih _ _).1, (ih _ _).2, serves_place, htokens, hdesc]
    cases hd : w.serves d <;> simp [hd, Nat.add_assoc, Nat.add_comm 1]

/-- A batch spawns, in order, one loop for each descriptor a factory serves: the `j`-th runs
the `j`-th new controller on the `j`-th new token, after `δ` seconds and `j` increments. -/
theorem loops_placeAll (P : List Descriptor) (w : World) (δ : Nat) :
    (w.placeAll δ P).loops = w.loops ++
      (P.filter w.serves).mapIdx fun j d =>
        .run ⟨w.controllers.size + j, d.id, w.tokens.size + j⟩
          ((δ + j * w.autoscaler.delayIncrementSecs) * 1000) (d.intervalSecs.toNat * 1000) .starting := by
  induction P generalizing w δ with
  | nil => simp
  | cons d rest ih =>
    obtain ⟨htokens, -, hloops⟩ := place_adds w d δ
    have hsize : (w.place d δ).controllers.size =
        w.controllers.size + (if w.serves d then 1 else 0) := controllers_size_place w d δ
    rw [placeAll, ih, serves_place, delayIncrementSecs_place, hloops, hsize, htokens]
    cases hd : w.serves d with
    | false => simp [hd]
    | true =>
      -- the served descriptor's loop comes first, and the later ones move up by one
      simp only [if_true, List.filter_cons_of_pos hd, List.mapIdx_cons, List.append_assoc,
        List.singleton_append, Nat.add_zero, Nat.zero_mul]
      congr 3
      funext j d'
      rw [Nat.add_assoc, Nat.add_assoc, Nat.add_comm 1 j, Nat.add_assoc δ, Nat.add_comm _ (j * _),
        ← Nat.succ_mul]

theorem held_placeAll_of_not_mem {k : String} (P : List Descriptor) (hk : ∀ d ∈ P, d.id ≠ k)
    (w : World) (δ : Nat) : (w.placeAll δ P).held k = w.held k := by
  induction P generalizing w δ with
  | nil => rfl
  | cons d rest ih =>
    rw [placeAll, ih (fun d' hd' => hk d' (List.mem_cons_of_mem d hd')),
      held_place_of_ne (Ne.symm (hk d List.mem_cons_self))]

theorem cancelled_placeAll {t : Nat} (h : w.cancelled t = true) (P : List Descriptor) (δ : Nat) :
    (w.placeAll δ P).cancelled t = true := by
  induction P generalizing w δ with
  | nil => exact h
  | cons d rest ih => exact ih (cancelled_place h d δ) _

theorem controllers_getElem?_placeAll {i : Nat} {c : Controller} (h : w.controllers[i]? = some c)
    (P : List Descriptor) (δ : Nat) : (w.placeAll δ P).controllers[i]? = some c := by
  induction P generalizing w δ with
  | nil => exact h
  | cons d rest ih => exact ih (controllers_getElem?_place h d δ) _

/-- A controller a batch made holds one of the batch's served descriptors. -/
theorem mem_of_controllers_placeAll {P : List Descriptor} {i : Nat} {c : Controller}
    (hi : w.controllers.size ≤ i) (h : (w.placeAll δ P).controllers[i]? = some c) :
    c.descriptor ∈ P.filter w.serves := by
  have hdesc : (w.placeAll δ P).descriptors[i]? = some c.descriptor := by
    simp [descriptors, h]
  rw [(placeAll_adds_controllers P w δ).2, List.getElem?_append_right
    (by rw [← controllers_size_eq_length_descriptors]; exact hi)] at hdesc
  exact List.mem_of_getElem? hdesc

/-- In a batch, a descriptor that no factory serves and that no later descriptor shares its id
with leaves nothing held under its id, and every controller that ran under that id cancelled:
the one scheduled before the batch, and each one the batch made for the id. -/
theorem placeAll_clears_unserved {d : Descriptor} (hd : v.serves d = false) {post : List Descriptor}
    (hpost : ∀ d' ∈ post, d'.id ≠ d.id) (pre : List Descriptor) (hv : v.Agrees) (δ : Nat) :
    (v.placeAll δ (pre ++ d :: post)).held d.id = (none, none, none, none) ∧
      ∀ i c, (v.placeAll δ (pre ++ d :: post)).controllers[i]? = some c →
        ((v.autoscaler.scheduled.get? d.id).map (·.controller) = some i ∨
          (v.controllers.size ≤ i ∧ c.descriptor.id = d.id)) →
        (v.placeAll δ (pre ++ d :: post)).cancelled c.token = true := by
  induction pre generalizing v δ with
  | nil =>
    set v₁ := v.place d δ
    have hsize : v₁.controllers.size = v.controllers.size + (if v.serves d then 1 else 0) :=
      controllers_size_place v d δ
    rw [hd, if_neg Bool.false_ne_true, Nat.add_zero] at hsize
    refine ⟨?_, fun i c hc hwho => ?_⟩
    · rw [List.nil_append, placeAll, held_placeAll_of_not_mem post hpost,
        held_place_of_serves_eq_false hd]
    rw [List.nil_append, placeAll] at hc ⊢
    rcases hwho with hold | ⟨hi, hid⟩
    · -- the controller scheduled before: stopped when the descriptor was placed
      obtain ⟨sc, hsc, rfl⟩ := Option.map_eq_some_iff.mp hold
      obtain ⟨c', hc', hstop⟩ := place_cancels_scheduled hv hsc δ
      have hcc : c' = c := Option.some.inj ((controllers_getElem?_placeAll
        (controllers_getElem?_place hc' d δ) post _).symm.trans hc)
      subst hcc
      exact cancelled_placeAll hstop post _
    · -- a controller the batch made later holds a later descriptor, of another id
      have hmem := mem_of_controllers_placeAll (hsize ▸ hi) hc
      exact absurd hid (hpost _ (List.mem_filter.mp hmem).1)
  | cons d₀ pre ih =>
    set v₁ := v.place d₀ δ
    have hd₁ : v₁.serves d = false := by rw [serves_place]; exact hd
    obtain ⟨hheld, hcancel⟩ := ih hd₁ (hv.place d₀ δ) _
    refine ⟨hheld, fun i c hc hwho => ?_⟩
    rw [List.cons_append, placeAll] at hc ⊢
    rcases hwho with hold | ⟨hi, hid⟩
    · by_cases hk : d.id = d₀.id
      · -- the first descriptor of the batch has the id: placing it stopped that controller
        obtain ⟨sc, hsc, rfl⟩ := Option.map_eq_some_iff.mp hold
        obtain ⟨c', hc', hstop⟩ := place_cancels_scheduled hv (hk ▸ hsc) δ
        have hcc : c' = c := Option.some.inj ((controllers_getElem?_placeAll
          (controllers_getElem?_place hc' d₀ δ) _ _).symm.trans hc)
        subst hcc
        exact cancelled_placeAll hstop _ _
      · -- placing another id keeps the entry under this one
        refine hcancel i c hc (.inl ?_)
        rw [← hold]
        exact congrArg (fun h => h.1.map (·.controller)) (held_place_of_ne hk)
    · by_cases hi₁ : v₁.controllers.size ≤ i
      · exact hcancel i c hc (.inr ⟨hi₁, hid⟩)
      · -- the controller is the one placing the first descriptor made: scheduled under its id
        obtain ⟨c₁, hc₁⟩ : ∃ c₁, v₁.controllers[i]? = some c₁ :=
          ⟨v₁.controllers[i], Array.getElem?_eq_getElem (by omega)⟩
        have hcc : c₁ = c := Option.some.inj
          ((controllers_getElem?_placeAll hc₁ _ _).symm.trans hc)
        subst hcc
        obtain ⟨hserved, rfl, hd₀⟩ := controllers_getElem?_place_new hi hc₁
        refine hcancel _ c₁ hc (.inl ?_)
        rw [← hid, hd₀, scheduled_get?_place_self hserved]
        rfl

/-! ### Dropping the services that are gone -/

section DropGone

variable (w : World) (S : List Descriptor)

theorem jobs_dropGone : (w.dropGone S).jobs = w.jobs :=
  foldl_forget_carries (fun w w' => w'.jobs = w.jobs) (fun _ => rfl)
    (fun _ _ _ h₁ h₂ => h₂.trans h₁) (fun w id => jobs_unschedule w id) _ w

theorem loops_dropGone : (w.dropGone S).loops = w.loops := by
  rw [loops, jobs_dropGone, loops]

theorem tokens_size_dropGone : (w.dropGone S).tokens.size = w.tokens.size :=
  foldl_forget_carries (fun w w' => w'.tokens.size = w.tokens.size) (fun _ => rfl)
    (fun _ _ _ h₁ h₂ => h₂.trans h₁) (fun w id => tokens_size_unschedule w id) _ w

@[simp] theorem serves_dropGone : (w.dropGone S).serves = w.serves := by
  funext d
  unfold serves
  rw [autoscaler_dropGone]

theorem initialDelaySecs_dropGone :
    (w.dropGone S).autoscaler.initialDelaySecs = w.autoscaler.initialDelaySecs := by
  rw [autoscaler_dropGone]

theorem delayIncrementSecs_dropGone :
    (w.dropGone S).autoscaler.delayIncrementSecs = w.autoscaler.delayIncrementSecs := by
  rw [autoscaler_dropGone]

/-- Dropping what is gone keeps the entry under the id of every service still there. -/
theorem scheduled_get?_dropGone_of_mem {s : Descriptor} (hs : s ∈ S) :
    (w.dropGone S).autoscaler.scheduled.get? s.id = w.autoscaler.scheduled.get? s.id := by
  have hkept : (S.any fun x => x.id == s.id) = true := List.any_eq_true.mpr ⟨s, hs, by simp⟩
  rw [scheduled_get?_dropGone, if_pos hkept]

/-- Dropping what is gone changes none of the services still there. -/
theorem changed_dropGone : (w.dropGone S).changed S = w.changed S := by
  unfold changed
  refine List.filter_congr fun s hs => ?_
  rw [scheduled_get?_dropGone_of_mem w S hs]

variable {w} in
theorem Agrees.dropGone (h : w.Agrees) : (w.dropGone S).Agrees :=
  foldl_forget_carries (fun w w' => w.Agrees → w'.Agrees) (fun _ => id)
    (fun _ _ _ h₁ h₂ => h₂ ∘ h₁) (fun _ id h => h.forget id) _ w h

end DropGone

/-! ### Updates -/

/-- The descriptors an update schedules, in order: the accepted ones that are not scheduled as
they are, by id. -/
def toSchedule (w : World) (D : List Descriptor) : List Descriptor :=
  (w.changed (w.accepted D)).mergeSort fun a b => decide (a.id ≤ b.id)

theorem toSchedule_sorted (w : World) (D : List Descriptor) :
    (w.toSchedule D).Pairwise fun a b => a.id ≤ b.id := by
  have hsorted := @List.pairwise_mergeSort _ (fun a b : Descriptor => decide (a.id ≤ b.id))
    (fun a b c hab hbc => by
      simp only [decide_eq_true_eq] at hab hbc ⊢
      exact String.le_trans hab hbc)
    (fun a b => by simpa using String.le_total a.id b.id) (w.changed (w.accepted D))
  exact hsorted.imp fun h => of_decide_eq_true h

theorem reconcile_eq_scheduleAll (w : World) (D : List Descriptor) :
    w.reconcile D = (w.dropGone (w.accepted D)).scheduleAll w.autoscaler.initialDelaySecs
      (w.toSchedule D) := by
  rw [reconcile_eq, initialDelaySecs_dropGone, changed_dropGone]
  rfl

/-- An update that does not crash places each of its descriptors, in order. -/
theorem reconcile_eq_placeAll {D : List Descriptor} (hnone : (w.reconcile D).2 = none) :
    (w.reconcile D).1 = (w.dropGone (w.accepted D)).placeAll w.autoscaler.initialDelaySecs
      (w.toSchedule D) := by
  rw [reconcile_eq_scheduleAll] at hnone ⊢
  obtain ⟨m, -, hall, hplace⟩ := scheduleAll_eq_placeAll (w.toSchedule D)
    (w.dropGone (w.accepted D)) w.autoscaler.initialDelaySecs
  rw [hplace, hall hnone, List.take_length]

/-- An update crashes exactly when it schedules a descriptor that a factory serves and the
delay after the last of them, the initial delay and one increment for each, passes the
limit. -/
theorem reconcile_snd_eq (w : World) (D : List Descriptor) :
    (w.reconcile D).2 =
      if 0 < ((w.toSchedule D).filter w.serves).length ∧
          delayLimitSecs < w.autoscaler.initialDelaySecs +
            ((w.toSchedule D).filter w.serves).length * w.autoscaler.delayIncrementSecs
      then some "overflow when adding durations" else none := by
  rw [reconcile_eq_scheduleAll, scheduleAll_snd_eq, serves_dropGone, delayIncrementSecs_dropGone]

/-- Settings the validator accepts: the largest initial delay, and an increment of a second. -/
def lateStartSettings : Settings := { initialDelaySecs := 18446744073709551615, delayIncrementSecs := 1 }

/-- `queueWorld` under `lateStartSettings`. -/
def lateStartWorld : World :=
  { queueWorld with autoscaler := { queueWorld.autoscaler with
      initialDelaySecs := lateStartSettings.initialDelaySecs.toNat
      delayIncrementSecs := lateStartSettings.delayIncrementSecs.toNat } }

/-- Under settings the validator accepts, the first update that schedules one service crashes:
the delay after it passes the limit. -/
theorem late_start_update_overflows :
    lateStartSettings.validate = .ok () ∧
      (lateStartWorld.reconcile [queueService 3]).2 = some "overflow when adding durations" := by
  refine ⟨rfl, ?_⟩
  have hchanged : lateStartWorld.changed (lateStartWorld.accepted [queueService 3]) =
      [queueService 3] := by
    decide
  have hsched : lateStartWorld.toSchedule [queueService 3] = [queueService 3] := by
    rw [toSchedule, hchanged, List.mergeSort_singleton]
  rw [reconcile_eq_scheduleAll, scheduleAll_snd_eq, serves_dropGone, delayIncrementSecs_dropGone,
    hsched]
  decide

/-- An update schedules its descriptors in id order. The `j`-th that a factory serves starts
the next controller on the next token, after the initial delay and `j` increments; one that no
factory serves takes no increment. When no later descriptor of the update has its id, it leaves
nothing registered under the id, and cancels the controller that was scheduled under it before
the update and every controller the update made for an earlier descriptor of the id. -/
theorem reconcile_staggers_in_id_order (hw : w.Agrees) {D : List Descriptor}
    (hnone : (w.reconcile D).2 = none) :
    ((w.toSchedule D).filter w.serves).Pairwise (fun a b => a.id ≤ b.id) ∧
      (w.reconcile D).1.loops = w.loops ++
        ((w.toSchedule D).filter w.serves).mapIdx (fun j d =>
          .run ⟨w.controllers.size + j, d.id, w.tokens.size + j⟩
            ((w.autoscaler.initialDelaySecs + j * w.autoscaler.delayIncrementSecs) * 1000)
            (d.intervalSecs.toNat * 1000) .starting) ∧
      ∀ pre d post, w.toSchedule D = pre ++ d :: post → w.serves d = false →
        (∀ d' ∈ post, d'.id ≠ d.id) →
        (w.reconcile D).1.held d.id = (none, none, none, none) ∧
          (∀ sc, w.autoscaler.scheduled.get? d.id = some sc →
            ∃ c, w.controllers[sc.controller]? = some c ∧
              (w.reconcile D).1.cancelled c.token = true) ∧
          (∀ i c, w.controllers.size ≤ i → (w.reconcile D).1.controllers[i]? = some c →
            c.descriptor.id = d.id → (w.reconcile D).1.cancelled c.token = true) := by
  set w₁ := w.dropGone (w.accepted D)
  have hrun := reconcile_eq_placeAll hnone
  refine ⟨(toSchedule_sorted w D).filter _, ?_, fun pre d post hsplit hserves hpost => ?_⟩
  · rw [hrun, loops_placeAll, loops_dropGone, serves_dropGone, controllers_dropGone,
      tokens_size_dropGone, delayIncrementSecs_dropGone]
  obtain ⟨hheld, hcancel⟩ := placeAll_clears_unserved (by rw [serves_dropGone]; exact hserves)
    hpost pre (hw.dropGone (w.accepted D)) w.autoscaler.initialDelaySecs
  have hsize : w₁.controllers.size = w.controllers.size := by rw [controllers_dropGone]
  rw [hrun, hsplit]
  refine ⟨hheld, fun sc hsc => ?_, fun i c hi hc hid => hcancel i c hc (.inr ⟨hsize ▸ hi, hid⟩)⟩
  obtain ⟨c, hc, -⟩ := (hw.each d.id).running sc hsc
  -- the entry under the id survived the drop: an accepted descriptor has the id
  have hd : d ∈ w.toSchedule D := by rw [hsplit]; exact List.mem_append_right _ List.mem_cons_self
  have hsc₁ : w₁.autoscaler.scheduled.get? d.id = some sc := by
    rw [scheduled_get?_dropGone_of_mem _ _ (mem_changed_iff.mp (List.mem_mergeSort.mp hd)).1]
    exact hsc
  have hc₁ : w₁.controllers[sc.controller]? = some c := by rw [controllers_dropGone]; exact hc
  have hc' := controllers_getElem?_placeAll hc₁ (pre ++ d :: post) w.autoscaler.initialDelaySecs
  exact ⟨c, hc, hcancel sc.controller c hc' (.inl (by rw [hsc₁]; rfl))⟩

/-- Services on "queue" and on "disk", a metric the validator knows but no factory serves. -/
def staggerWorld : World :=
  { queueWorld with autoscaler := { queueWorld.autoscaler with
      known := ["queue", "disk"], initialDelaySecs := 30, delayIncrementSecs := 2 } }

/-- Four descriptors, discovered out of order: "a" on "queue" and then on "disk", "b" and "c"
on "queue". -/
def staggerServices : List Descriptor :=
  [⟨"c", 60, 0, 3, 0, none, none, "queue", "c-in", none⟩,
    ⟨"a", 60, 0, 3, 0, none, none, "queue", "a-in", none⟩,
    ⟨"a", 60, 0, 3, 0, none, none, "disk", "a-in", none⟩,
    ⟨"b", 60, 0, 3, 0, none, none, "queue", "b-in", none⟩]

/-- "a" on "queue" starts after 30 s, "b" and "c" one and two increments later; "a" on "disk",
the last descriptor of "a", takes no increment, leaves nothing under "a" and cancels the
controller that "a" on "queue" started. -/
theorem staggerServices_start_in_id_order :
    staggerWorld.Agrees ∧ (staggerWorld.reconcile staggerServices).2 = none ∧
      (staggerWorld.reconcile staggerServices).1.loops =
        [.run ⟨0, "a", 0⟩ 30000 60000 .starting, .run ⟨1, "b", 1⟩ 32000 60000 .starting,
          .run ⟨2, "c", 2⟩ 34000 60000 .starting] ∧
      (staggerWorld.reconcile staggerServices).1.held "a" = (none, none, none, none) ∧
      ∃ c, (staggerWorld.reconcile staggerServices).1.controllers[0]? = some c ∧
        c.descriptor.id = "a" ∧ (staggerWorld.reconcile staggerServices).1.cancelled c.token = true := by
  have hw : staggerWorld.Agrees := agrees_of_empty rfl fun _ => rfl
  have hchanged : staggerWorld.changed (staggerWorld.accepted staggerServices) = staggerServices := by
    decide
  have hsched : staggerWorld.toSchedule staggerServices =
      [⟨"a", 60, 0, 3, 0, none, none, "queue", "a-in", none⟩] ++
        ⟨"a", 60, 0, 3, 0, none, none, "disk", "a-in", none⟩ ::
          [⟨"b", 60, 0, 3, 0, none, none, "queue", "b-in", none⟩,
            ⟨"c", 60, 0, 3, 0, none, none, "queue", "c-in", none⟩] := by
    rw [toSchedule, hchanged]
    simp [staggerServices, List.mergeSort, List.MergeSort.Internal.splitInTwo]
  have hnone : (staggerWorld.reconcile staggerServices).2 = none := by
    rw [reconcile_eq_scheduleAll, scheduleAll_snd_eq, serves_dropGone, delayIncrementSecs_dropGone,
      hsched]
    decide
  obtain ⟨-, hloops, hunserved⟩ := reconcile_staggers_in_id_order hw hnone
  obtain ⟨hheld, -, hmade⟩ := hunserved _ _ _ hsched rfl (by decide)
  -- the first controller the update made is the one "a" on "queue" started
  have hfirst : ((staggerWorld.reconcile staggerServices).1.controllers[0]?).map
      (·.descriptor.id) = some "a" := by
    rw [reconcile_eq_placeAll hnone, hsched]
    decide
  obtain ⟨c, hc, hid⟩ := Option.map_eq_some_iff.mp hfirst
  rw [hsched] at hloops
  exact ⟨hw, hnone, hloops.trans rfl, hheld, c, hc, hid, hmade 0 c (by decide) hc hid⟩

end World

end ScaleControl
