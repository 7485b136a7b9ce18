import Mathlib
import ScaleControl.Scenario.Calls
import ScaleControl.Proofs.DoubleOrder
/-!
# The donor a governor chooses

When a scale-up finds no room, the governor is asked to name a donor, another service that
can give up an instance. `Governor.pickDonor` looks at the services that qualify
(`Governor.Qualifies`): another service, registered with a minimum below its recorded total,
whose relative difference is strictly below the requester's. Among them it keeps the first
with the least relative difference. So the donor qualifies and no service that qualifies is
further below its desired count (`Governor.pickDonor_eq_some`); there is no donor exactly
when the requester has no record or nothing qualifies (`Governor.pickDonor_eq_none_iff`).

Relative differences are doubles, and the search compares them with `<` only: an entry
replaces the best so far when it is strictly below it. Transitivity and irreflexivity of `<`
on doubles are all the search needs, so all this holds for every double, a NaN included.

The world answers a request for a donor with the controller that listens for the service the
governor chose (`World.donor_eq_some_iff`).
-/
namespace ScaleControl

namespace Governor

variable {η : Type} (g : Governor η)

/-- Service `o`, recorded as `r`, may give up an instance for `id`, whose relative difference
is `mine`: it is another service, further below its desired count than the requester, and
registered with a minimum below its recorded total. -/
def Qualifies (id : String) (mine : Float) (o : String) (r : Record) : Prop :=
  o ≠ id ∧ r.relativeDifference < mine ∧
    ∃ d, g.configs.get? o = some d ∧ d.minInstances < r.snapshot.total

/-- `o` is a donor for `id`: a recorded service that qualifies, and no service that qualifies
has a smaller relative difference. -/
def DonorFor (id o : String) : Prop :=
  ∃ mine r, g.relativeDifference id = some mine ∧ (o, r) ∈ g.records ∧ g.Qualifies id mine o r ∧
    ∀ o' r', (o', r') ∈ g.records → g.Qualifies id mine o' r' →
      ¬ r'.relativeDifference < r.relativeDifference

/-- The records of the services that may give up an instance for `id`, whose relative
difference is `mine`. -/
def candidates (id : String) (mine : Float) : Keyed Record :=
  g.records.filter fun (other, r) =>
    other != id && r.relativeDifference < mine &&
      match g.configs.get? other with
      | some d => d.minInstances < r.snapshot.total
      | none => false

/-- One step of the search for the least relative difference: an entry strictly below the
best so far replaces it. -/
def leastStep : Option (String × Float) → String × Record → Option (String × Float) :=
  fun acc (other, r) =>
    match acc with
    | some (_, q) => if r.relativeDifference < q then some (other, r.relativeDifference) else acc
    | none => some (other, r.relativeDifference)

/-- The donor is the end of the search over the candidates. -/
theorem pickDonor_eq (id : String) :
    g.pickDonor id = (g.relativeDifference id).bind fun mine =>
      ((g.candidates id mine).foldl leastStep none).map (·.1) := by
  unfold pickDonor
  cases g.relativeDifference id <;> rfl

theorem mem_candidates {id : String} {mine : Float} {o : String} {r : Record} :
    (o, r) ∈ g.candidates id mine ↔ (o, r) ∈ g.records ∧ g.Qualifies id mine o r := by
  unfold candidates Qualifies
  rw [List.mem_filter]
  cases hcfg : g.configs.get? o <;> simp [hcfg, and_assoc]

/-! ### The search for the least relative difference -/

/-- A step takes the entry when it is strictly below the best so far, or when there is none
yet; otherwise it keeps the best so far. -/
theorem leastStep_cases (acc : Option (String × Float)) (e : String × Record) :
    (leastStep acc e = some (e.1, e.2.relativeDifference) ∧
        ∀ p, acc = some p → e.2.relativeDifference < p.2) ∨
      ∃ p, acc = some p ∧ leastStep acc e = acc ∧ ¬ e.2.relativeDifference < p.2 := by
  obtain ⟨o, r⟩ := e
  rcases acc with _ | ⟨o₀, q₀⟩
  · exact .inl ⟨rfl, fun p h => (Option.some_ne_none p h.symm).elim⟩
  · by_cases hlt : r.relativeDifference < q₀
    · refine .inl ⟨?_, fun p hp => ?_⟩
      · simp only [leastStep, if_pos hlt]
      · obtain rfl := Option.some.inj hp
        exact hlt
    · exact .inr ⟨(o₀, q₀), rfl, by simp only [leastStep, if_neg hlt], hlt⟩

theorem foldl_leastStep_isSome :
    ∀ (l : Keyed Record) (p : String × Float), (l.foldl leastStep (some p)).isSome
  | [], _ => rfl
  | e :: l, p => by
    rw [List.foldl_cons]
    rcases leastStep_cases (some p) e with ⟨hstep, -⟩ | ⟨_, -, hstep, -⟩
    · rw [hstep]
      exact foldl_leastStep_isSome l _
    · rw [hstep]
      exact foldl_leastStep_isSome l p

/-- The search from nothing ends with nothing exactly when there is nothing to search. -/
theorem foldl_leastStep_eq_none {l : Keyed Record} : l.foldl leastStep none = none ↔ l = [] := by
  cases l with
  | nil => exact iff_of_true rfl rfl
  | cons e l =>
    refine iff_of_false (fun h => ?_) (List.cons_ne_nil _ _)
    have hsome := foldl_leastStep_isSome l (e.1, e.2.relativeDifference)
    rw [List.foldl_cons, show leastStep none e = some (e.1, e.2.relativeDifference) from rfl] at h
    rw [h] at hsome
    cases hsome

/-- Where a search ends is where it started, or one step further down. -/
theorem eq_or_lt_of_taken {q k p : Float} (hq : q = k ∨ q < k) (hk : k < p) : q = p ∨ q < p := by
  rcases hq with rfl | hq
  · exact .inr hk
  · exact .inr (Double.lt_trans hq hk)

/-- An entry not strictly below the best so far is not strictly below where the search ends. -/
theorem not_lt_of_eq_or_lt {k q p : Float} (hk : ¬ k < p) (hq : q = p ∨ q < p) : ¬ k < q := by
  rcases hq with rfl | hq
  · exact hk
  · exact fun hkq => hk (Double.lt_trans hkq hq)

/-- The search ends at an entry of the list, or where it started; no entry of the list is
strictly below where it ends, and it ends at or below where it started. -/
theorem foldl_leastStep_spec (l : Keyed Record) :
    ∀ (acc : Option (String × Float)) {o : String} {q : Float},
      l.foldl leastStep acc = some (o, q) →
        (acc = some (o, q) ∨ ∃ r, (o, r) ∈ l ∧ q = r.relativeDifference) ∧
        (∀ e ∈ l, ¬ e.2.relativeDifference < q) ∧
        ∀ p, acc = some p → q = p.2 ∨ q < p.2 := by
  induction l with
  | nil =>
    intro acc o q h
    refine ⟨.inl h, fun _ he => (List.not_mem_nil he).elim, fun p hp => .inl ?_⟩
    rw [List.foldl_nil, hp] at h
    rw [Option.some.inj h]
  | cons e l ih =>
    intro acc o q h
    rw [List.foldl_cons] at h
    obtain ⟨hfrom, hleast, hbelow⟩ := ih _ h
    rcases leastStep_cases acc e with ⟨hstep, hlt⟩ | ⟨p₀, rfl, hstep, hkeep⟩
    · -- the entry is taken: the search ends at or below it
      have hq := hbelow _ hstep
      refine ⟨?_, fun e' he' => ?_, fun p hp => eq_or_lt_of_taken hq (hlt p hp)⟩
      · rcases hfrom with hend | ⟨r, hr, hqr⟩
        · rw [hstep] at hend
          obtain ⟨rfl, rfl⟩ := Prod.mk.inj (Option.some.inj hend)
          exact .inr ⟨e.2, List.mem_cons_self .., rfl⟩
        · exact .inr ⟨r, List.mem_cons_of_mem _ hr, hqr⟩
      · rcases List.mem_cons.mp he' with rfl | he'
        · exact not_lt_of_eq_or_lt (Double.lt_irrefl _) hq
        · exact hleast e' he'
    · -- the entry is passed over: the search goes on from where it was
      rw [hstep] at hfrom hbelow
      have hq := hbelow p₀ rfl
      refine ⟨?_, fun e' he' => ?_, fun p hp => ?_⟩
      · rcases hfrom with hend | ⟨r, hr, hqr⟩
        · exact .inl hend
        · exact .inr ⟨r, List.mem_cons_of_mem _ hr, hqr⟩
      · rcases List.mem_cons.mp he' with rfl | he'
        · exact not_lt_of_eq_or_lt hkeep hq
        · exact hleast e' he'
      · rw [← Option.some.inj hp]
        exact hq

/-! ### The donor -/

/-- The donor for `id` qualifies, and no service that qualifies is further below its desired
count. -/
theorem pickDonor_eq_some {id o : String} (h : g.pickDonor id = some o) : g.DonorFor id o := by
  rw [pickDonor_eq] at h
  obtain ⟨mine, hmine, h⟩ := Option.bind_eq_some_iff.mp h
  obtain ⟨⟨o', q⟩, hbest, rfl⟩ := Option.map_eq_some_iff.mp h
  obtain ⟨hfrom, hleast, -⟩ := foldl_leastStep_spec _ none hbest
  obtain ⟨r, hr, rfl⟩ := hfrom.resolve_left fun h => Option.some_ne_none _ h.symm
  obtain ⟨hrec, hq⟩ := g.mem_candidates.mp hr
  exact ⟨mine, r, hmine, hrec, hq, fun o' r' hrec' hq' =>
    hleast (o', r') (g.mem_candidates.mpr ⟨hrec', hq'⟩)⟩

/-- There is no donor for `id` exactly when it has no record, or no service qualifies. -/
theorem pickDonor_eq_none_iff {id : String} :
    g.pickDonor id = none ↔ g.relativeDifference id = none ∨
      ∃ mine, g.relativeDifference id = some mine ∧
        ∀ o r, (o, r) ∈ g.records → ¬ g.Qualifies id mine o r := by
  rw [pickDonor_eq]
  cases g.relativeDifference id with
  | none => simp
  | some mine =>
    simp only [Option.bind_some, Option.map_eq_none_iff, foldl_leastStep_eq_none, reduceCtorEq,
      Option.some.injEq, exists_eq_left', false_or, List.eq_nil_iff_forall_not_mem]
    constructor
    · intro h o r hrec hq
      exact h (o, r) (g.mem_candidates.mpr ⟨hrec, hq⟩)
    · rintro h ⟨o, r⟩ hc
      obtain ⟨hrec, hq⟩ := g.mem_candidates.mp hc
      exact h o r hrec hq

end Governor

namespace World

variable {w : World} {service : String} {d : ControllerRef}

/-- The world's donor for `service` is the controller listening for the service the governor
chose. -/
theorem donor_eq_some_iff : w.donor service = some d ↔
    ∃ o i, w.governor.pickDonor service = some o ∧ w.governor.donors.get? o = some i ∧
      w.controllerRef i = some d := by
  simp only [donor, Option.bind_eq_some_iff, exists_and_left]

/-- The world has no donor for `service` when the governor chooses none, or when no
controller answers for the one it chose. -/
theorem donor_eq_none_iff : w.donor service = none ↔
    w.governor.pickDonor service = none ∨ ∃ o, w.governor.pickDonor service = some o ∧
      (w.governor.donors.get? o).bind w.controllerRef = none := by
  unfold donor
  cases w.governor.pickDonor service <;> simp

end World

end ScaleControl
