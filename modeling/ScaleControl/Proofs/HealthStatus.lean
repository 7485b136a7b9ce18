import Mathlib
import ScaleControl.Health
import ScaleControl.Proofs.Keyed
/-!
# The overall status is the worst component's

The overall status comes from one scan of the components that stops at the first unhealthy
one and otherwise notes in a flag whether one was degraded. The scan depends only on which
statuses occur (`scanStatus_eq`): unhealthy if some component is, else degraded if some
component is (or the flag was set), else healthy. So the overall status is the greatest
status of the components under healthy ≤ degraded ≤ unhealthy, healthy when there are none,
and the order in which the components are scanned does not matter.

A registry's health starts from the pushed statuses and puts each reporter's fresh answer in
place of a pushed status of the same name. Every registry its operations build has one
reporter per name (`Built.nodup_reporters`), so the health of a name is its reporter's
answer if it has a reporter, else its pushed status. Readiness asks for the ready flag and an
overall status that is not unhealthy (`health_status_is_worst`).
-/
namespace ScaleControl

namespace Status

theorem le_iff_rank {a b : Status} : a ≤ b ↔ a.rank ≤ b.rank := Iff.rfl

end Status

section Scan

variable (l : List (String × ComponentHealth))

/-- The scan answers unhealthy when some component is unhealthy; otherwise degraded when the
flag is set or some component is degraded, else healthy. -/
theorem scanStatus_eq (degraded : Bool) :
    scanStatus l degraded =
      if ∃ c ∈ l, c.2.status = .unhealthy then .unhealthy
      else if degraded = true ∨ ∃ c ∈ l, c.2.status = .degraded then .degraded
      else .healthy := by
  -- induction along the scan, from any flag: the flag carries what the components before
  -- the rest showed
  induction l generalizing degraded with
  | nil => cases degraded <;> simp [scanStatus]
  | cons c rest ih =>
    obtain ⟨name, h⟩ := c
    -- split each condition into the first component and the rest
    simp only [scanStatus, List.mem_cons, or_and_right, exists_or, exists_eq_left]
    cases h.status <;> simp only [ih, reduceCtorEq, false_or, true_or, or_true, if_true]

/-- The overall status depends only on which statuses occur among the components. -/
theorem overallStatus_eq :
    overallStatus l =
      if ∃ c ∈ l, c.2.status = .unhealthy then .unhealthy
      else if ∃ c ∈ l, c.2.status = .degraded then .degraded
      else .healthy := by
  rw [overallStatus, scanStatus_eq]
  simp only [Bool.false_eq_true, false_or]

/-- No component is worse than the overall status. -/
theorem status_le_overallStatus {c : String × ComponentHealth} (hc : c ∈ l) :
    c.2.status ≤ overallStatus l := by
  rw [Status.le_iff_rank, overallStatus_eq]
  by_cases hu : ∃ c ∈ l, c.2.status = .unhealthy
  · rw [if_pos hu]
    cases c.2.status <;> decide
  · rw [if_neg hu]
    have hcu : c.2.status ≠ .unhealthy := fun h => hu ⟨c, hc, h⟩
    by_cases hd : ∃ c ∈ l, c.2.status = .degraded
    · rw [if_pos hd]
      cases hs : c.2.status <;> simp_all [Status.rank]
    · rw [if_neg hd]
      have hcd : c.2.status ≠ .degraded := fun h => hd ⟨c, hc, h⟩
      cases hs : c.2.status <;> simp_all [Status.rank]

/-- The overall status is some component's status, or healthy. -/
theorem overallStatus_attained :
    overallStatus l = .healthy ∨ ∃ c ∈ l, c.2.status = overallStatus l := by
  rw [overallStatus_eq]
  by_cases hu : ∃ c ∈ l, c.2.status = .unhealthy
  · rw [if_pos hu]
    exact .inr hu
  · rw [if_neg hu]
    by_cases hd : ∃ c ∈ l, c.2.status = .degraded
    · rw [if_pos hd]
      exact .inr hd
    · rw [if_neg hd]
      exact .inl rfl

/-- Components scanned in another order give the same overall status. -/
theorem overallStatus_perm {l' : List (String × ComponentHealth)} (h : l.Perm l') :
    overallStatus l = overallStatus l' := by
  simp only [overallStatus_eq, h.mem_iff]

end Scan

namespace HealthRegistry

variable {ρ : Type}

/-- The registries that the registry's operations build from an empty one. -/
inductive Built : HealthRegistry ρ → Prop
  | empty : Built {}
  | register {r : HealthRegistry ρ} (name : String) : Built r → Built (r.register name)
  | update {r : HealthRegistry ρ} (name : String) (h : ComponentHealth) :
      Built r → Built (r.update name h)
  | addReporter {r : HealthRegistry ρ} (name : String) (rep : ρ) :
      Built r → Built (r.addReporter name rep)
  | setReady {r : HealthRegistry ρ} (ready : Bool) : Built r → Built { r with ready }

/-- A built registry has one reporter per name: registering a reporter replaces an earlier
one of the same name. -/
theorem Built.nodup_reporters {r : HealthRegistry ρ} (h : r.Built) :
    (r.reporters.map (·.1)).Nodup := by
  induction h with
  | empty => exact List.nodup_nil
  | register _ _ ih => exact ih
  | update _ _ _ ih => exact ih
  | addReporter name rep _ ih => exact Keyed.nodup_keys_put ih name rep
  | setReady _ _ ih => exact ih

/-- Answering reporters with distinct names in turn over `acc`: a name gets its reporter's
answer if it has a reporter, and keeps its entry in `acc` otherwise. -/
theorem get?_foldl_put (answer : ρ → ComponentHealth) {rs : Keyed ρ}
    (hrs : (rs.map (·.1)).Nodup) (acc : Keyed ComponentHealth) (n : String) :
    (rs.foldl (fun (acc : Keyed ComponentHealth) (name, rep) => acc.put name (answer rep))
        acc).get? n = ((rs.get? n).map answer).or (acc.get? n) := by
  -- induction on the reporters, from any entries answered before them
  induction rs generalizing acc with
  | nil => simp
  | cons e rs ih =>
    obtain ⟨k, rep⟩ := e
    rw [List.map_cons, List.nodup_cons] at hrs
    rw [List.foldl_cons, ih hrs.2, Keyed.get?_put, Keyed.get?_cons]
    by_cases hk : k = n
    · -- the reporter's name appears nowhere later
      subst hk
      simp [Keyed.get?_eq_none_of_not_mem hrs.1]
    · simp [hk, Ne.symm hk]

/-- The health of a name in a built registry: its reporter's answer if it has a reporter,
else its pushed status. -/
theorem get?_health {r : HealthRegistry ρ} (h : r.Built) (answer : ρ → ComponentHealth)
    (n : String) :
    Keyed.get? (r.health answer) n = ((r.reporters.get? n).map answer).or (r.components.get? n) :=
  get?_foldl_put answer h.nodup_reporters r.components n

/-- Ready exactly when the flag is set and the overall health is not unhealthy. -/
theorem readiness_fst_eq_true_iff (r : HealthRegistry ρ) (answer : ρ → ComponentHealth) :
    (r.readiness answer).1 = true ↔
      r.ready = true ∧ overallStatus (r.health answer) ≠ .unhealthy := by
  unfold readiness
  cases r.ready <;> by_cases hu : overallStatus (r.health answer) = .unhealthy <;> simp [hu]

end HealthRegistry

/-- The overall status of any components is the greatest of their statuses under healthy ≤
degraded ≤ unhealthy, healthy when there are none, so the order of the components does not
change it. In a registry built by its operations, each reporter's fresh answer takes the
place of a pushed status of the same name, and the registry is ready exactly when its flag is
set and the overall health is not unhealthy. -/
theorem health_status_is_worst :
    (∀ comps : List (String × ComponentHealth),
      (∀ c ∈ comps, c.2.status ≤ overallStatus comps) ∧
        (overallStatus comps = .healthy ∨ ∃ c ∈ comps, c.2.status = overallStatus comps)) ∧
    (∀ comps comps' : List (String × ComponentHealth),
      comps.Perm comps' → overallStatus comps = overallStatus comps') ∧
    (∀ {ρ : Type} (r : HealthRegistry ρ), r.Built → ∀ (answer : ρ → ComponentHealth) (n : String),
      Keyed.get? (r.health answer) n = ((r.reporters.get? n).map answer).or (r.components.get? n)) ∧
    (∀ {ρ : Type} (r : HealthRegistry ρ) (answer : ρ → ComponentHealth),
      (r.readiness answer).1 = true ↔
        r.ready = true ∧ overallStatus (r.health answer) ≠ .unhealthy) := by
  refine ⟨fun comps => ⟨?_, overallStatus_attained comps⟩, ?_, ?_, ?_⟩
  · intro c hc
    exact status_le_overallStatus comps hc
  · intro comps comps' h
    exact overallStatus_perm comps h
  · intro ρ r h answer n
    exact HealthRegistry.get?_health h answer n
  · intro ρ r answer
    exact HealthRegistry.readiness_fst_eq_true_iff r answer

/-- A ready registry with a pushed healthy source and a scheduler reporter that answers
unhealthy: the health holds the scheduler's answer, and its status, scanned in either order,
is unhealthy. -/
theorem unhealthy_reporter_polled :
    let r : HealthRegistry ComponentHealth :=
      { (({} : HealthRegistry ComponentHealth).register "source").addReporter "scheduler"
          ⟨.unhealthy, some "down"⟩ with ready := true }
    r.Built ∧ Keyed.get? (r.health id) "scheduler" = some ⟨.unhealthy, some "down"⟩ ∧
      overallStatus (r.health id).reverse = .unhealthy := by
  intro r
  have hbuilt : r.Built := .setReady true (.addReporter _ _ (.register _ .empty))
  refine ⟨hbuilt, (health_status_is_worst.2.2.1 r hbuilt id "scheduler").trans rfl, ?_⟩
  rw [health_status_is_worst.2.1 _ _ (List.reverse_perm _)]
  rfl

end ScaleControl
