import Mathlib
import ScaleControl.Keyed
/-!
# Lookups in keyed lists

How `get?` reads a keyed list after the list is changed at a key. A lookup finds the first
entry under its key, so these hold whether or not a key occurs more than once. Puts and
erases keep the keys distinct (`nodup_keys_put`, `nodup_keys_erase`), and with distinct keys
an entry is in the list exactly when a lookup finds it (`get?_eq_some_iff_mem`).
-/
namespace ScaleControl.Keyed

variable {α : Type}

@[simp] theorem get?_nil (k : String) : Keyed.get? ([] : Keyed α) k = none := rfl

@[simp] theorem get?_cons (k₀ : String) (v : α) (t : Keyed α) (k : String) :
    Keyed.get? ((k₀, v) :: t) k = if k₀ = k then some v else t.get? k := by
  by_cases h : k₀ = k <;> simp [get?, h]

@[simp] theorem modify_nil (k : String) (f : α → α) : Keyed.modify ([] : Keyed α) k f = [] := rfl

@[simp] theorem modify_cons (k₀ : String) (v : α) (t : Keyed α) (k : String) (f : α → α) :
    Keyed.modify ((k₀, v) :: t) k f = (k₀, if k₀ = k then f v else v) :: t.modify k f := by
  by_cases h : k₀ = k <;> simp [modify, h]

/-- Changing the value under one key changes what a lookup of that key finds, and nothing
else. -/
theorem get?_modify (t : Keyed α) (k k' : String) (f : α → α) :
    (t.modify k f).get? k' = if k' = k then (t.get? k').map f else t.get? k' := by
  induction t with
  | nil => simp
  | cons e t ih =>
    obtain ⟨k₀, v⟩ := e
    by_cases h : k₀ = k'
    · subst h
      by_cases hk : k₀ = k <;> simp [hk]
    · simp only [modify_cons, get?_cons, h, if_false, ih]

@[simp] theorem contains_nil (k : String) : Keyed.contains ([] : Keyed α) k = false := rfl

@[simp] theorem contains_cons (k₀ : String) (v : α) (t : Keyed α) (k : String) :
    Keyed.contains ((k₀, v) :: t) k = (k₀ == k || t.contains k) := rfl

/-- A key has a value exactly when a lookup of it finds one. -/
theorem contains_eq_isSome (t : Keyed α) (k : String) : t.contains k = (t.get? k).isSome := by
  induction t with
  | nil => rfl
  | cons e t ih =>
    obtain ⟨k₀, v⟩ := e
    by_cases h : k₀ = k <;> simp [h, ih]

theorem get?_append_of_contains_eq_false {t : Keyed α} {k : String} (h : t.contains k = false)
    (v : α) : Keyed.get? (t ++ [(k, v)]) k = some v := by
  induction t with
  | nil => simp
  | cons e t ih =>
    obtain ⟨k₀, v₀⟩ := e
    simp only [contains_cons, Bool.or_eq_false_iff, beq_eq_false_iff_ne] at h
    simp [h.1, ih h.2]

/-- After a put, a lookup of its key finds the value put. -/
theorem get?_put_self (t : Keyed α) (k : String) (v : α) : (t.put k v).get? k = some v := by
  unfold put
  split
  · -- in place: the value put replaces the first one under the key
    rename_i hcontains
    change (t.modify k fun _ => v).get? k = some v
    rw [contains_eq_isSome] at hcontains
    obtain ⟨v₀, hv₀⟩ := Option.isSome_iff_exists.mp hcontains
    rw [get?_modify, if_pos rfl, hv₀]
    rfl
  · rename_i hcontains
    exact get?_append_of_contains_eq_false (Bool.eq_false_iff.mpr hcontains) v

theorem get?_append_of_ne {t : Keyed α} {k k' : String} (h : k ≠ k') (v : α) :
    Keyed.get? (t ++ [(k, v)]) k' = t.get? k' := by
  induction t with
  | nil => simp [h]
  | cons e t ih =>
    obtain ⟨k₀, v₀⟩ := e
    simp [ih]

/-- A put changes what a lookup of its key finds, and nothing else. -/
theorem get?_put (t : Keyed α) (k : String) (v : α) (k' : String) :
    (t.put k v).get? k' = if k' = k then some v else t.get? k' := by
  by_cases hk : k' = k
  · subst hk
    rw [if_pos rfl]
    exact get?_put_self t k' v
  · rw [if_neg hk]
    unfold put
    split
    · change (t.modify k fun _ => v).get? k' = t.get? k'
      rw [get?_modify, if_neg hk]
    · exact get?_append_of_ne (Ne.symm hk) v

@[simp] theorem erase_nil (k : String) : Keyed.erase ([] : Keyed α) k = [] := rfl

@[simp] theorem erase_cons (k₀ : String) (v : α) (t : Keyed α) (k : String) :
    Keyed.erase ((k₀, v) :: t) k = if k₀ = k then t.erase k else (k₀, v) :: t.erase k := by
  by_cases h : k₀ = k <;> simp [erase, h]

/-- An erased key has no value; every other key keeps its own. -/
theorem get?_erase (t : Keyed α) (k k' : String) :
    (t.erase k).get? k' = if k' = k then none else t.get? k' := by
  induction t with
  | nil => simp
  | cons e t ih =>
    obtain ⟨k₀, v⟩ := e
    rw [erase_cons]
    by_cases h₀ : k₀ = k
    · -- the head is dropped: it was under the erased key
      rw [if_pos h₀, ih, get?_cons]
      by_cases h : k' = k
      · rw [if_pos h, if_pos h]
      · rw [if_neg h, if_neg h, if_neg fun (e : k₀ = k') => h (e ▸ h₀)]
    · rw [if_neg h₀, get?_cons, get?_cons, ih]
      by_cases h : k₀ = k'
      · subst h
        simp [h₀]
      · simp [h]

/-- The keys of a keyed list are those a lookup finds a value for. -/
theorem mem_keys_iff (t : Keyed α) (k : String) : k ∈ t.map (·.1) ↔ (t.get? k).isSome := by
  rw [← contains_eq_isSome]
  simp [contains, List.any_eq_true]

/-- A key that is not among the keys has no value. -/
theorem get?_eq_none_of_not_mem {t : Keyed α} {k : String} (h : k ∉ t.map (·.1)) :
    t.get? k = none := by
  rw [← Option.not_isSome_iff_eq_none, ← mem_keys_iff]
  exact h

theorem keys_put_of_contains {t : Keyed α} {k : String} (h : t.contains k = true) (v : α) :
    (t.put k v).map (·.1) = t.map (·.1) := by
  unfold put
  rw [if_pos h, List.map_map]
  apply List.map_congr_left
  intro e _
  by_cases hk : e.1 = k <;> simp [hk]

/-- Putting a value keeps the keys distinct. -/
theorem nodup_keys_put {t : Keyed α} (h : (t.map (·.1)).Nodup) (k : String) (v : α) :
    ((t.put k v).map (·.1)).Nodup := by
  by_cases hc : t.contains k = true
  · rw [keys_put_of_contains hc]
    exact h
  · unfold put
    rw [if_neg hc, List.map_append, List.map_singleton]
    refine List.Nodup.append h (List.nodup_singleton _) fun x hx hx' => ?_
    rw [List.mem_singleton] at hx'
    subst hx'
    exact hc (by rw [contains_eq_isSome]; exact (mem_keys_iff t x).mp hx)

theorem nodup_keys_erase {t : Keyed α} (h : (t.map (·.1)).Nodup) (k : String) :
    ((t.erase k).map (·.1)).Nodup :=
  List.Nodup.sublist ((List.filter_sublist).map _) h

/-- With distinct keys, an entry is in the list exactly when a lookup finds it. -/
theorem get?_eq_some_iff_mem {t : Keyed α} (h : (t.map (·.1)).Nodup) {k : String} {v : α} :
    t.get? k = some v ↔ (k, v) ∈ t := by
  induction t with
  | nil => simp
  | cons e t ih =>
    obtain ⟨k₀, v₀⟩ := e
    rw [List.map_cons, List.nodup_cons] at h
    rw [get?_cons, List.mem_cons]
    by_cases hk : k₀ = k
    · subst hk
      -- the first key appears nowhere later
      have hnot : ∀ v', (k₀, v') ∉ t := fun v' hv => h.1 (List.mem_map.mpr ⟨(k₀, v'), hv, rfl⟩)
      simp [hnot, eq_comm]
    · simp [hk, Ne.symm hk, ih h.2]

end ScaleControl.Keyed
