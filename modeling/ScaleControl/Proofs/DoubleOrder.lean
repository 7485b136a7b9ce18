import Mathlib
/-!
# The order of doubles

Doubles compare as IEEE 754 says: by value, with a NaN unordered against everything and the
two zeros equal. On the unpacked form of a double (`Float.Model.UnpackedFloat`) the comparison
is lexicographic: first the class (negative infinity, negative, zero, positive, positive
infinity), then, between finite doubles of one sign, the exponent and the mantissa, read
backwards for negative ones. `Double.rank` gives each unpacked double its place in that order,
and `Double.le_iff_rank` says that comparing doubles is comparing places; transitivity of `≤`
on doubles follows, and likewise, through `Double.lt_iff_rank`, transitivity and
irreflexivity of `<`.
-/
namespace ScaleControl.Double

open Float.Model UnpackedFloat

/-- The place of an unpacked double in the order: its class, then its exponent and mantissa,
both negated for a negative double. A NaN has no place. -/
def rank : UnpackedFloat → Option (Nat × Int × Int)
  | .notANumber => none
  | .infinity .negative => some (0, 0, 0)
  | .finite .negative m e _ => some (1, -e, -m)
  | .zero _ => some (2, 0, 0)
  | .finite .positive m e _ => some (3, e, m)
  | .infinity .positive => some (4, 0, 0)

/-- Place `a` comes no later than place `b`, lexicographically. -/
def PlaceLE (a b : Nat × Int × Int) : Prop :=
  a.1 < b.1 ∨ a.1 = b.1 ∧ (a.2.1 < b.2.1 ∨ a.2.1 = b.2.1 ∧ a.2.2 ≤ b.2.2)

theorem PlaceLE.trans {a b c : Nat × Int × Int} (h₁ : PlaceLE a b) (h₂ : PlaceLE b c) :
    PlaceLE a c := by
  unfold PlaceLE at *
  omega

theorem compare_sign (s t : Sign) :
    compare s t =
      match s, t with
      | .negative, .positive => .lt
      | .positive, .negative => .gt
      | _, _ => .eq := by
  cases s <;> cases t <;> rfl

/-- Exponents first, then mantissas. -/
theorem isLE_lex (e f : Int) (m n : Nat) :
    ((compare e f).then (compare m n)).isLE = true ↔ e < f ∨ e = f ∧ m ≤ n := by
  rcases lt_trichotomy e f with h | rfl | h
  · simp [compare_lt_iff_lt.mpr h, h]
  · simp [Ordering.isLE_iff_ne_gt, compare_gt_iff_gt]
  · simp [compare_gt_iff_gt.mpr h, h.ne', not_lt.mpr h.le]

/-- Exponents first, then mantissas, both the other way round. -/
theorem isGE_lex (e f : Int) (m n : Nat) :
    ((compare e f).then (compare m n)).isGE = true ↔ f < e ∨ e = f ∧ n ≤ m := by
  rcases lt_trichotomy e f with h | rfl | h
  · simp [compare_lt_iff_lt.mpr h, h.ne, not_lt.mpr h.le]
  · simp [Ordering.isGE_iff_ne_lt, compare_lt_iff_lt]
  · simp [compare_gt_iff_gt.mpr h, h]

/-- Comparing unpacked doubles is comparing their places. -/
theorem le_iff_rank (u v : UnpackedFloat) :
    u.le v = true ↔ ∃ a b, rank u = some a ∧ rank v = some b ∧ PlaceLE a b := by
  -- the comparison is given class against class: every pair of classes is one case
  rcases u with ⟨_ | _⟩ | _ | ⟨_ | _⟩ | ⟨_ | _, m, e, hm⟩ <;>
    rcases v with ⟨_ | _⟩ | _ | ⟨_ | _⟩ | ⟨_ | _, n, f, hn⟩ <;>
    simp [UnpackedFloat.le, UnpackedFloat.compare, rank, PlaceLE, isLE_lex, isGE_lex, compare_sign]

/-- `≤` on doubles is `≤` on their unpacked forms. -/
theorem le_iff_unpack (a b : Float) : a ≤ b ↔ a.toModel.unpack.le b.toModel.unpack = true := by
  show decide (a.toModel ≤ b.toModel) = true ↔ _
  rw [decide_eq_true_iff]
  rfl

/-- `≤` on doubles is transitive: a NaN, below and above nothing, links no two doubles. -/
theorem le_trans {a b c : Float} (h₁ : a ≤ b) (h₂ : b ≤ c) : a ≤ c := by
  rw [le_iff_unpack, le_iff_rank] at *
  obtain ⟨x, y, hx, hy, hxy⟩ := h₁
  obtain ⟨y', z, hy', hz, hyz⟩ := h₂
  obtain rfl : y = y' := Option.some.inj (hy.symm.trans hy')
  exact ⟨x, z, hx, hz, hxy.trans hyz⟩

example : ¬ ((0.0 / 0.0 : Float) ≤ 0.0) ∧ (-0.0 : Float) ≤ 0.0 := by decide

/-! ### The strict order -/

/-- Place `a` comes before place `b`, lexicographically. -/
def PlaceLT (a b : Nat × Int × Int) : Prop :=
  a.1 < b.1 ∨ a.1 = b.1 ∧ (a.2.1 < b.2.1 ∨ a.2.1 = b.2.1 ∧ a.2.2 < b.2.2)

theorem PlaceLT.trans {a b c : Nat × Int × Int} (h₁ : PlaceLT a b) (h₂ : PlaceLT b c) :
    PlaceLT a c := by
  unfold PlaceLT at *
  omega

/-- Exponents first, then mantissas: strictly below. -/
theorem then_eq_lt_iff (e f : Int) (m n : Nat) :
    (compare e f).then (compare m n) = .lt ↔ e < f ∨ e = f ∧ m < n := by
  rcases lt_trichotomy e f with h | rfl | h
  · simp [compare_lt_iff_lt.mpr h, h]
  · simp [compare_lt_iff_lt]
  · simp [compare_gt_iff_gt.mpr h, h.ne', not_lt.mpr h.le]

/-- Exponents first, then mantissas: strictly above. -/
theorem then_eq_gt_iff (e f : Int) (m n : Nat) :
    (compare e f).then (compare m n) = .gt ↔ f < e ∨ e = f ∧ n < m := by
  rcases lt_trichotomy e f with h | rfl | h
  · simp [compare_lt_iff_lt.mpr h, h.ne, not_lt.mpr h.le]
  · simp [compare_gt_iff_gt]
  · simp [compare_gt_iff_gt.mpr h, h]

/-- Comparing unpacked doubles strictly is comparing their places strictly. -/
theorem lt_iff_rank (u v : UnpackedFloat) :
    u.lt v = true ↔ ∃ a b, rank u = some a ∧ rank v = some b ∧ PlaceLT a b := by
  -- as for `≤`, every pair of classes is one case
  rcases u with ⟨_ | _⟩ | _ | ⟨_ | _⟩ | ⟨_ | _, m, e, hm⟩ <;>
    rcases v with ⟨_ | _⟩ | _ | ⟨_ | _⟩ | ⟨_ | _, n, f, hn⟩ <;>
    simp [UnpackedFloat.lt, UnpackedFloat.compare, rank, PlaceLT, then_eq_lt_iff, then_eq_gt_iff,
      compare_sign]

/-- `<` on doubles is `<` on their unpacked forms. -/
theorem lt_iff_unpack (a b : Float) : a < b ↔ a.toModel.unpack.lt b.toModel.unpack = true := by
  show decide (a.toModel < b.toModel) = true ↔ _
  rw [decide_eq_true_iff]
  rfl

/-- No double is below itself, not even a NaN. -/
theorem lt_irrefl (a : Float) : ¬ a < a := by
  rw [lt_iff_unpack, lt_iff_rank]
  rintro ⟨x, y, hx, hy, hxy⟩
  obtain rfl : x = y := Option.some.inj (hx.symm.trans hy)
  unfold PlaceLT at hxy
  omega

/-- `<` on doubles is transitive. -/
theorem lt_trans {a b c : Float} (h₁ : a < b) (h₂ : b < c) : a < c := by
  rw [lt_iff_unpack, lt_iff_rank] at *
  obtain ⟨x, y, hx, hy, hxy⟩ := h₁
  obtain ⟨y', z, hy', hz, hyz⟩ := h₂
  obtain rfl : y = y' := Option.some.inj (hy.symm.trans hy')
  exact ⟨x, z, hx, hz, hxy.trans hyz⟩

end ScaleControl.Double
