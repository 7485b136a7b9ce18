import Mathlib
import ScaleControl.Service
import ScaleControl.Window
import ScaleControl.Proofs.DoubleRounding
/-!
# Sums and means of counts

A 64-bit count read as a double (`wordToDouble`) is zero or at least one. Counts added one by
one (`Window.sum`) stay so, even when the sum overflows to infinity, and the sum is at least one
as soon as one count is (`foldl_add_zeroOrAbove`). A mean of counts divides such a sum by the
number of samples: it is never negative and never a NaN, and it is positive as soon as one count
is (`average_counts`, `Window.mean_counts`). Adding a positive double to a nonnegative one, on
either side, gives a positive double (`add_above`).

The lemmas are stated on unpacked doubles. `Above t u` says that `u` is at least `2^(t-1)`: a
positive finite value of total exponent `t` or more, or positive infinity. Every double from
one up is `Above 1`, and every positive double is `Above (-1073)`, the place of the least
subnormal one.
-/
namespace ScaleControl.Double

open Float.Model UnpackedFloat

/-- An unpacked double from `2^(t-1)` up: a positive finite value of total exponent at least
`t`, or positive infinity. -/
def Above (t : Int) : UnpackedFloat → Prop
  | .finite .positive m e _ => t ≤ totalExponent m e
  | .infinity .positive => True
  | _ => False

/-- An unpacked double that is a zero, of either sign, or `Above t`. -/
def ZeroOrAbove (t : Int) (u : UnpackedFloat) : Prop := (∃ s, u = .zero s) ∨ Above t u

theorem above_cases {t : Int} {u : UnpackedFloat} (h : Above t u) :
    (∃ m e hm, u = .finite .positive m e hm ∧ t ≤ totalExponent m e) ∨ u = .infinity .positive := by
  rcases u with ⟨_ | _⟩ | _ | _ | ⟨_ | _, m, e, hm⟩
  · cases h
  · exact .inr rfl
  · cases h
  · cases h
  · cases h
  · exact .inl ⟨m, e, hm, rfl, h⟩

theorem Above.mono {t t' : Int} (h : t' ≤ t) {u : UnpackedFloat} (hu : Above t u) :
    Above t' u := by
  obtain ⟨m, e, hm, rfl, ht⟩ | rfl := above_cases hu
  · exact Int.le_trans h ht
  · trivial

theorem ZeroOrAbove.mono {t t' : Int} (h : t' ≤ t) {u : UnpackedFloat} :
    ZeroOrAbove t u → ZeroOrAbove t' u
  | .inl hz => .inl hz
  | .inr hu => .inr (hu.mono h)

/-- A canonical value lies no lower than the least subnormal. -/
theorem Canonical.place {m : Nat} {e : Int} (h : Canonical m e) : -1073 ≤ totalExponent m e := by
  unfold Canonical at h
  unfold totalExponent
  omega

/-! ### Packing what a double unpacks to -/

theorem canonical_of_model {x : Float} {s : Sign} {m : Nat} {e : Int} {hm : 0 < m}
    (h : x.toModel.unpack = .finite s m e hm) : Canonical m e ∧ e ≤ 971 :=
  canonical_of_unpack (b := x.toModel.toBits.toBitVec) h

theorem model_unpack_pack_zero (s : Sign) : (Float.Model.pack (.zero s)).unpack = .zero s := by
  cases s <;> rfl

theorem model_unpack_pack_infinity (s : Sign) :
    (Float.Model.pack (.infinity s)).unpack = .infinity s := by
  cases s <;> rfl

/-- Packing the unpacked form of a double gives the double back. -/
theorem unpack_pack_unpack (x : Float) :
    (Float.Model.pack x.toModel.unpack).unpack = x.toModel.unpack := by
  cases hu : x.toModel.unpack with
  | infinity s => exact model_unpack_pack_infinity s
  | notANumber => rfl
  | zero s => exact model_unpack_pack_zero s
  | finite s m e hm =>
    obtain ⟨hc, he⟩ := canonical_of_model hu
    exact unpack_pack_of_le hm hc he

/-- A canonical positive value packs to a double as high as it: itself, or infinity. -/
theorem above_pack {m : Nat} {e t : Int} (hm : 0 < m) (hc : Canonical m e)
    (ht : t ≤ totalExponent m e) : Above t (Float.Model.pack (.finite .positive m e hm)).unpack := by
  show Above t (unpack .binary64 (UnpackedFloat.pack .binary64 _))
  by_cases he : e ≤ 971
  · rw [unpack_pack_of_le hm hc he]
    exact ht
  · rw [unpack_pack_of_lt hm (by omega)]
    trivial

/-- The positive doubles are the ones from the least subnormal up. -/
theorem zero_lt_iff (x : Float) : 0.0 < x ↔ Above (-1073) x.toModel.unpack := by
  have h0 : (0.0 : Float).toModel.unpack = .zero .positive := rfl
  show decide ((0.0 : Float).toModel < x.toModel) = true ↔ _
  rw [decide_eq_true_iff]
  show (0.0 : Float).toModel.unpack.lt x.toModel.unpack = true ↔ _
  rw [h0]
  cases hu : x.toModel.unpack with
  | infinity s => cases s <;> simp [UnpackedFloat.lt, UnpackedFloat.compare, Above]
  | notANumber => simp [UnpackedFloat.lt, UnpackedFloat.compare, Above]
  | zero s => simp [UnpackedFloat.lt, UnpackedFloat.compare, Above]
  | finite s m e hm =>
    have hplace := (canonical_of_model hu).1.place
    cases s <;> simp [UnpackedFloat.lt, UnpackedFloat.compare, Above, hplace]

/-- A positive double is not equal to zero. -/
theorem beq_zero_of_pos {x : Float} (h : 0.0 < x) : (x == 0.0) = false := by
  have h0 : (0.0 : Float).toModel.unpack = .zero .positive := rfl
  show x.toModel.unpack.beq (0.0 : Float).toModel.unpack = false
  rw [h0]
  obtain ⟨m, e, hm, hu, -⟩ | hu := above_cases ((zero_lt_iff x).mp h) <;>
    simp [hu, UnpackedFloat.beq, UnpackedFloat.compare]

/-! ### Sums -/

theorem unpack_add (x y : Float) :
    (x + y).toModel.unpack =
      (Float.Model.pack (add .binary64 x.toModel.unpack y.toModel.unpack)).unpack := rfl

/-- Positive infinity plus a zero or a positive double is positive infinity. -/
theorem add_infinity_left {v : UnpackedFloat} (hv : ZeroOrAbove (-1073) v) :
    add .binary64 (.infinity .positive) v = .infinity .positive := by
  rcases hv with ⟨s, rfl⟩ | hv
  · rfl
  · obtain ⟨m, e, hm, rfl, -⟩ | rfl := above_cases hv <;> rfl

/-- Adding a nonnegative double never lowers a positive one. -/
theorem above_add {x y : Float} {t : Int} (hx : Above t x.toModel.unpack)
    (hy : ZeroOrAbove (-1073) y.toModel.unpack) : Above t (x + y).toModel.unpack := by
  rw [unpack_add]
  obtain ⟨m, e, hm, hu, ht⟩ | hu := above_cases hx
  · rcases hy with ⟨s, hv⟩ | hy
    · -- adding a zero gives the double back
      have hzero : add .binary64 (.finite .positive m e hm) (.zero s) = .finite .positive m e hm :=
        rfl
      rw [hu, hv, hzero, ← hu, unpack_pack_unpack]
      exact hx
    · obtain ⟨n, f, hn, hv, -⟩ | hv := above_cases hy
      · -- two positive finite values: the sum is no lower than either
        obtain ⟨hc₁, -⟩ := canonical_of_model hu
        obtain ⟨hc₂, -⟩ := canonical_of_model hv
        obtain ⟨M, E, h, hsum, hc, hplace⟩ := add_finite_positive hm hn hc₁.1 hc₂.1
        rw [hu, hv, hsum]
        exact above_pack h hc (Int.le_trans ht (Int.le_trans (le_max_left _ _) hplace))
      · have hinf : add .binary64 (.finite .positive m e hm) (.infinity .positive) =
            .infinity .positive := rfl
        rw [hu, hv, hinf, model_unpack_pack_infinity]
        trivial
  · rw [hu, add_infinity_left hy, model_unpack_pack_infinity]
    trivial

/-- Adding a positive double to a zero gives the positive double. -/
theorem zero_add_above {x y : Float} {s : Sign} {t : Int} (hx : x.toModel.unpack = .zero s)
    (hy : Above t y.toModel.unpack) : (x + y).toModel.unpack = y.toModel.unpack := by
  rw [unpack_add, hx]
  obtain ⟨m, e, hm, hv, -⟩ | hv := above_cases hy
  · have hzero : add .binary64 (.zero s) (.finite .positive m e hm) = .finite .positive m e hm :=
      rfl
    rw [hv, hzero, ← hv, unpack_pack_unpack]
  · rw [hv]
    exact model_unpack_pack_infinity .positive

/-- A positive double added to a zero or a positive double gives a positive double. -/
theorem add_above {x y : Float} {t : Int} (ht : -1073 ≤ t) (hx : ZeroOrAbove t x.toModel.unpack)
    (hy : Above t y.toModel.unpack) : Above t (x + y).toModel.unpack := by
  rcases hx with ⟨s, hu⟩ | hx
  · exact (zero_add_above hu hy).symm ▸ hy
  · exact above_add hx (.inr (hy.mono ht))

/-- Zeros and doubles `Above t` are closed under addition. -/
theorem zeroOrAbove_add {x y : Float} {t : Int} (ht : -1073 ≤ t)
    (hx : ZeroOrAbove t x.toModel.unpack) (hy : ZeroOrAbove t y.toModel.unpack) :
    ZeroOrAbove t (x + y).toModel.unpack := by
  rcases hy with ⟨s', hv⟩ | hy
  · rcases hx with ⟨s, hu⟩ | hx
    · -- two zeros add to a zero
      rw [unpack_add, hu, hv]
      show ZeroOrAbove t (Float.Model.pack (if s == s' then .zero s else .zero .positive)).unpack
      split
      · exact .inl ⟨s, model_unpack_pack_zero s⟩
      · exact .inl ⟨.positive, model_unpack_pack_zero .positive⟩
    · exact .inr (above_add hx (.inl ⟨s', hv⟩))
  · exact .inr (add_above ht hx hy)

/-- Adding doubles one by one to a zero or a double `Above t`, each of them a zero or
`Above t`, gives a zero or a double `Above t`; it is `Above t` as soon as the start or one of the
doubles is. -/
theorem foldl_add_zeroOrAbove {t : Int} (ht : -1073 ≤ t) {xs : List Float} :
    ∀ acc : Float, ZeroOrAbove t acc.toModel.unpack →
      (∀ x ∈ xs, ZeroOrAbove t x.toModel.unpack) →
      ZeroOrAbove t (xs.foldl (· + ·) acc).toModel.unpack ∧
        (Above t acc.toModel.unpack ∨ (∃ x ∈ xs, Above t x.toModel.unpack) →
          Above t (xs.foldl (· + ·) acc).toModel.unpack) := by
  -- induction on the doubles still to add, from any partial sum
  induction xs with
  | nil =>
    intro acc hacc _
    simpa using hacc
  | cons x xs ih =>
    intro acc hacc hxs
    have hx := hxs x List.mem_cons_self
    obtain ⟨hsum, hreach⟩ := ih _ (zeroOrAbove_add ht hacc hx)
      (fun y hy => hxs y (List.mem_cons_of_mem x hy))
    refine ⟨hsum, fun h => hreach ?_⟩
    rcases h with hacc' | ⟨y, hy, hy'⟩
    · exact .inl (above_add hacc' (hx.mono ht))
    · rcases List.mem_cons.mp hy with rfl | hy
      · exact .inl (add_above ht hacc hy')
      · exact .inr ⟨y, hy, hy'⟩

/-! ### Words and averages -/

theorem unpack_toFloat (k : UInt64) :
    k.toFloat.toModel.unpack =
      (Float.Model.pack (UnpackedFloat.normalize .binary64 (k.toNat : Int) 0 .positive)).unpack :=
  rfl

/-- A positive word as a double is a canonical positive value whose total exponent is its
leading bit's, or one more when rounding carries: from one to 65. -/
theorem unpack_toFloat_of_pos {k : UInt64} (hk : 0 < k.toNat) :
    ∃ M E h, k.toFloat.toModel.unpack = .finite .positive M E h ∧ Canonical M E ∧
      1 ≤ totalExponent M E ∧ totalExponent M E ≤ 65 := by
  obtain ⟨M, E, h, hr, hc, hlo, hhi⟩ := round_spec .positive hk (e := 0) (by decide)
  have hlog : k.toNat.log2 < 64 := (Nat.log2_lt (by omega)).mpr k.toNat_lt
  unfold totalExponent at hlo hhi
  have hE : E ≤ 971 := by
    unfold Canonical at hc
    omega
  refine ⟨M, E, h, ?_, hc, by unfold totalExponent; omega, by unfold totalExponent; omega⟩
  rw [unpack_toFloat, normalize_of_pos (by omega), Int.toNat_natCast, hr]
  exact unpack_pack_of_le h hc hE

/-- A word as a double is a zero or at least one, and at least one when the word is positive. -/
theorem wordToDouble_counts (n : UInt64) :
    ZeroOrAbove 1 (wordToDouble n).toModel.unpack ∧
      (0 < n.toNat → Above 1 (wordToDouble n).toModel.unpack) := by
  have hpos : 0 < n.toNat → Above 1 (wordToDouble n).toModel.unpack := fun hn => by
    obtain ⟨M, E, h, hu, -, hlo, -⟩ := unpack_toFloat_of_pos hn
    unfold wordToDouble
    rw [hu]
    exact hlo
  refine ⟨?_, hpos⟩
  rcases Nat.eq_zero_or_pos n.toNat with hn | hn
  · -- the zero word is the positive zero
    unfold wordToDouble
    rw [unpack_toFloat, hn]
    exact .inl ⟨.positive, rfl⟩
  · exact .inr (hpos hn)

theorem unpack_div (x y : Float) :
    (x / y).toModel.unpack =
      (Float.Model.pack (div .binary64 x.toModel.unpack y.toModel.unpack)).unpack := rfl

/-- A double from one up divided by a positive word is positive: the quotient's place is at
least `1 - 65`, far above the subnormal range. -/
theorem above_div_word {x : Float} (hx : Above 1 x.toModel.unpack) {k : UInt64}
    (hk : 0 < k.toNat) : Above (-1073) (x / k.toFloat).toModel.unpack := by
  obtain ⟨N, F, hN, hv, hcF, hloF, hhiF⟩ := unpack_toFloat_of_pos hk
  rw [unpack_div, hv]
  obtain ⟨m, e, hm, hu, ht⟩ | hu := above_cases hx
  · obtain ⟨hc, -⟩ := canonical_of_model hu
    -- a dividend from one up is normal, a divisor below `2^65` has exponent at most 12
    have hexp : -1074 ≤ e - F := by
      unfold Canonical at hc hcF
      unfold totalExponent at ht hhiF
      omega
    obtain ⟨Q, G, hQ, hdiv, hcQ⟩ :=
      div_finite .positive .positive hm hN hexp (by omega)
    rw [hu, hdiv]
    exact above_pack hQ hcQ hcQ.place
  · -- infinity over a finite value stays infinity
    have hinf : div .binary64 (.infinity .positive) (.finite .positive N F hN) =
        .infinity .positive := rfl
    rw [hu, hinf, model_unpack_pack_infinity]
    trivial

/-- The sum of counts over their number, as the windows average them: a zero or positive, and
positive as soon as one count is. -/
theorem average_counts (xs : List Float) (hne : xs ≠ []) (hlen : xs.length < 2 ^ 64)
    (hxs : ∀ x ∈ xs, ZeroOrAbove 1 x.toModel.unpack) :
    ZeroOrAbove (-1073) (Window.sum xs / xs.length.toUInt64.toFloat).toModel.unpack ∧
      ((∃ x ∈ xs, Above 1 x.toModel.unpack) →
        Above (-1073) (Window.sum xs / xs.length.toUInt64.toFloat).toModel.unpack) := by
  have hk : 0 < xs.length.toUInt64.toNat := by
    have := List.length_pos_iff.mpr hne
    simp only [Nat.toUInt64_eq, UInt64.toNat_ofNat']
    omega
  obtain ⟨hsum, hreach⟩ := foldl_add_zeroOrAbove (by decide) (-0.0) (.inl ⟨.negative, rfl⟩) hxs
  have hpos : (∃ x ∈ xs, Above 1 x.toModel.unpack) →
      Above (-1073) (Window.sum xs / xs.length.toUInt64.toFloat).toModel.unpack :=
    fun h => above_div_word (hreach (.inr h)) hk
  refine ⟨?_, hpos⟩
  rcases hsum with ⟨s, hz⟩ | habove
  · -- a zero sum averages to a zero
    obtain ⟨N, F, hN, hv, -⟩ := unpack_toFloat_of_pos hk
    rw [unpack_div, hv]
    unfold Window.sum
    have hdiv : div .binary64 (.zero s) (.finite .positive N F hN) = .zero (s / .positive) := rfl
    rw [hz, hdiv]
    exact .inl ⟨_, model_unpack_pack_zero _⟩
  · exact .inr (above_div_word habove hk)

end ScaleControl.Double

namespace ScaleControl.Window

open Float.Model Double

/-- The mean of counts over a nonempty window of fewer than `2^64` samples is a zero or
positive, and positive as soon as one count is. -/
theorem mean_counts {α : Type} (w : Window α) (f : α → Float) (hne : w.items ≠ [])
    (hlen : w.items.length < 2 ^ 64) (hf : ∀ a ∈ w.items, ZeroOrAbove 1 (f a).toModel.unpack) :
    ∃ v, w.mean f = some v ∧ ZeroOrAbove (-1073) v.toModel.unpack ∧
      ((∃ a ∈ w.items, Above 1 (f a).toModel.unpack) → Above (-1073) v.toModel.unpack) := by
  have havg := average_counts (w.items.map f) (by simpa using hne) (by simpa using hlen)
    (by simpa using hf)
  refine ⟨_, ?_, havg.1, fun ⟨a, ha, ha'⟩ => havg.2 ⟨f a, List.mem_map_of_mem ha, ha'⟩⟩
  simp [mean, hne, List.length_map]

end ScaleControl.Window
