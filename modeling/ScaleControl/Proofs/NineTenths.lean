import Mathlib
import ScaleControl.Governor
import ScaleControl.Proofs.DoubleCounts
/-!
# Nine tenths of a count, in double arithmetic

A service that gives instances back shrinks to nine tenths of its count: the count as a
double times the double nearest `0.9`, converted back to a count (`nineTenths`). For every
32-bit count that is exactly nine tenths of the count rounded down (`toNat_nineTenths`).

The double nearest `0.9` is `c · 2^-53` with `c = 8106479329266893`, a little above `0.9`:
`10 c = 9 · 2^53 + 2`. A positive count `n` is the exact double
`(n <<< (52 - log2 n)) · 2^(log2 n - 52)` (`unpack_countToDouble`), so the product is the
exact value `n c / 2^53` rounded to 53 bits. Rounding to nearest moves the mantissa by at most
one unit in its last place and the conversion truncates (`roundToInt_roundWithAccuracy`), so
the count comes out between `⌊n c / 2^53⌋` and the floor of `n c / 2^53` plus one unit, which
is at most `2^-21` for a count below `2^32`. The excess of `c · 2^-53` over `0.9` adds less
than `10^-7` for such a count, and a fraction of `9 n / 10` is at most `0.9`, so both floors
are `⌊9 n / 10⌋`.
-/
namespace ScaleControl.Double

open Float.Model UnpackedFloat

theorem unpack_mul (x y : Float) :
    (x * y).toModel.unpack =
      (Float.Model.pack (mul .binary64 x.toModel.unpack y.toModel.unpack)).unpack := rfl

/-- The double nearest `0.9`. -/
theorem unpack_nine_tenths :
    (0.9 : Float).toModel.unpack = .finite .positive 8106479329266893 (-53) (by decide) := rfl

/-! ### Rounding a product -/

/-- A mantissa whose leading bit is the 53rd, at an exponent in range, is already rounded. -/
theorem roundWithAccuracy_of_log2 (s : Sign) {m : Nat} {e : Int} (hm : 0 < m)
    (hlog : m.log2 = 52) (he : -1074 ≤ e) :
    roundWithAccuracy .binary64 s m e .exact = .finite s m e hm := by
  have ht : Format.binary64.targetExponent (totalExponent m e) = e := by
    rw [targetExponent_binary64]
    simp only [totalExponent, hlog]
    omega
  have hshift : shiftToTargetExponent .binary64 m e .exact = (⟨m, false, false⟩, e) := by
    simp only [shiftToTargetExponent, shiftToExponent, ht, Int.sub_self, Int.toNat_zero,
      Int.natCast_zero, Int.add_zero]
    rfl
  have hround : ExtendedMantissa.roundedMantissa ⟨m, false, false⟩ = m := rfl
  simp only [roundWithAccuracy, hshift, hround, dif_neg (Nat.ne_of_gt hm)]

/-- Rounding a positive mantissa of 53 bits or more: its bits below the leading 53 are
dropped and it is rounded to nearest, to `r`, which is at most one more than the dropped
mantissa. Unless `r` carries into a 54th bit, it is the result; a carry gives `2^52` one
place up. -/
theorem roundWithAccuracy_cases (s : Sign) {m : Nat} {e : Int} (hm : 0 < m) (he : -1074 ≤ e)
    (hlog : 52 ≤ m.log2) :
    ∃ r, m / 2 ^ (m.log2 - 52) ≤ r ∧ r ≤ m / 2 ^ (m.log2 - 52) + 1 ∧ 2 ^ 52 ≤ r ∧
      ((∃ h, r < 2 ^ 53 ∧ roundWithAccuracy .binary64 s m e .exact =
          .finite s r (e + (m.log2 - 52 : Nat)) h) ∨
        (r = 2 ^ 53 ∧ roundWithAccuracy .binary64 s m e .exact =
          .finite s (2 ^ 52) (e + (m.log2 - 52 : Nat) + 1) (Nat.two_pow_pos 52))) := by
  obtain ⟨hm₁, he₁⟩ := shiftToTargetExponent_spec m he .exact
  obtain ⟨hpos₁, hlog₁⟩ := shifted_bounds hm
  -- the dropped mantissa has exactly 53 bits
  have hq : (m / 2 ^ (m.log2 - 52)).log2 = 52 := by omega
  have hq₁ : 2 ^ 52 ≤ m / 2 ^ (m.log2 - 52) := by
    have hself := Nat.log2_self_le (Nat.ne_of_gt hpos₁)
    rwa [hq] at hself
  have hq₂ : m / 2 ^ (m.log2 - 52) < 2 ^ 53 :=
    (Nat.log2_lt (Nat.ne_of_gt hpos₁)).mp (by omega)
  generalize hfirst : shiftToTargetExponent .binary64 m e .exact = first at hm₁ he₁
  obtain ⟨em₁, e₁⟩ := first
  dsimp only at hm₁ he₁
  obtain ⟨hr₁, hr₂⟩ := roundedMantissa_bounds em₁
  generalize hround : em₁.roundedMantissa = r at hr₁ hr₂
  rw [hm₁] at hr₁ hr₂
  refine ⟨r, hr₁, hr₂, Nat.le_trans hq₁ hr₁, ?_⟩
  have hr : 0 < r := by omega
  have hsecond := shiftToTargetExponent_spec r (e := e₁) (by omega) .exact
  generalize hs : shiftToTargetExponent .binary64 r e₁ .exact = second at hsecond
  obtain ⟨em₂, e₂⟩ := second
  obtain ⟨hm₂, he₂⟩ := hsecond
  dsimp only at hm₂ he₂
  have hunfold : roundWithAccuracy .binary64 s m e .exact =
      if h : em₂.mantissa = 0 then .zero s else .finite s em₂.mantissa e₂ (Nat.pos_of_ne_zero h) := by
    simp only [roundWithAccuracy, hfirst, hround, hs]
  by_cases hcarry : r < 2 ^ 53
  · -- no carry: the second shift moves nothing
    have hrlog : r.log2 = 52 :=
      (Nat.log2_eq_iff (Nat.ne_of_gt hr)).mpr ⟨Nat.le_trans hq₁ hr₁, hcarry⟩
    rw [hrlog, Nat.sub_self, Nat.pow_zero, Nat.div_one] at hm₂
    rw [hrlog, Nat.sub_self] at he₂
    refine .inl ⟨hr, hcarry, ?_⟩
    rw [hunfold, dif_neg (by omega)]
    subst hm₂ he₂ he₁
    congr 1
    omega
  · -- a carry: the mantissa is `2^53`, and the second shift halves it
    have hr53 : r = 2 ^ 53 := by omega
    subst hr53
    rw [Nat.log2_two_pow] at hm₂ he₂
    refine .inr ⟨rfl, ?_⟩
    rw [hunfold, dif_neg (by omega)]
    subst he₁ he₂
    simp only [hm₂]
    congr 1

/-! ### Converting to an integer -/

/-- A positive value whose exponent is at most zero converts to an integer by dropping its
fraction: the mantissa shifted down by the exponent. -/
theorem roundToInt_of_nonpos (M : Nat) {E : Int} (hE : E ≤ 0) :
    roundToInt .positive M E = ((M / 2 ^ (-E).toNat : Nat) : Int) := by
  simp only [roundToInt, decreaseExponent, shiftToExponent, Int.sub_zero, Int.toNat_of_nonpos hE,
    Nat.shiftLeft_zero, Int.natCast_zero, Int.zero_sub, shiftRight_mantissa,
    mantissa_ofMantissaAndAccuracy]
  rfl

/-- A double that unpacks to a positive value below `2^32` with exponent at most zero converts
to the count its mantissa shifted down by the exponent. -/
theorem toNat_toUInt32_of_unpack {x : Float} {M : Nat} {E : Int} {hM : 0 < M}
    (hx : x.toModel.unpack = .finite .positive M E hM) (hE : E ≤ 0)
    (hlt : M / 2 ^ (-E).toNat < UInt32.size) :
    x.toUInt32.toNat = M / 2 ^ (-E).toNat := by
  show (UInt32.ofNatClamp (x.toModel.unpack.toInt 0 (UInt32.size - 1)).toNat).toNat = _
  rw [hx]
  show (UInt32.ofNatClamp (roundToInt .positive M E).toNat).toNat = _
  rw [roundToInt_of_nonpos M hE, Int.toNat_natCast, UInt32.ofNatClamp_eq_ofNat _ hlt,
    UInt32.toNat_ofNat_of_lt' hlt]

/-- Rounding a positive mantissa of 53 bits or more to a value below one unit, and
converting the result to an integer, gives at least the exact value's integer part and at
most the integer part of the exact value plus one unit in the rounded value's last place. -/
theorem roundToInt_roundWithAccuracy {m : Nat} {e : Int} (hm : 0 < m) (he : -1074 ≤ e)
    (hlog : 52 ≤ m.log2) (hsmall : e + (m.log2 - 52 : Nat) < 0) :
    ∃ M E h, roundWithAccuracy .binary64 .positive m e .exact = .finite .positive M E h ∧
      Canonical M E ∧ E ≤ 0 ∧
      m / 2 ^ (-e).toNat ≤ M / 2 ^ (-E).toNat ∧
      M / 2 ^ (-E).toNat ≤ (m + 2 ^ (m.log2 - 52)) / 2 ^ (-e).toNat := by
  obtain ⟨r, hr₁, hr₂, hr₃, hcases⟩ := roundWithAccuracy_cases .positive hm he hlog
  -- what the rounded value leaves below its last place, and the shift splitting it
  generalize hk : m.log2 - 52 = k at hr₁ hr₂ hcases hsmall
  generalize hj : (-(e + k)).toNat = j
  have hn : (-e).toNat = k + j := by omega
  -- the exact value's integer part, and that of it plus one unit, through `r`
  have hlo : m / 2 ^ (-e).toNat ≤ r / 2 ^ j := by
    rw [hn, Nat.pow_add, ← Nat.div_div_eq_div_mul]
    exact Nat.div_le_div_right hr₁
  have hhi : r / 2 ^ j ≤ (m + 2 ^ k) / 2 ^ (-e).toNat := by
    rw [hn, Nat.pow_add, ← Nat.div_div_eq_div_mul, Nat.add_div_right _ (Nat.two_pow_pos k)]
    exact Nat.div_le_div_right hr₂
  rcases hcases with ⟨h, hcarry, hround⟩ | ⟨rfl, hround⟩
  · have hcan : Canonical r (e + k) :=
      ⟨by omega, .inl ((Nat.log2_eq_iff (Nat.ne_of_gt h)).mpr ⟨hr₃, hcarry⟩)⟩
    refine ⟨r, e + k, h, hround, hcan, by omega, ?_⟩
    rw [show (-(e + (k : Int))).toNat = j by omega]
    exact ⟨hlo, hhi⟩
  · -- after a carry the mantissa is halved and the exponent one higher
    have hcan : Canonical (2 ^ 52) (e + k + 1) := ⟨by omega, .inl Nat.log2_two_pow⟩
    have hhalf : 2 ^ 52 / 2 ^ (-(e + (k : Int) + 1)).toNat = 2 ^ 53 / 2 ^ j := by
      generalize ht : (-(e + (k : Int) + 1)).toNat = t
      rw [show j = t + 1 by omega, Nat.pow_add 2 t 1, Nat.pow_one, Nat.mul_comm,
        ← Nat.div_div_eq_div_mul]
      rfl
    refine ⟨2 ^ 52, e + k + 1, Nat.two_pow_pos 52, hround, hcan, by omega, ?_⟩
    rw [hhalf]
    exact ⟨hlo, hhi⟩

/-! ### Counts as doubles -/

/-- A positive 32-bit count is the exact double `(n <<< (52 - log2 n)) · 2^(log2 n - 52)`:
shifted up to 53 bits, it needs no rounding. -/
theorem unpack_countToDouble {n : UInt32} (hn : 0 < n.toNat) :
    (countToDouble n).toModel.unpack =
      .finite .positive (n.toNat <<< (52 - n.toNat.log2)) (n.toNat.log2 - 52)
        (by rw [Nat.shiftLeft_eq]; exact Nat.mul_pos hn (Nat.two_pow_pos _)) := by
  have hlog : n.toNat.log2 < 32 := (Nat.log2_lt (Nat.ne_of_gt hn)).mpr n.toNat_lt
  have hpos : 0 < n.toNat <<< (52 - n.toNat.log2) := by
    rw [Nat.shiftLeft_eq]
    exact Nat.mul_pos hn (Nat.two_pow_pos _)
  have hlog' : (n.toNat <<< (52 - n.toNat.log2)).log2 = 52 := by
    rw [log2_shiftLeft hn]
    omega
  -- the rounding lowers the exponent by `52 - log2 n` and then has nothing to drop
  have hround : round .binary64 .positive n.toNat 0 =
      roundWithAccuracy .binary64 .positive (n.toNat <<< (52 - n.toNat.log2))
        ((n.toNat.log2 : Int) - 52) .exact := by
    have hk : ((0 : Int) - Format.binary64.targetExponent (totalExponent n.toNat 0)).toNat =
        52 - n.toNat.log2 := by
      rw [targetExponent_binary64]
      simp only [totalExponent]
      omega
    have he : (0 : Int) - ((52 - n.toNat.log2 : Nat) : Int) = (n.toNat.log2 : Int) - 52 := by
      omega
    simp only [UnpackedFloat.round, decreaseExponent, hk, he]
  have hcan : Canonical (n.toNat <<< (52 - n.toNat.log2)) ((n.toNat.log2 : Int) - 52) :=
    ⟨by omega, .inl hlog'⟩
  unfold countToDouble
  rw [unpack_toFloat, UInt32.toNat_toUInt64, normalize_of_pos (by omega), Int.toNat_natCast,
    hround, roundWithAccuracy_of_log2 .positive hpos hlog' (by omega)]
  exact unpack_pack_of_le hpos hcan (by omega)

/-! ### Nine tenths -/

/-- The product of the double mantissas of a count `n` and of `0.9`, read at its exponent,
truncates to `9 n / 10`, and so does it plus one unit in the last place of its rounding. -/
theorem nine_tenths_bounds (n a : Nat) (hn : n < 2 ^ 32) (ha : 21 ≤ a) {k : Nat}
    (hk : k ≤ 53) :
    n * 2 ^ a * 8106479329266893 / 2 ^ (a + 53) = n * 9 / 10 ∧
      (n * 2 ^ a * 8106479329266893 + 2 ^ k) / 2 ^ (a + 53) = n * 9 / 10 := by
  -- the double `0.9` exceeds nine tenths by `2^-52 / 10`: the floors agree below `2^32`
  have hexact : n * 8106479329266893 / 2 ^ 53 = n * 9 / 10 := by omega
  have hroom : n * 8106479329266893 + 2 ^ 32 < (n * 9 / 10 + 1) * 2 ^ 53 := by omega
  have hA : 2 ^ 21 ≤ 2 ^ a := Nat.pow_le_pow_right (by decide) ha
  have hunit : 2 ^ k ≤ 2 ^ 32 * 2 ^ a :=
    calc 2 ^ k ≤ 2 ^ 53 := Nat.pow_le_pow_right (by decide) hk
      _ = 2 ^ 32 * 2 ^ 21 := by norm_num
      _ ≤ 2 ^ 32 * 2 ^ a := Nat.mul_le_mul_left _ hA
  have hscale : 2 ^ (a + 53) = 2 ^ 53 * 2 ^ a := by rw [Nat.pow_add, Nat.mul_comm]
  have hlow : n * 2 ^ a * 8106479329266893 / 2 ^ (a + 53) = n * 9 / 10 := by
    rw [hscale, Nat.mul_right_comm, Nat.mul_div_mul_right _ _ (Nat.two_pow_pos a), hexact]
  refine ⟨hlow, le_antisymm ?_ (hlow ▸ Nat.div_le_div_right (Nat.le_add_right _ _))⟩
  refine Nat.le_of_lt_succ ((Nat.div_lt_iff_lt_mul (Nat.two_pow_pos _)).mpr ?_)
  calc n * 2 ^ a * 8106479329266893 + 2 ^ k
      ≤ (n * 8106479329266893 + 2 ^ 32) * 2 ^ a := by
        rw [Nat.add_mul, Nat.mul_right_comm]
        exact Nat.add_le_add_left hunit _
    _ < (n * 9 / 10 + 1) * 2 ^ 53 * 2 ^ a := Nat.mul_lt_mul_of_pos_right hroom (Nat.two_pow_pos a)
    _ = (n * 9 / 10).succ * 2 ^ (a + 53) := by rw [hscale, Nat.mul_assoc]

/-- A 53-bit mantissa times that of `0.9` has 105 or 106 bits. -/
theorem log2_mul_nine_tenths {m : Nat} (hm : 0 < m) (hlog : m.log2 = 52) :
    104 ≤ (m * 8106479329266893).log2 ∧ (m * 8106479329266893).log2 ≤ 105 := by
  have hP : 0 < m * 8106479329266893 := Nat.mul_pos hm (by decide)
  have h₁ : 2 ^ 52 ≤ m := hlog ▸ Nat.log2_self_le (Nat.ne_of_gt hm)
  have h₂ : m < 2 ^ 53 := (Nat.log2_lt (Nat.ne_of_gt hm)).mp (by omega)
  constructor
  · refine (Nat.le_log2 (Nat.ne_of_gt hP)).mpr ?_
    calc 2 ^ 104 = 2 ^ 52 * 2 ^ 52 := by norm_num
      _ ≤ m * 8106479329266893 := Nat.mul_le_mul h₁ (by norm_num)
  · refine Nat.le_of_lt_succ ((Nat.log2_lt (Nat.ne_of_gt hP)).mpr ?_)
    calc m * 8106479329266893 < 2 ^ 53 * 2 ^ 53 := Nat.mul_lt_mul'' h₂ (by norm_num)
      _ = 2 ^ 106 := by norm_num

/-- A 32-bit count as a double times the double `0.9`, converted back to a count, is nine
tenths of the count rounded down. -/
theorem toNat_toUInt32_count_mul_nine_tenths (n : UInt32) :
    (countToDouble n * 0.9).toUInt32.toNat = n.toNat * 9 / 10 := by
  rcases Nat.eq_zero_or_pos n.toNat with hn | hn
  · -- zero times a finite double is zero
    obtain rfl : n = 0 := UInt32.toNat_inj.mp hn
    rfl
  have hlog : n.toNat.log2 < 32 := (Nat.log2_lt (Nat.ne_of_gt hn)).mpr n.toNat_lt
  generalize hL : n.toNat.log2 = L at hlog
  -- the count's mantissa: the count shifted up to 53 bits
  have hm₁ := log2_shiftLeft hn (52 - L)
  rw [hL, show L + (52 - L) = 52 by omega] at hm₁
  generalize hm : n.toNat <<< (52 - L) = m₁ at hm₁
  have hpos₁ : 0 < m₁ := by
    rw [← hm, Nat.shiftLeft_eq]
    exact Nat.mul_pos hn (Nat.two_pow_pos _)
  -- the exact product is rounded once and then truncated
  have hP : 0 < m₁ * 8106479329266893 := Nat.mul_pos hpos₁ (by decide)
  have hPlog := log2_mul_nine_tenths hpos₁ hm₁
  obtain ⟨M, E, hM, hround, hcan, hE, hlo, hhi⟩ :=
    roundToInt_roundWithAccuracy hP (e := (L : Int) - 52 + -53) (by omega) (by omega) (by omega)
  have hproduct : (countToDouble n * 0.9).toModel.unpack = .finite .positive M E hM := by
    rw [unpack_mul, unpack_countToDouble hn, unpack_nine_tenths]
    simp only [hL, hm]
    rw [show mul .binary64 (.finite .positive m₁ ((L : Int) - 52) hpos₁)
        (.finite .positive 8106479329266893 (-53) (by decide)) =
        roundWithAccuracy .binary64 .positive (m₁ * 8106479329266893) ((L : Int) - 52 + -53)
          .exact from rfl, hround]
    exact unpack_pack_of_le hM hcan (by omega)
  -- both bounds on the truncation are nine tenths of the count
  have hk : (m₁ * 8106479329266893).log2 - 52 ≤ 53 := by omega
  generalize (m₁ * 8106479329266893).log2 - 52 = k at hhi hk
  obtain ⟨hlow, hhigh⟩ := nine_tenths_bounds n.toNat (52 - L) n.toNat_lt (by omega) hk
  have hscale : (-((L : Int) - 52 + -53)).toNat = 52 - L + 53 := by omega
  have hm' : m₁ = n.toNat * 2 ^ (52 - L) := by rw [← hm, Nat.shiftLeft_eq]
  rw [hscale, hm', hlow] at hlo
  rw [hscale, hm', hhigh] at hhi
  have htrunc : M / 2 ^ (-E).toNat = n.toNat * 9 / 10 := le_antisymm hhi hlo
  have hlt : n.toNat * 9 / 10 < UInt32.size := by
    have := n.toNat_lt
    simp only [UInt32.size]
    omega
  rw [toNat_toUInt32_of_unpack hproduct hE (htrunc ▸ hlt), htrunc]

end ScaleControl.Double

namespace ScaleControl

/-- The count a service shrinks to is nine tenths of its count, rounded down. -/
theorem toNat_nineTenths (total : UInt32) : (nineTenths total).toNat = total.toNat * 9 / 10 :=
  Double.toNat_toUInt32_count_mul_nine_tenths total

end ScaleControl
