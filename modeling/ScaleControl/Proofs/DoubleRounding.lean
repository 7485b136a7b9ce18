import Mathlib
/-!
# Rounding keeps a positive double positive

Arithmetic on doubles (`Float.Model`) unpacks its operands, computes the exact result as a
mantissa and an exponent, rounds it to 53 bits and packs it again. The place of a finite value
`m · 2^e` is its total exponent `m.log2 + 1 + e` (`Float.Model.totalExponent`): the value lies
in `[2^(t-1), 2^t)`.

A double stores its finite values in canonical form (`Canonical`): normal, with 53 bits of
mantissa, or subnormal at the least exponent, `-1074`. Rounding a positive value whose exponent
is in range gives a canonical positive value, never zero, whose total exponent is the input's
or one more (`round_spec`): rounding to nearest keeps the leading bit, and carries at most once
into the next. So the sum of two positive doubles is positive, in place no lower than either
(`add_finite_positive`), and so is a quotient whose place is above the subnormal range
(`div_finite`). Packing a canonical value and unpacking it again gives it back
(`unpack_pack_of_le`), or an infinity of its sign past the largest exponent
(`unpack_pack_of_lt`), and every unpacked double is canonical (`canonical_of_unpack`).
-/
namespace ScaleControl.Double

open Float.Model UnpackedFloat

theorem targetExponent_binary64 (t : Int) :
    Format.binary64.targetExponent t = max (t - 53) (-1074) := by
  simp [Format.targetExponent, Format.mantissaBits, Format.minExponent]

/-! ### Leading bits -/

theorem log2_div_pow {m k : Nat} (hm : 0 < m) (hk : k ≤ m.log2) :
    (m / 2 ^ k).log2 = m.log2 - k := by
  have hlo := Nat.log2_self_le (Nat.ne_of_gt hm)
  have hhi := Nat.lt_log2_self (n := m)
  have hsplit : 2 ^ m.log2 = 2 ^ (m.log2 - k) * 2 ^ k := by
    rw [← Nat.pow_add, Nat.sub_add_cancel hk]
  have hq : 2 ^ (m.log2 - k) ≤ m / 2 ^ k :=
    (Nat.le_div_iff_mul_le (Nat.two_pow_pos k)).mpr (hsplit ▸ hlo)
  refine (Nat.log2_eq_iff (Nat.ne_of_gt (lt_of_lt_of_le (Nat.two_pow_pos _) hq))).mpr ⟨hq, ?_⟩
  refine (Nat.div_lt_iff_lt_mul (Nat.two_pow_pos k)).mpr ?_
  rw [← Nat.pow_add, show m.log2 - k + 1 + k = m.log2 + 1 by omega]
  exact hhi

theorem log2_shiftLeft {m : Nat} (hm : 0 < m) (k : Nat) : (m <<< k).log2 = m.log2 + k := by
  have hlo := Nat.log2_self_le (Nat.ne_of_gt hm)
  have hhi := Nat.lt_log2_self (n := m)
  rw [Nat.shiftLeft_eq]
  refine (Nat.log2_eq_iff (Nat.ne_of_gt (Nat.mul_pos hm (Nat.two_pow_pos k)))).mpr ⟨?_, ?_⟩
  · rw [Nat.pow_add]
    exact Nat.mul_le_mul_right _ hlo
  · rw [Nat.add_right_comm, Nat.pow_add]
    exact Nat.mul_lt_mul_of_pos_right hhi (Nat.two_pow_pos k)

/-- A larger mantissa has no lower leading bit. -/
theorem log2_mono {m n : Nat} (hm : 0 < m) (h : m ≤ n) : m.log2 ≤ n.log2 :=
  (Nat.le_log2 (by omega)).mpr (Nat.le_trans (Nat.log2_self_le (Nat.ne_of_gt hm)) h)

/-- One more than a mantissa has its leading bit at most one higher. -/
theorem log2_succ_le {m : Nat} (hm : 0 < m) : (m + 1).log2 ≤ m.log2 + 1 := by
  have hhi := Nat.lt_log2_self (n := m)
  have : m + 1 < 2 ^ (m.log2 + 2) := by
    rw [Nat.pow_succ]
    omega
  have := (Nat.log2_lt (by omega)).mpr this
  omega

/-! ### Shifting and rounding mantissas -/

theorem shiftRight_mantissa (em : ExtendedMantissa) (k : Nat) :
    (em >>> k).mantissa = em.mantissa / 2 ^ k := by
  induction k with
  | zero => simp [HShiftRight.hShiftRight, Nat.repeat]
  | succ k ih =>
    change ((em >>> k).mantissa / 2) = _
    rw [ih, Nat.div_div_eq_div_mul, Nat.pow_succ]

theorem mantissa_ofMantissaAndAccuracy (m : Nat) (acc : Accuracy) :
    (ExtendedMantissa.ofMantissaAndAccuracy m acc).mantissa = m := by
  rcases acc with _ | (_ | _ | _) <;> rfl

/-- Rounding to nearest keeps the mantissa or adds one. -/
theorem roundedMantissa_bounds (em : ExtendedMantissa) :
    em.mantissa ≤ em.roundedMantissa ∧ em.roundedMantissa ≤ em.mantissa + 1 := by
  rcases em with ⟨m, _ | _, _ | _⟩ <;>
    simp [ExtendedMantissa.roundedMantissa, ExtendedMantissa.accuracy,
      Accuracy.roundToNearestEven]
  -- a tie rounds to the even neighbour
  omega

/-- The first shift of a rounding, from an exponent in range: bits below the 53 under the
leading one are dropped, and nothing else moves. -/
theorem shiftToTargetExponent_spec (m : Nat) {e : Int} (he : -1074 ≤ e) (acc : Accuracy) :
    let p := shiftToTargetExponent .binary64 m e acc
    p.1.mantissa = m / 2 ^ (m.log2 - 52) ∧ p.2 = e + (m.log2 - 52 : Nat) := by
  have hshift : (Format.binary64.targetExponent (totalExponent m e) - e).toNat = m.log2 - 52 := by
    rw [targetExponent_binary64]
    simp only [totalExponent]
    omega
  simp only [shiftToTargetExponent, shiftToExponent, hshift, shiftRight_mantissa,
    mantissa_ofMantissaAndAccuracy, and_self]

/-- After the first shift the mantissa is positive and its leading bit is at most the 53rd. -/
theorem shifted_bounds {m : Nat} (hm : 0 < m) :
    0 < m / 2 ^ (m.log2 - 52) ∧ (m / 2 ^ (m.log2 - 52)).log2 = m.log2 - (m.log2 - 52) := by
  have hpos : 0 < m / 2 ^ (m.log2 - 52) :=
    Nat.div_pos (Nat.le_trans (Nat.pow_le_pow_right (by decide) (Nat.sub_le _ _))
      (Nat.log2_self_le (Nat.ne_of_gt hm))) (Nat.two_pow_pos _)
  exact ⟨hpos, log2_div_pow hm (Nat.sub_le m.log2 52)⟩

/-! ### Canonical values -/

/-- The finite values `m · 2^e` a double stores: normal ones with 53 bits of mantissa, and
subnormal ones, with fewer, at the least exponent. -/
def Canonical (m : Nat) (e : Int) : Prop :=
  -1074 ≤ e ∧ (m.log2 = 52 ∨ m.log2 < 52 ∧ e = -1074)

theorem Canonical.lt_two_pow {m : Nat} {e : Int} (h : Canonical m e) (hm : 0 < m) :
    m < 2 ^ 53 :=
  (Nat.log2_lt (Nat.ne_of_gt hm)).mp (by rcases h with ⟨_, h | h⟩ <;> omega)

/-- Rounding a positive value whose exponent is in range and whose mantissa reaches 53 bits
(or sits at the least exponent) gives a canonical positive finite value whose total exponent is
the input's or one more: rounding to nearest keeps the leading bit, and carries at most once
into the next. -/
theorem roundWithAccuracy_spec (s : Sign) {m : Nat} {e : Int} (hm : 0 < m) (he : -1074 ≤ e)
    (hc : 52 ≤ m.log2 ∨ e = -1074) (acc : Accuracy) :
    ∃ M E h, roundWithAccuracy .binary64 s m e acc = .finite s M E h ∧ Canonical M E ∧
      totalExponent m e ≤ totalExponent M E ∧ totalExponent M E ≤ totalExponent m e + 1 := by
  obtain ⟨hm₁, he₁⟩ := shiftToTargetExponent_spec m he acc
  obtain ⟨hpos₁, hlog₁⟩ := shifted_bounds hm
  generalize hfirst : shiftToTargetExponent .binary64 m e acc = first at hm₁ he₁
  obtain ⟨em₁, e₁⟩ := first
  dsimp only at hm₁ he₁
  -- rounding keeps the mantissa or adds one, so the leading bit stays or moves up by one
  obtain ⟨hr₁, hr₂⟩ := roundedMantissa_bounds em₁
  generalize hround : em₁.roundedMantissa = r at hr₁ hr₂
  have hr : 0 < r := by omega
  have hup₁ : (m / 2 ^ (m.log2 - 52)).log2 ≤ r.log2 := log2_mono hpos₁ (hm₁ ▸ hr₁)
  have hup₂ : r.log2 ≤ (m / 2 ^ (m.log2 - 52)).log2 + 1 :=
    Nat.le_trans (log2_mono hr (hm₁ ▸ hr₂)) (log2_succ_le hpos₁)
  obtain ⟨hm₂, he₂⟩ := shiftToTargetExponent_spec r (e := e₁) (by omega) .exact
  obtain ⟨hpos₂, hlog₂⟩ := shifted_bounds hr
  generalize hsecond : shiftToTargetExponent .binary64 r e₁ .exact = second at hm₂ he₂
  obtain ⟨em₂, e₂⟩ := second
  dsimp only at hm₂ he₂
  have hM : em₂.mantissa ≠ 0 := by omega
  refine ⟨em₂.mantissa, e₂, Nat.pos_of_ne_zero hM, ?_, ?_, ?_⟩
  · simp only [roundWithAccuracy, hfirst, hround, hsecond, dif_neg hM]
  · -- a mantissa short of 53 bits came from one short of them, at the least exponent
    rw [hm₂]
    unfold Canonical
    omega
  · rw [hm₂]
    simp only [totalExponent]
    omega

/-- Rounding a positive value whose exponent is in range gives a canonical positive finite
value whose total exponent is the input's or one more: the exponent is first lowered until the
mantissa has 53 bits or the exponent is the least. -/
theorem round_spec (s : Sign) {m : Nat} {e : Int} (hm : 0 < m) (he : -1074 ≤ e) :
    ∃ M E h, round .binary64 s m e = .finite s M E h ∧ Canonical M E ∧
      totalExponent m e ≤ totalExponent M E ∧ totalExponent M E ≤ totalExponent m e + 1 := by
  generalize hk : (e - Format.binary64.targetExponent (totalExponent m e)).toNat = k
  have hround : round .binary64 s m e = roundWithAccuracy .binary64 s (m <<< k) (e - k) .exact := by
    rw [← hk]
    rfl
  have hlog := log2_shiftLeft hm k
  have hpos : 0 < m <<< k := by
    rw [Nat.shiftLeft_eq]
    exact Nat.mul_pos hm (Nat.two_pow_pos k)
  rw [targetExponent_binary64] at hk
  simp only [totalExponent] at hk
  -- the lowered exponent is the target, or the mantissa had 53 bits or more already
  obtain ⟨M, E, h, hr, hcan, hlo, hhi⟩ :=
    roundWithAccuracy_spec s hpos (e := e - k) (by omega) (by omega) .exact
  have hplace : totalExponent (m <<< k) (e - k) = totalExponent m e := by
    simp only [totalExponent, hlog]
    omega
  exact ⟨M, E, h, hround.trans hr, hcan, hplace ▸ hlo, hplace ▸ hhi⟩

theorem normalize_of_pos {n : Int} (hn : 0 < n) (e : Int) (zs : Sign) :
    normalize .binary64 n e zs = round .binary64 .positive n.toNat e := by
  simp only [UnpackedFloat.normalize, compare_gt_iff_gt.mpr hn]

/-! ### Sums and quotients -/

/-- The sum of two positive finite values in range is a canonical positive finite value, in
place no lower than either: both are brought to the smaller exponent, added and rounded. -/
theorem add_finite_positive {m₁ m₂ : Nat} {e₁ e₂ : Int} (h₁ : 0 < m₁) (h₂ : 0 < m₂)
    (he₁ : -1074 ≤ e₁) (he₂ : -1074 ≤ e₂) :
    ∃ M E h, add .binary64 (.finite .positive m₁ e₁ h₁) (.finite .positive m₂ e₂ h₂) =
        .finite .positive M E h ∧ Canonical M E ∧
      max (totalExponent m₁ e₁) (totalExponent m₂ e₂) ≤ totalExponent M E := by
  generalize hk₁ : (e₁ - min e₁ e₂).toNat = k₁
  generalize hk₂ : (e₂ - min e₁ e₂).toNat = k₂
  have hpos₁ : 0 < m₁ <<< k₁ := by
    rw [Nat.shiftLeft_eq]
    exact Nat.mul_pos h₁ (Nat.two_pow_pos k₁)
  have hpos₂ : 0 < m₂ <<< k₂ := by
    rw [Nat.shiftLeft_eq]
    exact Nat.mul_pos h₂ (Nat.two_pow_pos k₂)
  have hsum : add .binary64 (.finite .positive m₁ e₁ h₁) (.finite .positive m₂ e₂ h₂) =
      round .binary64 .positive (m₁ <<< k₁ + m₂ <<< k₂) (min e₁ e₂) := by
    have hn : (0 : Int) < ((m₁ <<< k₁ : Nat) : Int) + ((m₂ <<< k₂ : Nat) : Int) := by omega
    rw [← Int.toNat_natCast (m₁ <<< k₁ + m₂ <<< k₂), Nat.cast_add, ← normalize_of_pos hn _ .positive,
      ← hk₁, ← hk₂]
    rfl
  -- each summand, shifted to the smaller exponent, keeps its place and bounds the sum's
  have hlog₁ := log2_mono hpos₁ (Nat.le_add_right (m₁ <<< k₁) (m₂ <<< k₂))
  have hlog₂ := log2_mono hpos₂ (Nat.le_add_left (m₂ <<< k₂) (m₁ <<< k₁))
  rw [log2_shiftLeft h₁] at hlog₁
  rw [log2_shiftLeft h₂] at hlog₂
  obtain ⟨M, E, h, hr, hcan, hlo, -⟩ := round_spec .positive (m := m₁ <<< k₁ + m₂ <<< k₂)
    (by omega) (e := min e₁ e₂) (by omega)
  refine ⟨M, E, h, hsum.trans hr, hcan, ?_⟩
  simp only [totalExponent] at hlo ⊢
  omega

/-- The quotient of two finite values is a canonical finite value when the dividend's exponent
is not far below the divisor's and the quotient's place is above the subnormal range: the
dividend is shifted so the quotient has at least 53 bits before it is rounded. -/
theorem div_finite (s₁ s₂ : Sign) {m₁ m₂ : Nat} {e₁ e₂ : Int} (h₁ : 0 < m₁) (h₂ : 0 < m₂)
    (he : -1074 ≤ e₁ - e₂) (hplace : -1021 ≤ totalExponent m₁ e₁ - totalExponent m₂ e₂) :
    ∃ M E h, div .binary64 (.finite s₁ m₁ e₁ h₁) (.finite s₂ m₂ e₂ h₂) =
        .finite (s₁ / s₂) M E h ∧ Canonical M E := by
  generalize htarget : min (e₁ - e₂)
    (Format.binary64.targetExponent (totalExponent m₁ e₁ - totalExponent m₂ e₂)) = t
  generalize hk : (e₁ - e₂ - t).toNat = k
  have hdiv : div .binary64 (.finite s₁ m₁ e₁ h₁) (.finite s₂ m₂ e₂ h₂) =
      roundWithAccuracy .binary64 (s₁ / s₂) ((m₁ <<< k) / m₂) t
        (accuracyOfFraction ((m₁ <<< k) % m₂) m₂) := by
    rw [← hk, ← htarget]
    rfl
  rw [targetExponent_binary64] at htarget
  simp only [totalExponent] at htarget hplace
  -- the shift gives the dividend 53 more bits than the divisor
  have hbits : m₂.log2 + 53 ≤ m₁.log2 + k := by omega
  have hq : 2 ^ 52 ≤ (m₁ <<< k) / m₂ := by
    refine (Nat.le_div_iff_mul_le h₂).mpr ?_
    calc 2 ^ 52 * m₂ ≤ 2 ^ 52 * 2 ^ (m₂.log2 + 1) :=
          Nat.mul_le_mul_left _ (Nat.lt_log2_self (n := m₂)).le
      _ = 2 ^ (m₂.log2 + 53) := by rw [← Nat.pow_add, Nat.add_comm 52, Nat.add_assoc]
      _ ≤ 2 ^ (m₁.log2 + k) := Nat.pow_le_pow_right (by decide) hbits
      _ = 2 ^ m₁.log2 * 2 ^ k := Nat.pow_add _ _ _
      _ ≤ m₁ <<< k := by
          rw [Nat.shiftLeft_eq]
          exact Nat.mul_le_mul_right _ (Nat.log2_self_le (Nat.ne_of_gt h₁))
  have hpos : 0 < (m₁ <<< k) / m₂ := lt_of_lt_of_le (Nat.two_pow_pos 52) hq
  have hlog : 52 ≤ ((m₁ <<< k) / m₂).log2 := (Nat.le_log2 (Nat.ne_of_gt hpos)).mpr hq
  obtain ⟨M, E, h, hr, hcan, -⟩ :=
    roundWithAccuracy_spec (s₁ / s₂) hpos (e := t) (by omega) (.inl hlog) _
  exact ⟨M, E, h, hdiv.trans hr, hcan⟩

/-! ### Packing -/

theorem unpackSign_packComponents (s : Sign) (ev : BitVec 11) (mv : BitVec 52) :
    Sign.ofBitVec (unpackSign (packComponents .binary64 s ev mv)) = s := by
  simp only [unpackSign, packComponents, BitVec.extractLsb]
  rw [BitVec.extractLsb'_append_eq_of_le (by omega), BitVec.extractLsb'_append_eq_of_le (by omega)]
  cases s <;> rfl

theorem biasedExponent_binary64 (e : Int) :
    (e + Format.binary64.exponentBias + Format.binary64.mantissaBitsWithoutImplicit).toNat =
      (e + 1075).toNat := by
  simp [Format.exponentBias]
  omega

/-- A field stored from a number below its width's bound differs from a constant whenever the
number differs from the constant's value. -/
theorem ofNat_ne {w n : Nat} (hn : n < 2 ^ w) {c : BitVec w} (hc : n ≠ c.toNat) :
    BitVec.ofNat w n ≠ c :=
  fun h => hc (by rw [← h, BitVec.toNat_ofNat, Nat.mod_eq_of_lt hn])

/-- A normal double's mantissa: the stored bits under an implicit leading one. -/
theorem toNat_one_append (v : BitVec 52) : (1#1 ++ v).toNat = 2 ^ 52 + v.toNat := by
  rw [BitVec.toNat_append, ← Nat.shiftLeft_add_eq_or_of_lt v.isLt]
  simp [Nat.shiftLeft_eq]

/-- A finite value past the largest exponent packs as an infinity of its sign. -/
theorem unpack_pack_of_lt {s : Sign} {m : Nat} {e : Int} (hm : 0 < m) (he : 971 < e) :
    unpack .binary64 (pack .binary64 (.finite s m e hm)) = .infinity s := by
  have hover : 2 ^ Format.binary64.exponentBits ≤ (e + 1075).toNat + 1 := by
    simp only
    omega
  rw [UnpackedFloat.pack, biasedExponent_binary64, if_pos hover, packedInfinity,
    UnpackedFloat.unpack]
  simp [unpackMantissa_packComponents, unpackExponent_packComponents]

/-- A canonical finite value up to the largest exponent packs and unpacks to itself. -/
theorem unpack_pack_of_le {s : Sign} {m : Nat} {e : Int} (hm : 0 < m) (hc : Canonical m e)
    (he : e ≤ 971) : unpack .binary64 (pack .binary64 (.finite s m e hm)) = .finite s m e hm := by
  have hlt := hc.lt_two_pow hm
  have hfits : ¬ 2 ^ Format.binary64.exponentBits ≤ (e + 1075).toNat + 1 := by
    simp only
    omega
  rw [UnpackedFloat.pack, biasedExponent_binary64, if_neg hfits]
  rcases hc with ⟨hlo, hnormal | ⟨hsub, rfl⟩⟩
  · -- normal: the leading bit is implicit, the exponent is stored biased
    have hlead : 2 ^ 52 ≤ m := hnormal ▸ Nat.log2_self_le (Nat.ne_of_gt hm)
    have hbiased : (e + 1075).toNat < 2 ^ 11 := by omega
    have hexp : (BitVec.ofNat 11 (e + 1075).toNat).toNat = (e + 1075).toNat := by
      rw [BitVec.toNat_ofNat, Nat.mod_eq_of_lt hbiased]
    -- the biased exponent is neither all ones nor zero
    have hinf : BitVec.ofNat 11 (e + 1075).toNat ≠ -1#11 := ofNat_ne hbiased (by simp; omega)
    have hsub : BitVec.ofNat 11 (e + 1075).toNat ≠ 0#11 := ofNat_ne hbiased (by simp; omega)
    have hmant : (1#1 ++ BitVec.ofNat 52 m).toNat = m := by
      rw [toNat_one_append, BitVec.toNat_ofNat]
      omega
    rw [if_pos (by simp [Format.mantissaBits, hnormal]), UnpackedFloat.unpack]
    simp only [unpackMantissa_packComponents, unpackExponent_packComponents,
      unpackSign_packComponents, if_neg hinf, if_neg hsub, hmant, hexp]
    simp [Format.exponentBias]
    omega
  · -- subnormal: the exponent field is zero and the mantissa is stored whole
    have hsmall : m < 2 ^ 52 := (Nat.log2_lt (Nat.ne_of_gt hm)).mp hsub
    have hmant : (BitVec.ofNat 52 m).toNat = m := by
      rw [BitVec.toNat_ofNat]
      omega
    have hzero : BitVec.ofNat 52 m ≠ 0#52 := ofNat_ne hsmall (by simp; omega)
    rw [if_neg (by simp [Format.mantissaBits]; omega), UnpackedFloat.unpack]
    simp only [unpackMantissa_packComponents, unpackExponent_packComponents,
      unpackSign_packComponents, dif_neg hzero, hmant]
    simp [Format.exponentBias]

/-- Every finite value a double unpacks to is canonical, with an exponent at most the
largest: a zero exponent field holds a subnormal value, any other but all ones a normal one. -/
theorem canonical_of_unpack {b : BitVec 64} {s : Sign} {m : Nat} {e : Int} {hm : 0 < m}
    (hu : unpack .binary64 b = .finite s m e hm) : Canonical m e ∧ e ≤ 971 := by
  have hmv : (@unpackMantissa .binary64 b).toNat < 2 ^ 52 := BitVec.isLt _
  have hev : (@unpackExponent .binary64 b).toNat < 2 ^ 11 := BitVec.isLt _
  have hbias : ((Format.binary64.exponentBias : Nat) : Int) = 1023 := rfl
  unfold UnpackedFloat.unpack at hu
  dsimp only at hu
  split at hu
  · split at hu <;> cases hu
  · rename_i hinf
    split at hu
    · rename_i hzero
      split at hu
      · cases hu
      · -- subnormal: the exponent field is zero
        cases hu
        have hlog := (Nat.log2_lt (Nat.ne_of_gt hm)).mpr hmv
        rw [hzero, hbias, BitVec.toNat_zero]
        exact ⟨⟨by omega, .inr ⟨hlog, by omega⟩⟩, by omega⟩
    · -- normal: the exponent field is neither zero nor all ones
      rename_i hnormal
      cases hu
      have h₁ : (@unpackExponent .binary64 b).toNat ≠ 2047 := fun h =>
        hinf (BitVec.eq_of_toNat_eq (by simpa using h))
      have h₀ : (@unpackExponent .binary64 b).toNat ≠ 0 := fun h =>
        hnormal (BitVec.eq_of_toNat_eq (by simpa using h))
      have hlog : (2 ^ 52 + (@unpackMantissa .binary64 b).toNat).log2 = 52 :=
        (Nat.log2_eq_iff (by omega)).mpr ⟨by omega, by omega⟩
      rw [toNat_one_append, hbias]
      exact ⟨⟨by omega, .inl hlog⟩, by omega⟩

end ScaleControl.Double
