import Mathlib
import ScaleControl.Backoff
/-!
# How many ticks a backoff skips

A backoff entered after an operation whose limit is `n` skips exactly the next `n` ticks,
and the tick after them runs and leaves the backoff active again, its count back at zero; an
active backoff never skips and stays as it is. Entering restarts the count whatever came
before, so the law holds from every state.

The count is a 32-bit word that goes up before it is compared with the limit. After `n`
skips it holds `n` itself, so the law holds for every limit but the largest word: with a
limit of `2^32 - 1` the tick after the skipped ones overflows the count instead of running.
`ticks` runs a backoff through a number of ticks; each fact about a run of ticks comes from
the three outcomes of one tick (skipped and counted, run at the limit, overflowed).
-/
namespace ScaleControl.Backoff

/-- The answers of `k` ticks in a row against `d`, and the backoff after them; `none` when
counting one of them overflows. -/
def ticks (d : Descriptor) : Nat → Backoff → Option (List Bool × Backoff)
  | 0, b => some ([], b)
  | k + 1, b => (b.shouldSkip d).bind fun (skip, b') =>
      (ticks d k b').map fun (rest, b'') => (skip :: rest, b'')

@[simp] theorem ticks_zero (d : Descriptor) (b : Backoff) : b.ticks d 0 = some ([], b) := rfl

theorem ticks_succ_of_shouldSkip {d : Descriptor} {b b' : Backoff} {skip : Bool}
    (h : b.shouldSkip d = some (skip, b')) (k : Nat) :
    b.ticks d (k + 1) = (b'.ticks d k).map fun (rest, b'') => (skip :: rest, b'') := by
  rw [ticks, h, Option.bind_some]

theorem ticks_succ_of_overflow {d : Descriptor} {b : Backoff} (h : b.shouldSkip d = none)
    (k : Nat) : b.ticks d (k + 1) = none := by
  rw [ticks, h, Option.bind_none]

/-! ### One tick -/

theorem checkedSucc_of_lt {n : UInt32} (h : n.toNat + 1 < UInt32.size) :
    checkedSucc n = some (UInt32.ofNat (n.toNat + 1)) := by
  rw [checkedSucc, if_pos h, UInt32.ofNat_add, UInt32.ofNat_toNat]
  rfl

theorem checkedSucc_of_max {n : UInt32} (h : n.toNat + 1 = UInt32.size) : checkedSucc n = none := by
  rw [checkedSucc, if_neg (by omega)]

/-- An active backoff lets the tick run and stays as it is. -/
theorem shouldSkip_of_inactive {b : Backoff} (h : b.active = false) (d : Descriptor) :
    b.shouldSkip d = some (false, b) := by
  cases hlast : b.last with
  | none => rw [shouldSkip, hlast]
  | some op => simp [active, hlast] at h

/-- Below the limit a tick is skipped and counted. -/
theorem shouldSkip_below_limit {d : Descriptor} {op : Operation} {k : Nat}
    (hk : k < (d.backoffLimit op).toNat) :
    (⟨some op, UInt32.ofNat k⟩ : Backoff).shouldSkip d = some (true, ⟨some op, UInt32.ofNat (k + 1)⟩) := by
  have hsize : k + 1 < UInt32.size := Nat.lt_of_le_of_lt hk (d.backoffLimit op).toNat_lt
  have hk' : (UInt32.ofNat k).toNat = k := UInt32.toNat_ofNat_of_lt (by omega)
  have hcount : (UInt32.ofNat (k + 1)).toNat = k + 1 := UInt32.toNat_ofNat_of_lt hsize
  -- the counted tick is still within the limit
  have hwithin : ¬ UInt32.ofNat (k + 1) > d.backoffLimit op := by
    rw [gt_iff_lt, UInt32.lt_iff_toNat_lt, hcount]
    omega
  simp only [shouldSkip, checkedSucc_of_lt (hk' ▸ hsize), hk', Option.map_some, if_neg hwithin]

/-- At the limit the tick runs and the backoff ends, unless counting it overflows. -/
theorem shouldSkip_at_limit {d : Descriptor} {op : Operation}
    (hroom : (d.backoffLimit op).toNat + 1 < UInt32.size) :
    (⟨some op, d.backoffLimit op⟩ : Backoff).shouldSkip d = some (false, {}) := by
  have hcount : (UInt32.ofNat ((d.backoffLimit op).toNat + 1)).toNat =
      (d.backoffLimit op).toNat + 1 := UInt32.toNat_ofNat_of_lt hroom
  -- the counted tick passes the limit
  have hpast : UInt32.ofNat ((d.backoffLimit op).toNat + 1) > d.backoffLimit op := by
    rw [gt_iff_lt, UInt32.lt_iff_toNat_lt, hcount]
    omega
  simp only [shouldSkip, checkedSucc_of_lt hroom, Option.map_some, if_pos hpast]

/-- Counting a tick past the largest word overflows. -/
theorem shouldSkip_overflow {d : Descriptor} {op : Operation} {count : UInt32}
    (hmax : count.toNat + 1 = UInt32.size) : (⟨some op, count⟩ : Backoff).shouldSkip d = none := by
  simp only [shouldSkip, checkedSucc_of_max hmax, Option.map_none]

/-! ### Runs of ticks -/

/-- From a count of `k`, the ticks up to the limit are all skipped, and the count reaches the
limit. -/
theorem ticks_up_to_limit {d : Descriptor} {op : Operation} :
    ∀ j k, k + j = (d.backoffLimit op).toNat →
      (⟨some op, UInt32.ofNat k⟩ : Backoff).ticks d j =
        some (List.replicate j true, ⟨some op, d.backoffLimit op⟩)
  | 0, k, hk => by
    rw [Nat.add_zero] at hk
    rw [ticks_zero, hk, UInt32.ofNat_toNat]
    rfl
  | j + 1, k, hk => by
    -- one skipped tick, then the rest from one count further
    rw [ticks_succ_of_shouldSkip (shouldSkip_below_limit (by omega)),
      ticks_up_to_limit j (k + 1) (by omega)]
    rfl

theorem enter_ticks_limit (b : Backoff) (d : Descriptor) (op : Operation) :
    (b.enter op).ticks d (d.backoffLimit op).toNat =
      some (List.replicate (d.backoffLimit op).toNat true, ⟨some op, d.backoffLimit op⟩) :=
  ticks_up_to_limit _ 0 (Nat.zero_add _)

theorem ticks_append {d : Descriptor} {b b' : Backoff} {j : Nat} {answers : List Bool}
    (h : b.ticks d j = some (answers, b')) (k : Nat) :
    b.ticks d (j + k) = (b'.ticks d k).map fun (rest, b'') => (answers ++ rest, b'') := by
  induction j generalizing b answers with
  | zero =>
    obtain ⟨rfl, rfl⟩ := Prod.mk.inj (Option.some.inj h)
    rw [Nat.zero_add]
    cases b.ticks d k <;> rfl
  | succ j ih =>
    cases hstep : b.shouldSkip d with
    | none => rw [ticks_succ_of_overflow hstep] at h; cases h
    | some step =>
      obtain ⟨skip, b₁⟩ := step
      rw [ticks_succ_of_shouldSkip hstep] at h
      cases hrest : b₁.ticks d j with
      | none => rw [hrest] at h; cases h
      | some r =>
        obtain ⟨rest, b₂⟩ := r
        rw [hrest] at h
        obtain ⟨rfl, rfl⟩ := Prod.mk.inj (Option.some.inj h)
        rw [Nat.add_right_comm, ticks_succ_of_shouldSkip hstep, ih hrest]
        cases b₂.ticks d k <;> rfl

/-- A backoff entered after `op`, whatever the state before, skips exactly as many ticks as
the limit for `op`, reaching a count equal to the limit. The tick after them runs and makes
the backoff active with its count at zero, for every limit below the largest 32-bit word;
at the largest word counting that tick overflows. An active backoff lets every tick run and
stays as it is. -/
theorem enter_skips_limit (b : Backoff) (d : Descriptor) (op : Operation) :
    let n := (d.backoffLimit op).toNat
    (b.enter op).ticks d n = some (List.replicate n true, ⟨some op, d.backoffLimit op⟩) ∧
      (n + 1 < UInt32.size →
        (b.enter op).ticks d (n + 1) = some (List.replicate n true ++ [false], {})) ∧
      (n + 1 = UInt32.size → (b.enter op).ticks d (n + 1) = none) ∧
      ∀ b' : Backoff, b'.active = false → b'.shouldSkip d = some (false, b') := by
  intro n
  have hlimit := enter_ticks_limit b d op
  refine ⟨hlimit, fun hroom => ?_, fun hmax => ?_, fun b' hb' => shouldSkip_of_inactive hb' d⟩
  · rw [ticks_append hlimit 1, ticks_succ_of_shouldSkip (shouldSkip_at_limit hroom)]
    rfl
  · rw [ticks_append hlimit 1, ticks_succ_of_overflow (shouldSkip_overflow hmax)]
    rfl

/-- A descriptor whose backoff limits are all two ticks. -/
def shortBackoff : Descriptor :=
  ⟨"svc", 60, 0, 5, 2, none, none, "queue", "jobs", none⟩

/-- After a scale-up with a limit of two, two ticks are skipped and the third runs. -/
theorem short_backoff_skips_two :
    (({} : Backoff).enter .scaleUp).ticks shortBackoff 3 = some ([true, true, false], {}) :=
  (enter_skips_limit {} shortBackoff .scaleUp).2.1 (by decide)

/-- A descriptor whose backoff limits are all the largest 32-bit word. -/
def longestBackoff : Descriptor :=
  ⟨"svc", 60, 0, 5, 4294967295, none, none, "queue", "jobs", none⟩

/-- With a limit of `2^32 - 1`, the backoff skips that many ticks, and the tick after them
does not run: counting it overflows. -/
theorem largest_limit_overflows :
    (({} : Backoff).enter .scaleUp).ticks longestBackoff 4294967295 =
        some (List.replicate 4294967295 true, ⟨some .scaleUp, 4294967295⟩) ∧
      (({} : Backoff).enter .scaleUp).ticks longestBackoff 4294967296 = none := by
  -- the limit of `longestBackoff` is the literal word
  have hlimit : (({} : Backoff).enter .scaleUp).ticks longestBackoff 4294967295 =
      some (List.replicate 4294967295 true, ⟨some .scaleUp, 4294967295⟩) :=
    enter_ticks_limit {} longestBackoff .scaleUp
  refine ⟨hlimit, ?_⟩
  rw [show (4294967296 : Nat) = 4294967295 + 1 from rfl, ticks_append hlimit 1,
    ticks_succ_of_overflow (shouldSkip_overflow rfl)]
  rfl

end ScaleControl.Backoff
