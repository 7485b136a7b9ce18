import Mathlib
import ScaleControl.Pressure
import ScaleControl.Settings
import ScaleControl.Proofs.DoubleOrder
/-!
# Stages rise with pressure

A reading is at most as severe as another when it uses no more memory and, where it knows its
free disk, the other knows it too and has no more of it. Classifying a more severe reading
never gives a lower stage, for memory, for disk or for the higher of the two, whatever the
settings: each ladder picks the worst limit reached, and a more severe reading reaches every
limit the other reaches (`classify_rises`).

Shedding rises with the stage only when the shutdown thresholds ascend from stage to stage
(`shouldShed_rises`). The settings check asks that of the memory and disk ladders, not of
the thresholds, so accepted settings can shed a service at the first stage and keep it at the
second (`shedding_falls_at_second_stage`).
-/
namespace ScaleControl

/-- Reading `r` is at most as severe as `r'`: it uses no more memory, and where it knows its
free disk, `r'` knows it too and has no more. -/
structure Reading.SeverityLE (r r' : Reading) : Prop where
  memory : r.memoryUsedPercent ≤ r'.memoryUsedPercent
  disk : ∀ free, r.diskFreeMb = some free → ∃ free', r'.diskFreeMb = some free' ∧ free' ≤ free

namespace Stage

theorem le_iff_rank {a b : Stage} : a ≤ b ↔ a.rank ≤ b.rank := Iff.rfl

theorem rank_max (a b : Stage) : (a.max b).rank = Max.max a.rank b.rank := by
  unfold Stage.max
  split <;> omega

theorem max_le_max {a a' b b' : Stage} (ha : a ≤ a') (hb : b ≤ b') : a.max b ≤ a'.max b' := by
  rw [le_iff_rank, rank_max, rank_max]
  rw [le_iff_rank] at ha hb
  omega

/-- The stage of a ladder of three tests, tried from the worst stage down. -/
def ladder (three two one : Bool) : Stage :=
  if three then .three else if two then .two else if one then .one else .none

/-- A ladder whose every test passes when another's does is at least as high. -/
theorem ladder_le_ladder {a₃ a₂ a₁ b₃ b₂ b₁ : Bool} (h₃ : a₃ → b₃) (h₂ : a₂ → b₂)
    (h₁ : a₁ → b₁) : ladder a₃ a₂ a₁ ≤ ladder b₃ b₂ b₁ := by
  revert h₃ h₂ h₁
  cases a₃ <;> cases a₂ <;> cases a₁ <;> cases b₃ <;> cases b₂ <;> cases b₁ <;> decide

end Stage

namespace MonitoringSettings

variable (m : MonitoringSettings)

theorem memoryStage_eq_ladder (used : Float) :
    m.memoryStage used = Stage.ladder (decide (m.memoryStageThree ≤ used))
      (decide (m.memoryStageTwo ≤ used)) (decide (m.memoryStageOne ≤ used)) := by
  simp only [memoryStage, Stage.ladder, ge_iff_le, decide_eq_true_eq]

theorem diskStage_eq_ladder (free : UInt64) :
    m.diskStage free = Stage.ladder (decide (free ≤ m.diskStageThree))
      (decide (free ≤ m.diskStageTwo)) (decide (free ≤ m.diskStageOne)) := by
  simp only [diskStage, Stage.ladder, decide_eq_true_eq]

/-- More memory used reaches every memory limit that less reaches. -/
theorem memoryStage_le {x y : Float} (h : x ≤ y) : m.memoryStage x ≤ m.memoryStage y := by
  have reach : ∀ lim : Float, decide (lim ≤ x) → decide (lim ≤ y) := fun lim hx => by
    simp only [decide_eq_true_eq] at hx ⊢
    exact Double.le_trans hx h
  rw [memoryStage_eq_ladder, memoryStage_eq_ladder]
  exact Stage.ladder_le_ladder (reach _) (reach _) (reach _)

/-- Less free disk reaches every disk limit that more reaches. -/
theorem diskStage_le {f f' : UInt64} (h : f' ≤ f) : m.diskStage f ≤ m.diskStage f' := by
  have reach : ∀ lim : UInt64, decide (f ≤ lim) → decide (f' ≤ lim) := fun lim hf => by
    simp only [decide_eq_true_eq] at hf ⊢
    exact UInt64.le_trans h hf
  rw [diskStage_eq_ladder, diskStage_eq_ladder]
  exact Stage.ladder_le_ladder (reach _) (reach _) (reach _)

theorem classify_disk_le {r r' : Reading} (h : r.SeverityLE r') :
    (m.classify r).disk ≤ (m.classify r').disk := by
  cases hr : r.diskFreeMb with
  | none =>
    -- an unknown free disk reaches no stage
    simp [classify, hr, Stage.le_iff_rank, Stage.rank]
  | some free =>
    obtain ⟨free', hr', hle⟩ := h.disk free hr
    simpa [classify, hr, hr'] using m.diskStage_le hle

/-- Classifying a more severe reading gives no lower stage, for memory, for disk and for the
higher of the two. -/
theorem classify_rises {r r' : Reading} (h : r.SeverityLE r') :
    (m.classify r).memory ≤ (m.classify r').memory ∧ (m.classify r).disk ≤ (m.classify r').disk ∧
      (m.classify r).highest ≤ (m.classify r').highest := by
  have hmem : (m.classify r).memory ≤ (m.classify r').memory := m.memoryStage_le h.memory
  have hdisk := m.classify_disk_le h
  exact ⟨hmem, hdisk, Stage.max_le_max hmem hdisk⟩

end MonitoringSettings

namespace Thresholds

/-- Each stage sheds at least the priorities the stage below it sheds. -/
def Ascending (t : Thresholds) : Prop := t.stageOne ≤ t.stageTwo ∧ t.stageTwo ≤ t.stageThree

instance (t : Thresholds) : Decidable t.Ascending := inferInstanceAs (Decidable (_ ∧ _))

/-- With ascending thresholds a higher stage has a threshold at least as high. -/
theorem forStage_le {t : Thresholds} (ht : t.Ascending) {st st' : Stage} (hle : st ≤ st')
    {θ : Int} (hθ : t.forStage st = some θ) : ∃ θ', t.forStage st' = some θ' ∧ θ ≤ θ' := by
  obtain ⟨h₁₂, h₂₃⟩ := ht
  rw [Stage.le_iff_rank] at hle
  cases st <;> cases st' <;> simp_all [forStage, Stage.rank]
  -- from the first stage to the third, through the second
  omega

/-- With ascending thresholds a service shed at a stage is shed at every higher stage. -/
theorem shouldShed_rises {t : Thresholds} (ht : t.Ascending) {st st' : Stage} (hle : st ≤ st')
    {p : Int} (h : t.shouldShed st p = true) : t.shouldShed st' p = true := by
  unfold shouldShed at h ⊢
  split at h
  · cases h
  · rename_i hp
    rw [if_neg hp]
    cases hθ : t.forStage st with
    | none => simp [hθ] at h
    | some θ =>
      obtain ⟨θ', hθ', hle'⟩ := forStage_le ht hle hθ
      simp only [hθ, decide_eq_true_eq] at h
      simp only [hθ', decide_eq_true_eq]
      omega

end Thresholds

/-- For every settings and every two readings, the more severe one is classified at no lower
stage, for memory, for disk and overall; and when the shutdown thresholds ascend, a service
shed under the less severe reading is shed under the more severe one. -/
theorem stages_rise_with_pressure (m : MonitoringSettings) {r r' : Reading} (h : r.SeverityLE r') :
    (m.classify r).memory ≤ (m.classify r').memory ∧ (m.classify r).disk ≤ (m.classify r').disk ∧
      (m.classify r).highest ≤ (m.classify r').highest ∧
      (m.thresholds.Ascending → ∀ p : Int,
        m.thresholds.shouldShed (m.classify r).highest p = true →
          m.thresholds.shouldShed (m.classify r').highest p = true) := by
  obtain ⟨hmem, hdisk, hhigh⟩ := m.classify_rises h
  exact ⟨hmem, hdisk, hhigh, fun ht _ hshed => Thresholds.shouldShed_rises ht hhigh hshed⟩

/-- With the default settings, 75% memory and no disk figure is at most as severe as 80% memory
and 150 MB free; a priority-1 service, shed under the first, is shed under the second. -/
theorem stages_rise_with_pressure_defaults :
    (⟨75.0, none⟩ : Reading).SeverityLE ⟨80.0, some 150⟩ ∧
      ({} : MonitoringSettings).thresholds.Ascending ∧
      ({} : MonitoringSettings).thresholds.shouldShed
        (({} : MonitoringSettings).classify ⟨80.0, some 150⟩).highest 1 = true := by
  have hsev : (⟨75.0, none⟩ : Reading).SeverityLE ⟨80.0, some 150⟩ :=
    ⟨by decide, fun _ h => by cases h⟩
  have hasc : ({} : MonitoringSettings).thresholds.Ascending := by decide
  refine ⟨hsev, hasc, (stages_rise_with_pressure {} hsev).2.2.2 hasc 1 (by decide)⟩

/-- Settings that shed priorities up to 5 at the first stage and up to 1 at the second pass the
settings check, yet a priority-3 service shed at 75% memory is kept at 85%. -/
theorem shedding_falls_at_second_stage :
    ({ monitoring := { shutdownOne := 5, shutdownTwo := 1 } } : Settings).validate = .ok () ∧
      (⟨75.0, none⟩ : Reading).SeverityLE ⟨85.0, none⟩ ∧
      ({ shutdownOne := 5, shutdownTwo := 1 } : MonitoringSettings).thresholds.shouldShed
        (({ shutdownOne := 5, shutdownTwo := 1 } : MonitoringSettings).classify ⟨75.0, none⟩).highest
        3 = true ∧
      ({ shutdownOne := 5, shutdownTwo := 1 } : MonitoringSettings).thresholds.shouldShed
        (({ shutdownOne := 5, shutdownTwo := 1 } : MonitoringSettings).classify ⟨85.0, none⟩).highest
        3 = false :=
  ⟨by decide, ⟨by decide, fun _ h => by cases h⟩, by decide, by decide⟩

end ScaleControl
