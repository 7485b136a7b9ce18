import ScaleControl.Service
import ScaleControl.Settings
/-!
# Resource pressure

A reading of the messaging platform is classified into a stage for memory (more used is
worse) and one for disk (less free is worse). Each stage sheds the services whose shutdown
priority is at most the stage's threshold; priority `-1` is never shed, and below the
first stage nothing is. Alerts are due once memory use reaches, or free disk falls to, the
alert thresholds.
-/
namespace ScaleControl

/-- The highest shutdown priority each stage sheds. -/
structure Thresholds where
  stageOne : Int := 1
  stageTwo : Int := 3
  stageThree : Int := 5

namespace Thresholds

/-- The threshold of a stage; none below the first stage. -/
def forStage (t : Thresholds) : Stage → Option Int
  | .none => none
  | .one => some t.stageOne
  | .two => some t.stageTwo
  | .three => some t.stageThree

/-- Whether a service of shutdown priority `p` is shed at `stage`. -/
def shouldShed (t : Thresholds) (stage : Stage) (p : Int) : Bool :=
  if p = optOutPriority then false
  else match t.forStage stage with
    | some threshold => decide (p ≤ threshold)
    | none => false

end Thresholds

/-- The thresholds of the settings. -/
def MonitoringSettings.thresholds (m : MonitoringSettings) : Thresholds :=
  ⟨m.shutdownOne, m.shutdownTwo, m.shutdownThree⟩

/-- The memory stage of a used percentage: the highest limit it reaches. A percentage
that is not a number reaches none. -/
def MonitoringSettings.memoryStage (m : MonitoringSettings) (used : Float) : Stage :=
  if used ≥ m.memoryStageThree then .three
  else if used ≥ m.memoryStageTwo then .two
  else if used ≥ m.memoryStageOne then .one
  else .none

/-- The disk stage of the free megabytes: the lowest limit it is at or below. -/
def MonitoringSettings.diskStage (m : MonitoringSettings) (free : UInt64) : Stage :=
  if free ≤ m.diskStageThree then .three
  else if free ≤ m.diskStageTwo then .two
  else if free ≤ m.diskStageOne then .one
  else .none

/-- The stages a reading reaches; an unknown free disk reaches none. -/
def MonitoringSettings.classify (m : MonitoringSettings) (r : Reading) : Stages :=
  ⟨m.memoryStage r.memoryUsedPercent, (r.diskFreeMb.map m.diskStage).getD .none⟩

/-- Whether a memory alert is due. -/
def MonitoringSettings.memoryAlertDue (m : MonitoringSettings) (r : Reading) : Bool :=
  r.memoryUsedPercent ≥ m.memoryAlert

/-- Whether a disk alert is due. -/
def MonitoringSettings.diskAlertDue (m : MonitoringSettings) (r : Reading) : Bool :=
  match r.diskFreeMb with
  | some free => free ≤ m.diskAlert
  | none => false

end ScaleControl
