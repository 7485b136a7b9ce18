/-!
# Services, instances and scaling actions

A service is described by its scaling bounds, its control interval and how long it backs
off after a change. The platform reports a snapshot of its instances: running, starting
(staging) and registered, with the priority at which it is shut down under resource
pressure (`-1` opts out). A scaling action asks for a number of instances more or fewer.
Instance counts are 32-bit words; sums of them saturate.
-/
namespace ScaleControl

/-- Adds two counts, saturating at the largest 32-bit word. -/
def satAdd (a b : UInt32) : UInt32 :=
  if a.toNat + b.toNat < Nat.pow 2 32 then a + b else 4294967295

/-- Subtracts two counts, stopping at zero. -/
def satSub (a b : UInt32) : UInt32 :=
  if b ≤ a then a - b else 0

/-- A count as a double (exactly). -/
def countToDouble (n : UInt32) : Float := n.toUInt64.toFloat

/-- A 64-bit number as the nearest double. -/
def wordToDouble (n : UInt64) : Float := n.toFloat

/-- The direction of a scaling action. -/
inductive Operation where
  | none
  | scaleUp
  | scaleDown
  deriving DecidableEq

/-- The name of an operation. -/
def Operation.name : Operation → String
  | .none => "none"
  | .scaleUp => "scale_up"
  | .scaleDown => "scale_down"

/-- A request for `amount` instances more, fewer, or none. -/
structure Action where
  operation : Operation
  amount : UInt32
  deriving DecidableEq

namespace Action

/-- Leave the service as it is. -/
def noAction : Action := ⟨.none, 0⟩

/-- Ask for `n` more instances. -/
def up (n : UInt32) : Action := ⟨.scaleUp, n⟩

/-- Ask for `n` fewer instances. -/
def down (n : UInt32) : Action := ⟨.scaleDown, n⟩

/-- Whether carrying out the action changes nothing. -/
def isNoOp (a : Action) : Bool := a.operation = .none || a.amount = 0

/-- The action in words: `scale_up by 3`. -/
def display (a : Action) : String := a.operation.name ++ " by " ++ toString a.amount

end Action

/-- How a service is scaled. -/
structure Descriptor where
  id : String
  intervalSecs : UInt64
  minInstances : UInt32
  maxInstances : UInt32
  /-- Ticks skipped after a change, unless the operation has its own amount. -/
  backoffAmount : UInt32
  scaleUpBackoff : Option UInt32
  scaleDownBackoff : Option UInt32
  workloadMetric : String
  scalingTarget : String
  scalingProfile : Option String
  deriving DecidableEq

/-- Ticks to skip after `op`: the operation's own amount when set, else the common one. -/
def Descriptor.backoffLimit (d : Descriptor) : Operation → UInt32
  | .scaleUp => d.scaleUpBackoff.getD d.backoffAmount
  | .scaleDown => d.scaleDownBackoff.getD d.backoffAmount
  | .none => d.backoffAmount

/-- The shutdown priority that opts a service out of shedding. -/
def optOutPriority : Int := -1

/-- The instances of a service as the platform reports them. -/
structure Snapshot where
  running : UInt32
  staging : UInt32
  registered : UInt32
  priority : Int
  deriving DecidableEq

namespace Snapshot

/-- Running and starting instances together. -/
def total (s : Snapshot) : UInt32 := satAdd s.running s.staging

/-- Whether the service is never shed. -/
def optedOut (s : Snapshot) : Bool := s.priority = optOutPriority

/-- Whether every registered instance is running or starting. -/
def converged (s : Snapshot) : Bool := s.registered ≤ s.total

end Snapshot

/-- How far a resource is past its limits. -/
inductive Stage where
  | none
  | one
  | two
  | three
  deriving DecidableEq

namespace Stage

/-- The stages in order of severity. -/
def rank : Stage → Nat
  | .none => 0
  | .one => 1
  | .two => 2
  | .three => 3

instance : LE Stage := ⟨fun a b => a.rank ≤ b.rank⟩

instance (a b : Stage) : Decidable (a ≤ b) := inferInstanceAs (Decidable (a.rank ≤ b.rank))

/-- The more severe of two stages. -/
def max (a b : Stage) : Stage := if a.rank ≤ b.rank then b else a

/-- The name of a stage in reports. -/
def label : Stage → String
  | .none => "no_stage"
  | .one => "stage_1"
  | .two => "stage_2"
  | .three => "stage_3"

end Stage

/-- The stages reached by memory and by disk. -/
structure Stages where
  memory : Stage
  disk : Stage
  deriving DecidableEq

/-- No limit reached. -/
def Stages.calm : Stages := ⟨.none, .none⟩

/-- The more severe of the two stages. -/
def Stages.highest (s : Stages) : Stage := s.memory.max s.disk

/-- A reading of the messaging platform's resources. -/
structure Reading where
  memoryUsedPercent : Float
  diskFreeMb : Option UInt64

end ScaleControl
