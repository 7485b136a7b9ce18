import ScaleControl.Service
import ScaleControl.Error
import ScaleControl.Keyed
/-!
# A simulated platform

The platform that scenarios scale holds, for each service in id order, its running,
starting (staging) and pending instances and its shutdown priority. A capacity, when set,
bounds the running and starting instances of all services together: pending instances are
started (promoted) in id order while there is room, whenever instances are added or read.

A scale-up adds pending instances; a scale-down removes instances, pending ones first, then
starting ones, then running ones. Each of the three commands can be set to fail, and every
command is logged, failed ones too.
-/
namespace ScaleControl

/-- The platform's record of one service. -/
structure Deployment where
  running : UInt32 := 0
  staging : UInt32 := 0
  pending : UInt32 := 0
  priority : Int := 0

/-- A command sent to the platform. -/
inductive PlatformCall where
  | info (service : String)
  | scaleUp (service : String) (amount : UInt32)
  | scaleDown (service : String) (amount : UInt32)

namespace PlatformCall

/-- The service a command is about. -/
def service : PlatformCall → String
  | .info s => s
  | .scaleUp s _ => s
  | .scaleDown s _ => s

/-- The command without its service: `info`, `scale_up 2`, `scale_down 1`. -/
def verb : PlatformCall → String
  | .info _ => "info"
  | .scaleUp _ n => "scale_up " ++ toString n
  | .scaleDown _ n => "scale_down " ++ toString n

/-- The command with its service: `info svc`, `scale_up svc 2`. -/
def text : PlatformCall → String
  | .info s => "info " ++ s
  | .scaleUp s n => "scale_up " ++ s ++ " " ++ toString n
  | .scaleDown s n => "scale_down " ++ s ++ " " ++ toString n

end PlatformCall

/-- The simulated platform. -/
structure Platform where
  /-- The services' records, in id order. -/
  deployments : Keyed Deployment := []
  capacity : Option UInt32 := none
  failReads : Bool := false
  failScaleUp : Bool := false
  failScaleDown : Bool := false
  /-- Every command so far, oldest first. -/
  log : List PlatformCall := []

/-- Sets the record of `id`, keeping the records in id order. -/
def placeDeployment (id : String) (d : Deployment) : Keyed Deployment → Keyed Deployment
  | [] => [(id, d)]
  | (k, e) :: rest =>
    if k = id then (id, d) :: rest
    else if id < k then (id, d) :: (k, e) :: rest
    else (k, e) :: placeDeployment id d rest

namespace Platform

/-- Replaces the record of a service. -/
def place (p : Platform) (id : String) (d : Deployment) : Platform :=
  { p with deployments := placeDeployment id d p.deployments }

/-- Forgets a service. -/
def forget (p : Platform) (id : String) : Platform :=
  { p with deployments := p.deployments.erase id }

/-- The record of a service, an empty one when it has none. -/
def deployment (p : Platform) (id : String) : Deployment := (p.deployments.get? id).getD {}

/-- Starts pending instances in id order while the capacity leaves room. -/
def promote (p : Platform) : Platform :=
  let used := p.deployments.foldl (fun acc (_, d) => acc + d.running.toNat + d.staging.toNat) 0
  let start := fun (acc : Option Nat × Keyed Deployment) (entry : String × Deployment) =>
    let (free, done) := acc
    let (id, d) := entry
    let started := match free with
      | some f => min d.pending.toNat f
      | none => d.pending.toNat
    let d := { d with pending := d.pending - started.toUInt32,
                      running := satAdd d.running started.toUInt32 }
    (free.map (· - started), done ++ [(id, d)])
  let free := p.capacity.map fun c => c.toNat - used
  { p with deployments := (p.deployments.foldl start (free, [])).2 }

/-- Logs a command. -/
def note (p : Platform) (c : PlatformCall) : Platform := { p with log := p.log ++ [c] }

/-- Asks for `n` more instances of a service. -/
def scaleUp (p : Platform) (id : String) (n : UInt32) : Platform × Outcome Unit :=
  let p := p.note (.scaleUp id n)
  if p.failScaleUp then (p, .error (.scaler "scale up rejected"))
  else
    let d := p.deployment id
    ((p.place id { d with pending := satAdd d.pending n }).promote, .ok ())

/-- Asks for `n` fewer instances of a service: pending ones go first, then starting ones,
then running ones. -/
def scaleDown (p : Platform) (id : String) (n : UInt32) : Platform × Outcome Unit :=
  let p := p.note (.scaleDown id n)
  if p.failScaleDown then (p, .error (.scaler "scale down rejected"))
  else
    let d := p.deployment id
    let fromPending := min d.pending n
    let rest := n - fromPending
    let fromStaging := min d.staging rest
    let d := { d with pending := d.pending - fromPending, staging := d.staging - fromStaging,
                      running := satSub d.running (rest - fromStaging) }
    (p.place id d, .ok ())

/-- The snapshot of a service, after starting what there is room for. -/
def info (p : Platform) (id : String) : Platform × Outcome Snapshot :=
  let p := p.note (.info id)
  if p.failReads then (p, .error (.scaler "platform unavailable"))
  else
    let p := p.promote
    match p.deployments.get? id with
    | some d =>
      (p, .ok ⟨d.running, d.staging, satAdd (satAdd d.running d.staging) d.pending, d.priority⟩)
    | none => (p, .error (.scaler ("unknown service " ++ id)))

end Platform

end ScaleControl
