import ScaleControl.Service
import ScaleControl.Pressure
import ScaleControl.Keyed
/-!
# The governor

The governor arbitrates between services. It holds each registered service's descriptor,
the latest snapshot of its instances with the count the service last asked for (its
desired count), and which services can give up an instance on request (donors).

`govern` bounds a requested action by the service's minimum and maximum. A service above
its maximum is scaled down to it. A scale-up goes through only while every other service
meets its minimum (or is being shed at the current stage); otherwise a service above its
minimum gives back a tenth of its instances, never going below its minimum, so that the
others can start. `pickDonor` names the service to ask for room on behalf of a service
whose scale-up does not converge: among the services above their minimum, the one
furthest below its own desired count, if it is further below than the requester.
-/
namespace ScaleControl

/-- What the governor knows of a service's instances. -/
structure Record where
  snapshot : Snapshot
  desired : UInt32
  deriving DecidableEq

/-- Desired over current instances; infinite without instances. -/
def Record.relativeDifference (r : Record) : Float :=
  if r.snapshot.total = 0 then 1.0 / 0.0
  else countToDouble r.desired / countToDouble r.snapshot.total

/-- The instances a service asks for: the current total for no action, the running ones
plus or minus the amount otherwise (saturating). -/
def desiredInstances (s : Snapshot) (a : Action) : UInt32 :=
  match a.operation with
  | .none => s.total
  | .scaleUp => satAdd s.running a.amount
  | .scaleDown => satSub s.running a.amount

/-- Nine tenths of `total`: the count as a double times `0.9`, rounded down to a count. The
product is never negative, so the conversion, which truncates toward zero (and saturates),
takes its floor. -/
def nineTenths (total : UInt32) : UInt32 := (countToDouble total * 0.9).toUInt32

/-- Bounds `a` by `min` and `max` for a service with `total` instances. -/
def arbitrate (a : Action) (total min max : UInt32) (othersMet : Bool) : Action :=
  if total > max then .down (total - max)
  else match a.operation with
    | .none => if total < min then .up (min - total) else a
    | .scaleUp =>
      if othersMet then .up (if a.amount ≤ max - total then a.amount else max - total)
      else if total < min then .up (min - total)
      else if total = min then .noAction
      else
        let target := if min ≤ nineTenths total then nineTenths total else min
        .down (total - target)
    | .scaleDown =>
      if total = min then .noAction
      else if total < min then .up (min - total)
      else if a.amount > total - min then .down (total - min)
      else a

/-- The governor's state, with donor handles of type `η`. -/
structure Governor (η : Type) where
  thresholds : Thresholds
  configs : Keyed Descriptor := []
  records : Keyed Record := []
  /-- The handle through which each service can be asked to give up an instance. -/
  donors : Keyed η := []

namespace Governor

variable {η : Type}

/-- Registers (or replaces) a service's descriptor. -/
def register (g : Governor η) (d : Descriptor) : Governor η :=
  { g with configs := g.configs.put d.id d }

/-- Registers (or replaces) the donor handle of a service. -/
def listen (g : Governor η) (id : String) (h : η) : Governor η :=
  { g with donors := g.donors.put id h }

/-- Forgets everything about a service. -/
def remove (g : Governor η) (id : String) : Governor η :=
  { g with configs := g.configs.erase id, records := g.records.erase id,
           donors := g.donors.erase id }

/-- Whether a service is registered. -/
def isRegistered (g : Governor η) (id : String) : Bool := g.configs.contains id

/-- Keeps the latest snapshot of a registered service; the first one also sets the desired
count to its total. Snapshots of unregistered services are ignored. -/
def record (g : Governor η) (id : String) (s : Snapshot) : Governor η :=
  if !g.isRegistered id then g
  else match g.records.get? id with
    | some _ => { g with records := g.records.modify id fun r => { r with snapshot := s } }
    | none => { g with records := g.records.put id ⟨s, s.total⟩ }

/-- The relative difference of a service with a record. -/
def relativeDifference (g : Governor η) (id : String) : Option Float :=
  (g.records.get? id).map Record.relativeDifference

/-- Whether every registered service but `id` has a record and meets its minimum, or is
shed at `stage`. -/
def othersMeetMinimum (g : Governor η) (id : String) (stage : Stage) : Bool :=
  g.configs.all fun (other, d) =>
    other == id ||
      match g.records.get? other with
      | none => false
      | some r => !(r.snapshot.total < d.minInstances) ||
          g.thresholds.shouldShed stage r.snapshot.priority

/-- Arbitrates a request of `id`. An unregistered service is an error; a service without
a record gets its request back unchanged. Otherwise the desired count is set from the
request. -/
def govern (g : Governor η) (id : String) (a : Action) (stages : Stages) :
    Governor η × Outcome Action :=
  match g.configs.get? id with
  | none => (g, .error (.notRegistered id))
  | some d =>
    match g.records.get? id with
    | none => (g, .ok a)
    | some r =>
      let g' := { g with records := g.records.modify id fun r =>
        { r with desired := desiredInstances r.snapshot a } }
      let met := g'.othersMeetMinimum id stages.highest
      (g', .ok (arbitrate a r.snapshot.total d.minInstances d.maxInstances met))

/-- The donor for a service in need of room: the service with a record, above its
minimum, whose relative difference is the least and below the requester's. -/
def pickDonor (g : Governor η) (id : String) : Option String :=
  match g.relativeDifference id with
  | none => none
  | some mine =>
    let candidates := g.records.filter fun (other, r) =>
      other != id && r.relativeDifference < mine &&
        match g.configs.get? other with
        | some d => d.minInstances < r.snapshot.total
        | none => false
    let best := candidates.foldl (fun acc (other, r) =>
      match acc with
      | some (_, q) => if r.relativeDifference < q then some (other, r.relativeDifference) else acc
      | none => some (other, r.relativeDifference)) none
    best.map (·.1)

end Governor

end ScaleControl
