import ScaleControl.Service
/-!
# Checking the inventory

A descriptor is scheduled only if it names a service and a scaling target, has an interval
of at least one second, a positive maximum at or above its minimum, and a workload metric
an analyser exists for. The first rule broken is the reason it is dropped.
-/
namespace ScaleControl

/-- Why a descriptor is dropped, if it is. -/
def Descriptor.violation (known : List String) (d : Descriptor) : Option String :=
  if d.id.isEmpty then some "empty service id"
  else if d.scalingTarget.isEmpty then some "empty scaling target"
  else if d.intervalSecs = 0 then some "interval must be at least 1 second"
  else if d.maxInstances = 0 then some "max instances must be at least 1"
  else if d.minInstances > d.maxInstances then
    some ("min instances " ++ toString d.minInstances ++ " exceeds max instances " ++
      toString d.maxInstances)
  else if !(known.contains d.workloadMetric) then
    some ("unknown workload metric '" ++ d.workloadMetric ++ "'")
  else none

/-- The descriptors that break no rule. -/
def validated (known : List String) (ds : List Descriptor) : List Descriptor :=
  ds.filter fun d => (d.violation known).isNone

end ScaleControl
