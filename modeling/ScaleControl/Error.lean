/-!
# Errors

Everything that can stop a scaling step, by cause. Each cause has a kind, a short label, and
a message; only an internal error is unrecoverable: it stops the control loop that met it,
while every other error only ends the current step.
-/
namespace ScaleControl

/-- Why a scaling step failed. -/
inductive ScaleError where
  /-- The platform refused or could not be reached. -/
  | scaler (detail : String)
  /-- Workload or resource telemetry could not be read. -/
  | telemetry (detail : String)
  /-- The queue behind a service does not exist. -/
  | queueNotFound (queue : String)
  /-- A wait of the named service was cancelled. -/
  | interrupted (service : String)
  /-- A scale-up did not converge and no other service gave up room. -/
  | insufficientCapacity (service : String)
  /-- The named service has no scaling configuration. -/
  | notRegistered (service : String)
  /-- No workload analyser exists for the metric a service asks for. -/
  | unknownWorkloadMetric (service metric : String)
  /-- The settings cannot be used. -/
  | config (detail : String)
  /-- An alert could not be delivered. -/
  | dispatch (detail : String)
  /-- A defect: the loop that meets it stops for good. -/
  | internal (detail : String)
  deriving DecidableEq

namespace ScaleError

/-- The short label of the cause. -/
def kind : ScaleError → String
  | .scaler _ => "scaler"
  | .telemetry _ => "telemetry"
  | .queueNotFound _ => "queue_not_found"
  | .interrupted _ => "interrupted"
  | .insufficientCapacity _ => "insufficient_capacity"
  | .notRegistered _ => "not_registered"
  | .unknownWorkloadMetric _ _ => "unknown_workload_metric"
  | .config _ => "config"
  | .dispatch _ => "dispatch"
  | .internal _ => "internal"

/-- The message of the error. -/
def message : ScaleError → String
  | .scaler d => "scaler error: " ++ d
  | .telemetry d => "telemetry unavailable: " ++ d
  | .queueNotFound q => "queue not found: " ++ q
  | .interrupted s => "interrupted while waiting for service " ++ s
  | .insufficientCapacity s => "unable to make room for service " ++ s ++ " on the platform"
  | .notRegistered s => "scaling configuration not found for " ++ s
  | .unknownWorkloadMetric s m => "invalid workload metric " ++ m ++ " for service " ++ s
  | .config d => "configuration error: " ++ d
  | .dispatch d => "alert dispatch failed: " ++ d
  | .internal d => "internal error: " ++ d

/-- Whether the error only ends the current step. -/
def recoverable : ScaleError → Bool
  | .internal _ => false
  | _ => true

end ScaleError

/-- A result that may fail with a scaling error. -/
abbrev Outcome (α : Type) := Except ScaleError α

end ScaleControl
