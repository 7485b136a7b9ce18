import ScaleControl.Json.Value
import ScaleControl.Json.Text
import ScaleControl.Json.Print
import ScaleControl.Json.Decode
import ScaleControl.Decimal.Double
import ScaleControl.Decimal.Shortest
import ScaleControl.Decimal.Layout
import ScaleControl.Decimal.Fixed
import ScaleControl.Decimal.Reading
import ScaleControl.Error
import ScaleControl.Service
import ScaleControl.Settings
import ScaleControl.Keyed
import ScaleControl.Pressure
import ScaleControl.Backoff
import ScaleControl.Window
import ScaleControl.Convergence
import ScaleControl.Inventory
import ScaleControl.Health
import ScaleControl.Alerter
import ScaleControl.ReadingCache
import ScaleControl.Queue
import ScaleControl.Governor
import ScaleControl.Control.Program
import ScaleControl.Control.Tick
import ScaleControl.Control.Loop
import ScaleControl.Scenario.Probe
import ScaleControl.Scenario.Dispatchers
import ScaleControl.Scenario.Platform
import ScaleControl.Scenario.Analysers
import ScaleControl.Scenario.World
import ScaleControl.Scenario.Calls
import ScaleControl.Scenario.Drive
import ScaleControl.Wire.Basic
import ScaleControl.Wire.Codec
import ScaleControl.Wire.Parts
import ScaleControl.Wire.Services
import ScaleControl.Wire.GovernorSession
import ScaleControl.Wire.AnalyserSession
import ScaleControl.Wire.Scenario
import ScaleControl.Wire.ControllerSession
import ScaleControl.Wire.CoreSession
import ScaleControl.Wire.Request
import ScaleControl.Proofs.Runs
import ScaleControl.Proofs.Keyed
import ScaleControl.Proofs.DoubleRounding
import ScaleControl.Proofs.DoubleCounts
import ScaleControl.Proofs.NineTenths
import ScaleControl.Proofs.Arbitration
import ScaleControl.Proofs.TickEffects
import ScaleControl.Proofs.GovernorTables
import ScaleControl.Proofs.Scheduling
import ScaleControl.Proofs.Reconciliation
import ScaleControl.Proofs.RunLoop
import ScaleControl.Proofs.LoopInvariant
import ScaleControl.Proofs.ReconcilerRuns
import ScaleControl.Proofs.SchedulerHealth
import ScaleControl.Proofs.DoubleOrder
import ScaleControl.Proofs.Severity
import ScaleControl.Proofs.Answering
import ScaleControl.Proofs.RollingWindow
import ScaleControl.Proofs.QueueSampling
import ScaleControl.Proofs.Standby
import ScaleControl.Proofs.QueueBounds
import ScaleControl.Proofs.BackoffCount
import ScaleControl.Proofs.DonorChoice
import ScaleControl.Proofs.CapacityRequests
import ScaleControl.Proofs.ConvergenceWait
import ScaleControl.Proofs.BackoffEntry
import ScaleControl.Proofs.Throttling
import ScaleControl.Proofs.Staggering
import ScaleControl.Proofs.HealthStatus
import ScaleControl.Proofs.QueueArithmetic
