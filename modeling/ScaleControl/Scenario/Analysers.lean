import ScaleControl.Queue
import ScaleControl.Alerter
/-!
# Analysers of a scenario

A scenario's services are analysed by a scripted analyser, which answers its script and
then asks for nothing forever; by a fixed analyser, which always answers the same action;
by a broken one, which always fails; or by a real queue analyser reading scripted queue
telemetry. The telemetry of a queue source is two scripts, one for the target queue and
one for the staging queues: each reading takes the script's next entry, and the last entry
repeats forever. An empty script reads as an idle queue and no staging queues.

The scripted, fixed and broken analysers word their alerts shortly, as `memory at 91.00%`
and `disk at 50.00 MB`; the queue analyser writes a letter.
-/
namespace ScaleControl

/-- Scripted telemetry of queues. -/
structure QueueSource where
  queue : List (Outcome QueueStats) := []
  staging : List (Outcome (List StagingStats)) := []

namespace QueueSource

/-- The entry a script answers next, `idle` for an empty script. -/
def upcoming {α : Type} (script : List α) (idle : α) : α := script.headD idle

/-- The script once its next entry is read: the last entry stays. -/
def consumed {α : Type} : List α → List α
  | [] => []
  | [x] => [x]
  | _ :: rest => rest

/-- What the telemetry would answer now. -/
def telemetry (s : QueueSource) : Telemetry :=
  ⟨upcoming s.queue (.ok ⟨0, 0.0, 0.0⟩), upcoming s.staging (.ok [])⟩

/-- The source after the readings an analysis made. -/
def after (s : QueueSource) (asked : Asked) : QueueSource :=
  { queue := if asked.queue then consumed s.queue else s.queue
    staging := if asked.staging.isSome then consumed s.staging else s.staging }

end QueueSource

/-- The analyser of one service in a scenario. -/
inductive Analyser where
  /-- Answers the remaining script, then no action. -/
  | scripted (script : List (Outcome Action))
  /-- Always answers the same action. -/
  | fixed (action : Action)
  /-- Always fails. -/
  | broken
  /-- A queue analyser reading source number `source`. -/
  | queue (a : QueueAnalyser) (source : Nat)

namespace Analyser

/-- The error of a broken analyser. -/
def corrupted : ScaleError := .internal "analyser state corrupted"

/-- The text of an alert of `category` about `figure` (a percentage or megabytes). -/
def warning : Analyser → Category → String → String
  | .queue a _, .memoryOverload, figure => a.memoryWarning figure
  | .queue a _, .diskSpaceLow, figure => a.diskWarning figure
  | _, .memoryOverload, figure => "memory at " ++ figure ++ "%"
  | _, .diskSpaceLow, figure => "disk at " ++ figure ++ " MB"

/-- One analysis of the instances `s`, with the queue sources of the scenario. -/
def analyse (an : Analyser) (s : Snapshot) (sources : Array QueueSource) :
    Analyser × Array QueueSource × Analysis :=
  match an with
  | .scripted [] => (an, sources, .action .noAction)
  | .scripted (.ok a :: rest) => (.scripted rest, sources, .action a)
  | .scripted (.error e :: rest) => (.scripted rest, sources, .failed e)
  | .fixed a => (an, sources, .action a)
  | .broken => (an, sources, .failed corrupted)
  | .queue a source =>
    let src := sources.getD source {}
    let (a, result, asked) := a.analyse s src.telemetry
    (.queue a source, sources.modify source (·.after asked), result)

end Analyser

end ScaleControl
