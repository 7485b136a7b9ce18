import ScaleControl.Wire.Services
import ScaleControl.Wire.GovernorSession
import ScaleControl.Wire.AnalyserSession
import ScaleControl.Wire.CoreSession
import ScaleControl.Json.Text
import ScaleControl.Json.Print
/-!
# Answering a request

A request is one line of wire text naming its operation in the field `op`; the answer is
one line of wire text. A whole-line failure answers with its own object.
-/
namespace ScaleControl.Wire

/-- The answer to a decoded request. -/
def answer (req : Json) : Answer Json := do
  match ← textOf req "op" with
  | "models" => modelsAnswer req
  | "descriptor" => descriptorAnswer req
  | "window" => windowAnswer req
  | "backoff" => backoffAnswer req
  | "should_shed" => shouldShedAnswer req
  | "classify" => classifyAnswer req
  | "convergence" => convergenceAnswer req
  | "profile" => profileAnswer req
  | "settings" => settingsAnswer req
  | "validate_descriptors" => validateAnswer req
  | "health" => healthAnswer req
  | "alerter" => alerterAnswer req
  | "monitor" => monitorAnswer req
  | "governor" => governorAnswer req
  | "analyser" => analyserAnswer req
  | "controller" => controllerAnswer req
  | "core" => coreAnswer req
  | other => .error (.badInput ("unknown op '" ++ other ++ "'"))

/-- The answer to one line of request text. -/
def respond (line : String) : String :=
  match Json.parse line with
  | .error e => Json.render (Failure.badInput ("invalid request: " ++ e)).toJson
  | .ok req =>
    match answer req with
    | .ok j => Json.render j
    | .error f => Json.render f.toJson

end ScaleControl.Wire
