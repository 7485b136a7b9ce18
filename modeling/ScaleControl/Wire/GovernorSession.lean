import ScaleControl.Wire.Parts
import ScaleControl.Governor
/-!
# Governor requests

A governor driven step by step, with donors held by the request: a donor gives up the
instances it is asked for, or refuses when set to fail, and a dropped donor no longer
answers.
-/
namespace ScaleControl.Wire

/-- A donor held by the request: how many instances it gave up, and whether it refuses. -/
structure HeldDonor where
  released : Nat := 0
  fails : Bool := false

/-- A governor with the donors the request holds. -/
structure GovernorBench where
  governor : Governor Unit
  held : Keyed HeldDonor := []

/-- Asks the governor for room on behalf of `id`: whether a donor gave up an instance. -/
def GovernorBench.freeUp (b : GovernorBench) (id : String) : GovernorBench × Bool :=
  match b.governor.pickDonor id with
  | none => (b, false)
  | some donor =>
    if !b.governor.donors.contains donor then (b, false)
    else match b.held.get? donor with
      | none => (b, false)
      | some h =>
        if h.fails then (b, false)
        else ({ b with held := b.held.put donor { h with released := h.released + 1 } }, true)

/-- One governor step and its answer. -/
def governorStep (b : GovernorBench) (st : Json) : Answer (GovernorBench × Json) := do
  let g := b.governor
  match ← stepName st with
  | "register" =>
    match descriptorDecoder (st.field "service") with
    | .ok d => return ({ b with governor := g.register d }, .null)
    | .error e => return (b, (Failure.decode e).toJson)
  | "record" =>
    let s ← decodeAs snapshotDecoder (← need st "snapshot")
    return ({ b with governor := g.record (← textOf st "id") s }, .null)
  | "govern" =>
    let a ← decodeAs actionDecoder (← need st "action")
    let stages ← match st.field? "stages" with
      | some .null | none => pure Stages.calm
      | some v => decodeAs stagesDecoder v
    let (g, r) := g.govern (← textOf st "id") a stages
    return ({ b with governor := g }, outcomeJson (fun a => .obj [("action", actionJson a)]) r)
  | "remove" => return ({ b with governor := g.remove (← textOf st "id") }, .null)
  | "is_registered" => return (b, .bool (g.isRegistered (← textOf st "id")))
  | "relative_difference" =>
    return (b, Json.ofOption Json.ofFloat (g.relativeDifference (← textOf st "id")))
  | "listen" =>
    let id ← textOf st "id"
    let fails := (← optionalAs Decoder.bool st "fail").getD false
    return ({ governor := g.listen id (), held := b.held.put id { fails } }, .null)
  | "drop_listener" =>
    return ({ b with held := b.held.erase (← textOf st "id") }, .null)
  | "free_up" =>
    let (b, freed) := b.freeUp (← textOf st "id")
    return (b, .obj [("freed", .bool freed),
      ("released", .obj (b.held.map fun (id, h) => (id, Json.ofNat h.released)))])
  | other => unknownStep other

/-- The `governor` request. -/
def governorAnswer (req : Json) : Answer Json := do
  let t ← thresholdsOf req
  return results (← runSteps (← itemsOf req "steps") ({ governor := { thresholds := t } } : GovernorBench) governorStep)

end ScaleControl.Wire
