import ScaleControl.Scenario.World
import ScaleControl.Inventory
/-!
# Answering calls

How the world answers each call of a program, and the autoscaler's own work: refreshing
the inventory and reconciling the controllers with it.

Reconciling keeps the discovered descriptors that the inventory's validator accepts, cancels
and forgets the controllers of services that are gone, then schedules, in id order, a fresh
controller for every new service and every service whose descriptor changed, replacing the
old one. The first starts after the initial delay, and each next one a delay increment later;
the delays are whole seconds of at most 64 bits, and going past that crashes. A scheduled
controller is registered with the governor, with itself as the service's donor, and its run
loop is spawned. A service whose workload metric has no analyser factory is unregistered
instead.

While the autoscaler is not the active one, platform commands that change instances are
answered as done without being sent.
-/
namespace ScaleControl

namespace World

/-- The current resource reading, through the cache. -/
def currentReading (w : World) : World × Outcome Reading :=
  let (cache, probe, r) := w.cache.read w.probe w.clock
  ({ w with cache, probe }, r)

/-- The platform's snapshot of a service. -/
def instances (w : World) (service : String) : World × Outcome Snapshot :=
  let (platform, r) := w.platform.info service
  ({ w with platform }, r)

/-- Sends an alert through the alerter, keeping what was delivered. -/
def sendAlert (w : World) (category : Category) (message : String) : World × Outcome Bool :=
  let (alerter, r, delivered) := w.alerter.send w.dispatchers category w.clock message
  ({ w with alerter, alerts := w.alerts ++ delivered }, r)

/-- The analysis of controller `i`'s analyser. -/
def analyse (w : World) (i : Nat) (s : Snapshot) : World × Analysis :=
  match w.controllers[i]? with
  | none => (w, .action .noAction)
  | some c =>
    let (analyser, sources, r) := c.analyser.analyse s w.sources
    ({ w with sources, controllers := w.controllers.modify i fun c => { c with analyser } }, r)

/-- The text of an alert as controller `i`'s analyser words it. -/
def warning (w : World) (i : Nat) (category : Category) (figure : String) : String :=
  match w.controllers[i]? with
  | none => ""
  | some c => c.analyser.warning category figure

/-- Whether controller `i` backs off this tick; `none`, with nothing changed, when counting
the tick overflows. -/
def skipTick (w : World) (i : Nat) : World × Option Bool :=
  match w.controllers[i]? with
  | none => (w, some false)
  | some c =>
    match c.backoff.shouldSkip c.descriptor with
    | some (skip, backoff) =>
      ({ w with controllers := w.controllers.modify i fun c => { c with backoff } }, some skip)
    | none => (w, none)

/-- Starts controller `i`'s backoff. -/
def enterBackoff (w : World) (i : Nat) (op : Operation) : World :=
  { w with controllers := w.controllers.modify i fun c => { c with backoff := c.backoff.enter op } }

/-- Asks the platform for more instances, when active. -/
def scaleUp (w : World) (service : String) (n : UInt32) : World × Outcome Unit :=
  if !w.active then (w, .ok ())
  else
    let (platform, r) := w.platform.scaleUp service n
    ({ w with platform }, r)

/-- Asks the platform for fewer instances, when active. -/
def scaleDown (w : World) (service : String) (n : UInt32) : World × Outcome Unit :=
  if !w.active then (w, .ok ())
  else
    let (platform, r) := w.platform.scaleDown service n
    ({ w with platform }, r)

/-- The controller the governor picks to give up an instance for `service`. -/
def donor (w : World) (service : String) : Option ControllerRef :=
  (w.governor.pickDonor service).bind fun id => (w.governor.donors.get? id).bind w.controllerRef

/-- Stops the controller of a scheduled service and forgets it. -/
def unschedule (w : World) (id : String) : World :=
  match w.autoscaler.scheduled.get? id with
  | none => w
  | some s =>
    let w := match w.controllers[s.controller]? with
      | some c => w.cancel c.token
      | none => w
    { w with autoscaler := { w.autoscaler with scheduled := w.autoscaler.scheduled.erase id } }

/-- Schedules a controller for `d` that starts after `delaySecs` seconds, if an analyser
factory exists for its workload metric. -/
def schedule (w : World) (d : Descriptor) (delaySecs : Nat) : Option World :=
  (w.autoscaler.factories.get? d.workloadMetric).map fun f =>
    let analyser := f.analyser d.scalingTarget d.scalingProfile
    let w := { w with governor := w.governor.register d }
    let (w, i) := w.addController d analyser (some w.autoscaler.root)
    let w := { w with governor := w.governor.listen d.id i }
    let token := (w.controllers[i]?).elim 0 (·.token)
    let (w, job) := w.spawn (.run ⟨i, d.id, token⟩ (delaySecs * 1000) (d.intervalSecs.toNat * 1000) .starting)
    { w with autoscaler := { w.autoscaler with
      scheduled := w.autoscaler.scheduled.put d.id ⟨d, i, job⟩ } }

/-- The largest number of seconds a delay holds. -/
def delayLimitSecs : Nat := Nat.pow 2 64 - 1

/-- Schedules `ds` in order, each in place of the service's earlier controller, the first
after `delaySecs` and each next one an increment later. A descriptor whose workload metric has
no factory is unregistered instead and takes no delay. The world, and the crash message if a
delay overflows. -/
def scheduleAll (w : World) (delaySecs : Nat) : List Descriptor → World × Option String
  | [] => (w, none)
  | d :: rest =>
    let w := w.unschedule d.id
    match w.schedule d delaySecs with
    | none => scheduleAll { w with governor := w.governor.remove d.id } delaySecs rest
    | some w =>
      let next := delaySecs + w.autoscaler.delayIncrementSecs
      if next > delayLimitSecs then (w, some "overflow when adding durations")
      else scheduleAll w next rest

/-- Keeps the first of equal descriptors. -/
def distinctDescriptors (ds : List Descriptor) : List Descriptor :=
  ds.foldl (fun acc d => if acc.contains d then acc else acc ++ [d]) []

/-- The discovered descriptors the validator accepts, equal ones merged. -/
def accepted (w : World) (discovered : List Descriptor) : List Descriptor :=
  validated w.autoscaler.known (distinctDescriptors discovered)

/-- Stops, forgets and unregisters the scheduled services whose id none of `services` has. -/
def dropGone (w : World) (services : List Descriptor) : World :=
  let gone := (w.autoscaler.scheduled.map (·.1)).filter fun id => !services.any (·.id == id)
  gone.foldl (fun w id => { w.unschedule id with governor := w.governor.remove id }) w

/-- The services that are not scheduled with their descriptor. -/
def changed (w : World) (services : List Descriptor) : List Descriptor :=
  services.filter fun s =>
    match w.autoscaler.scheduled.get? s.id with
    | some current => current.descriptor != s
    | none => true

/-- Reconciles the controllers with the discovered descriptors: the world, and the crash
message if a delay overflows. -/
def reconcile (w : World) (discovered : List Descriptor) : World × Option String :=
  let services := w.accepted discovered
  let w := w.dropGone services
  w.scheduleAll w.autoscaler.initialDelaySecs
    ((w.changed services).mergeSort fun a b => decide (a.id ≤ b.id))

/-- Sets the health of a pushed component. -/
def setHealth (w : World) (name : String) (h : ComponentHealth) : World :=
  { w with autoscaler := { w.autoscaler with health := w.autoscaler.health.update name h } }

/-- The failure of an inventory that cannot be read. -/
def inventoryFailure : ScaleError := .telemetry "inventory unavailable"

/-- Reads the inventory and reconciles with it: the number of scheduled services or the
inventory's failure, or a crash message. A failure marks the refresh degraded. -/
def refresh (w : World) : World × Except String (Outcome Nat) :=
  if w.autoscaler.inventoryFails then
    let w := w.setHealth "refresh"
      ⟨.degraded, some ("Inventory refresh failed: " ++ inventoryFailure.message)⟩
    (w, .ok (.error inventoryFailure))
  else
    let w := w.setHealth "refresh" .healthy
    match w.reconcile w.autoscaler.inventory with
    | (w, some crash) => (w, .error crash)
    | (w, none) => (w, .ok (.ok w.autoscaler.scheduled.length))

/-- The scheduled services whose controller stopped without being cancelled, in id order. -/
def stoppedServices (w : World) : List String :=
  let stopped := w.autoscaler.scheduled.filter fun (_, s) =>
    w.jobEnded s.job &&
      match w.controllers[s.controller]? with
      | some c => !w.cancelled c.token
      | none => false
  (stopped.map (·.1)).mergeSort fun a b => decide (a ≤ b)

/-- What a reporter answers. -/
def report (w : World) : Reporter → ComponentHealth
  | .scheduler =>
    match w.stoppedServices with
    | [] => .healthy
    | ids => ⟨.unhealthy, some ("Scaling controllers have stopped running. The service must be " ++
        "restarted to continue scaling. Affected services: " ++ ", ".intercalate ids)⟩
  | _ => .healthy

/-- Answers a call. -/
def perform (w : World) : (c : Call) → World × c.Reply
  | .skipTick i => w.skipTick i
  | .reading => w.currentReading
  | .instances service => w.instances service
  | .warning i category figure => (w, w.warning i category figure)
  | .alert category message => w.sendAlert category message
  | .record service s => ({ w with governor := w.governor.record service s }, ())
  | .analyse i s => w.analyse i s
  | .govern service a stages =>
    let (governor, r) := w.governor.govern service a stages
    ({ w with governor }, r)
  | .scaleUp service n => w.scaleUp service n
  | .scaleDown service n => w.scaleDown service n
  | .enterBackoff i op => (w.enterBackoff i op, ())
  | .donor service => (w, w.donor service)
  | .refresh => w.refresh

end World

end ScaleControl
