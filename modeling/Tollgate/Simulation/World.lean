import Tollgate.Coordination.PullCycle
import Tollgate.Simulation.Action

/-!
# Simulated nodes

A node with its registry and its coordinators, whose collaborators follow scripts, and with the
clocks that the registry and the buckets read. `perform` does one action; it takes no time.

Calls in progress and loops of tasks are *activities*. Here they are only begun; how they are carried
on is said in `Simulation.Activity`, whose `World.timeline` puts them in time.
-/

namespace Tollgate.Simulation

/-- A coordinator with its script and the actions that its next calls set off. -/
structure Station where
  name : String
  coordinator : Coordinator
  script : Script := {}
  hooks : List (CallKind × List (Target × Action)) := []

/-- Who carries an activity on. -/
inductive Role where
  /-- A loop of a task, over and over. -/
  | loop (kind : CycleKind) (loop : Nat)
  /-- Somebody who waits for the result. -/
  | caller
deriving DecidableEq, Repr, Inhabited

/-- What somebody is at. -/
inductive Stage where
  /-- Between runs of a task. -/
  | resting
  /-- About to ask for the lane of a cycle. -/
  | entering (kind : CycleKind)
  /-- Waiting for the lane. -/
  | queued (kind : CycleKind)
  /-- In a call of a pull cycle that returns at a moment. -/
  | pulling (cycle : PullCycle) (returnsAt : Nat)
  /-- In a call of a push cycle that returns at a moment. -/
  | pushing (cycle : PushCycle) (returnsAt : Nat)
  /-- Waiting for a task to stop. -/
  | stopping (cycle : StopCycle)
deriving DecidableEq, Repr

/-- Something that goes on at a station. -/
structure Activity where
  id : Nat
  station : Nat
  role : Role
  stage : Stage
deriving DecidableEq, Repr

/-- A call that was made, with the answers of the actions that it set off. -/
structure LogEntry where
  now : Nat
  coordinator : String
  scope : String
  call : Call
  hook : Option (List Answer)

/-- A simulated node. -/
structure World where
  registry : Registry := {}
  /-- The clock that actions set. -/
  clock : Timestamp := ⟨0⟩
  /-- The moment that the registry reads instead of the clock, if there is one. -/
  fixedTime : Option Timestamp := none
  bucketClock : Nat := 0
  held : Table String Nat := .empty
  leases : Table String Lease := .empty
  stations : Table Nat Station := .empty
  stationNames : Table String Nat := .empty
  nextStation : Nat := 0
  /-- Activities; whoever was busy last comes last. -/
  activities : List Activity := []
  nextActivity : Nat := 0
  /-- The results of callers, by activity. -/
  results : Table Nat Answer := .empty
  lastDrain : List TrafficEntry := []
  /-- The buckets in answers so far, each by activation and serial number. -/
  bucketsSeen : List (Nat × Nat) := []
  log : List LogEntry := []

namespace World

/-- The wall clock of the registry. -/
def now (world : World) : Timestamp := world.fixedTime.getD world.clock

/-- The activation that a target means. -/
def resolve (world : World) (target : Target) : Except Error Nat :=
  match target.via with
  | none => world.registry.find target.scope
  | some label =>
    match world.held.get? label with
    | some activation => .ok activation
    | none => .error (.unknownScope label)

/-- Does something with the activation of a target, or answers the error that there is none. -/
def onTarget (world : World) (target : Target) (f : Nat → Answer × World) : Answer × World :=
  match world.resolve target with
  | .ok activation => f activation
  | .error e => (.error e, world)

/-- Answers from the state of a target. -/
def ask (world : World) (target : Target) (f : Scope → Answer) : Answer × World :=
  world.onTarget target fun activation => (f (world.registry.scope activation), world)

/-- Changes the state of a target and answers from it. -/
def change {α : Type} (world : World) (target : Target) (f : Scope → α × Scope)
    (encode : α → Answer) : Answer × World :=
  world.onTarget target fun activation =>
    let (answer, registry) := world.registry.run activation f
    (encode answer, { world with registry })

/-- Changes the state of a target. -/
def update (world : World) (target : Target) (f : Scope → Scope) : Answer × World :=
  world.change target (fun scope => ((), f scope)) fun _ => .nothing

/-- Numbers the bucket of an answer: buckets are numbered as they first appear. -/
def numberBucket (world : World) (activation : Nat) : Option IssuedBucket → Answer × World
  | none => (.bucket none, world)
  | some issued =>
    let name := (activation, issued.serial)
    let seen := if name ∈ world.bucketsSeen then world.bucketsSeen else world.bucketsSeen ++ [name]
    (.bucket (some (seen.idxOf name, issued.bucket)), { world with bucketsSeen := seen })

/-- Asks for the bucket of a user. -/
def getBucket (world : World) (activation : Nat) (user : UInt64) : Answer × World :=
  let (issued, registry) := world.registry.run activation (·.getBucket user world.now)
  { world with registry }.numberBucket activation issued

/-- Uses the bucket of a user, if the user is limited. -/
def useBucket (world : World) (target : Target) (user : UInt64)
    (f : TokenBucket → Answer × TokenBucket × Nat) : Answer × World :=
  world.onTarget target fun activation =>
    let (issued, registry) := world.registry.run activation (·.getBucket user world.now)
    match issued with
    | none => (.nothing, { world with registry })
    | some issued =>
      let (answer, bucket, bucketClock) := f issued.bucket
      let registry := registry.modify activation (·.updateBucket user { issued with bucket })
      (answer, { world with registry, bucketClock })

/-- Activates a scope, and holds its state under a label. -/
def activate (world : World) (scope : String) (config : ScopeConfig) (hold : Option String) :
    Answer × World :=
  match world.registry.activate scope config with
  | (.error e, registry) => (.error e, { world with registry })
  | (.ok activation, registry) =>
    let held := (hold.map (world.held.insert · activation)).getD world.held
    (.activated scope, { world with registry, held })

/-- Acquires a lease under a label. A lease that was there is dropped once the new one is granted. -/
def acquire (world : World) (target : Target) (user : UInt64) (ip : IpAddr) (label : String) :
    Answer × World :=
  world.onTarget target fun activation =>
    match world.registry.acquire activation user ip with
    | (.error e, registry) => (.error e, { world with registry })
    | (.ok none, registry) => (.noLease, { world with registry })
    | (.ok (some lease), registry) =>
      let registry := ((world.leases.get? label).map registry.drop).getD registry
      (.lease user ip, { world with registry, leases := world.leases.insert label lease })

/-- Drops the lease under a label, and says whether there was one. -/
def dropLease (world : World) (label : String) : Answer × World :=
  match world.leases.get? label with
  | none => (.flag false, world)
  | some lease =>
    (.flag true, { world with
      registry := world.registry.drop lease
      leases := world.leases.erase label })

/-- The entries that an action is about: those given, for the users of the scope, or else those of
the last drain. -/
def entriesFor (world : World) (scope : Scope) (given : Option (List UserTraffic)) :
    List TrafficEntry :=
  match given with
  | none => world.lastDrain
  | some traffic => traffic.map fun t => (scope.key t.userId, t)

/-- Takes the traffic of a scope out, and remembers it. -/
def drain (world : World) (target : Target) : Answer × World :=
  world.onTarget target fun activation =>
    let (entries, registry) := world.registry.run activation Scope.drainTraffic
    (.traffic entries, { world with registry, lastDrain := entries })

/-! ### Stations -/

/-- Does something with a station; a name that no coordinator has is an unknown scope. -/
def onStation (world : World) (name : String) (f : Nat → Station → Answer × World) :
    Answer × World :=
  match world.stationNames.get? name with
  | none => (.error (.unknownScope name), world)
  | some id =>
    match world.stations.get? id with
    | none => (.error (.unknownScope name), world)
    | some station => f id station

/-- Puts a station in place. -/
def setStation (world : World) (id : Nat) (station : Station) : World :=
  { world with stations := world.stations.insert id station }

/-- Changes a station. -/
def updateStation (world : World) (name : String) (f : Station → Station) : Answer × World :=
  world.onStation name fun id station => (.nothing, world.setStation id (f station))

/-- Builds a coordinator under a name. One that had the name is no longer reached by it, but its
tasks go on. -/
def coordinate (world : World) (name scope : String) (config : CoordinatorConfig)
    (hasRecorder hasReporter : Bool) : Answer × World :=
  match Coordinator.create scope config hasRecorder hasReporter with
  | .error e => (.error e, world)
  | .ok coordinator =>
    let id := world.nextStation
    (.text scope, { world.setStation id { name, coordinator } with
      stationNames := world.stationNames.insert name id
      nextStation := id + 1 })

/-- Begins an activity. -/
def begin (world : World) (station : Nat) (role : Role) (stage : Stage) : World :=
  { world with
    activities := world.activities ++ [{ id := world.nextActivity, station, role, stage }]
    nextActivity := world.nextActivity + 1 }

/-- Starts the tasks of a coordinator. -/
def start (world : World) (name : String) : Answer × World :=
  world.onStation name fun id station =>
    let (result, loops, coordinator) := station.coordinator.start
    let world := world.setStation id { station with coordinator }
    (.ofExcept (fun _ => .nothing) result,
      loops.foldl (fun world (kind, loop) => world.begin id (.loop kind loop) .resting) world)

/-- Changes what collaborators answer. -/
def instruct (script : Script) (change : ScriptChange) : Script :=
  { script with
    node := change.node.getD script.node
    roster := change.roster.getD script.roster
    rules := change.rules.getD script.rules
    report := change.report.getD script.report
    sync := change.sync.getD script.sync }

/-! ### Actions -/

/-- Does an action on a target. -/
def perform (world : World) (target : Target) : Action → Answer × World
  | .activate config hold => world.activate target.scope config hold
  | .deactivate =>
    let (result, registry) := world.registry.deactivate target.scope
    (.ofExcept (fun _ => .nothing) result, { world with registry })
  | .listScopes => (.scopes world.registry.names, world)
  | .isOpen => world.ask target fun scope => .flag scope.isOpen
  | .teardown => world.update target Scope.teardown
  | .hold label => world.onTarget target fun activation =>
      (.nothing, { world with held := world.held.insert label activation })
  | .connect user ip => world.change target (·.connect user ip) <| .ofExcept fun
      | .ok _ => .admission none
      | .error refusal => .admission (some refusal)
  | .release user ip => world.update target (·.release user ip none)
  | .acquire user ip lease => world.acquire target user ip lease
  | .dropLease label => world.dropLease label
  | .leaseBucket label =>
    match world.leases.get? label with
    | none => (.nothing, world)
    | some lease => world.getBucket lease.activation lease.user
  | .leaseReport label traffic =>
    match world.leases.get? label with
    | none => (.flag false, world)
    | some lease =>
      let registry := world.registry.modify lease.activation (·.reportTraffic lease.user traffic)
      (.flag true, { world with registry })
  | .bucket user => world.onTarget target fun activation => world.getBucket activation user
  | .effectiveCap user => world.change target (·.effectiveCap user world.now) fun cap =>
      .number cap.toNat
  | .tryConsume user bytes => world.useBucket target user fun bucket =>
      let (isTaken, bucket) := bucket.tryConsume bytes world.bucketClock
      (.flag isTaken, bucket, world.bucketClock)
  | .consume user bytes maxNanos => world.useBucket target user fun bucket =>
      let deadline := maxNanos.map (world.bucketClock + ·)
      let progress := bucket.consume bytes world.bucketClock deadline
      (.consumed (progress.outcome ≠ .cut) (progress.now - world.bucketClock),
        progress.bucket, progress.now)
  | .advanceBuckets nanos =>
    let bucketClock := world.bucketClock + nanos
    (.number bucketClock, { world with bucketClock })
  | .matchDomain destination => world.ask target fun scope => .flag (scope.matchDomain destination)
  | .matchProtocol protocol => world.ask target fun scope => .flag (scope.matchProtocol protocol)
  | .firstDomainMatch destination => world.ask target fun scope =>
      .index (scope.firstDomainMatch destination)
  | .reportTraffic user traffic => world.update target (·.reportTraffic user traffic)
  | .changeRoster diff => world.change target (·.applyRosterDiff diff) <|
      .ofExcept fun _ => .nothing
  | .replaceRules rules => world.update target (·.replaceRules rules)
  | .setLimits limits => world.change target (·.setLimits limits) .flag
  | .limits => world.ask target fun scope => .limits scope.limits
  | .setDynamicLimit config => world.update target (·.setDynamicLimit config)
  | .record user => world.ask target fun scope => .record (scope.record? user)
  | .connections user => world.ask target fun scope => .number (scope.connectionsOf user)
  | .onlineView => world.ask target fun scope => .view scope.onlineView
  | .endWindow => world.update target Scope.endWindow
  | .mergeOnline entries => world.update target (·.mergeOnline entries)
  | .discardWindow => world.update target Scope.discardWindow
  | .drain => world.drain target
  | .credit given => world.update target fun scope =>
      scope.creditTraffic (world.entriesFor scope given)
  | .escalate given => world.change target
      (fun scope => scope.escalate world.now (world.entriesFor scope given))
      fun users => .users (users.mergeSort (· ≤ ·))
  | .recorderEnabled => world.ask target fun scope => .flag scope.recorderEnabled
  | .stats => world.ask target fun scope => .stats scope.stats
  | .advanceClock secs =>
    let clock := world.clock.advance secs
    (.moment clock, { world with clock })
  | .setClock clock => (.moment clock, { world with clock })
  | .coordinate name config hasRecorder hasReporter =>
    world.coordinate name target.scope config hasRecorder hasReporter
  | .instruct name change => world.updateStation name fun station =>
      { station with script := instruct station.script change }
  | .delay name call millis => world.updateStation name fun station =>
      { station with
        script := { station.script with delays := (call, millis) :: station.script.delays } }
  | .hook name call actions => world.updateStation name fun station =>
      { station with hooks := (call, actions) :: station.hooks.filter (·.1 ≠ call) }
  | .look name => world.onStation name fun _ station =>
      let coordinator := station.coordinator
      (.coordinator coordinator.phase coordinator.roster coordinator.pullTask.intervalMs
        coordinator.pushTask.intervalMs, world)
  | .refused name => (.refused name, world)

/-- Does actions one after the other. -/
def performAll (world : World) : List (Target × Action) → List Answer × World
  | [] => ([], world)
  | (target, action) :: rest =>
    let (answer, world) := world.perform target action
    let (answers, world) := world.performAll rest
    (answer :: answers, world)

end World

end Tollgate.Simulation
