import Tollgate.Schedule.Timeline
import Tollgate.Simulation.World

/-!
# Activities

How what goes on at the stations of a simulated node is carried on. An activity that is ready goes on
until it has to wait; among several the one that has waited longest goes first. Time passes only when
none is ready.
-/

namespace Tollgate.Simulation

namespace World

/-- The station of an activity. -/
def stationOf? (world : World) (activity : Activity) : Option Station :=
  world.stations.get? activity.station

/-- Puts the coordinator of a station in place. -/
def setCoordinator (world : World) (id : Nat) (coordinator : Coordinator) : World :=
  match world.stations.get? id with
  | none => world
  | some station => world.setStation id { station with coordinator }

/-- Makes a call: it is logged, the actions that it sets off are done, and it returns after the
delay that the script then gives it. The result is the moment of its return. -/
def makeCall (world : World) (now station : Nat) (call : Call) : Nat × World :=
  match world.stations.get? station with
  | none => (now, world)
  | some { name, coordinator, hooks, script } =>
    let hook := hooks.lookup call.kind
    let rest := hooks.filter (·.1 ≠ call.kind)
    let world := world.setStation station { name, coordinator, script, hooks := rest }
    let (answers, world) := world.performAll (hook.getD [])
    let entry : LogEntry :=
      { now, coordinator := name, scope := coordinator.scope, call, hook := hook.map fun _ => answers }
    let delay := ((world.stations.get? station).map (·.script.delay call.kind)).getD 0
    (now + delay, { world with log := world.log ++ [entry] })

/-- Ends a cycle: the lane is handed on, a task counts the run and a caller has the result. The
activity is over for a caller. -/
def finish (world : World) (activity : Activity) (kind : CycleKind) (result : Answer) :
    Option Activity × World :=
  match world.stationOf? activity with
  | none => (none, world)
  | some { coordinator, .. } =>
    let coordinator := coordinator.setLane (coordinator.lane kind).leave kind
    match activity.role with
    | .caller =>
      (none, { world.setCoordinator activity.station coordinator with
        results := world.results.insert activity.id result })
    | .loop kind loop =>
      let coordinator := coordinator.setTask ((coordinator.task kind).finishRun loop) kind
      (some { activity with stage := .resting }, world.setCoordinator activity.station coordinator)

/-- Goes on with what a pull cycle came to. -/
def continuePull (world : World) (now : Nat) (activity : Activity) :
    Progress PullCycle Unit → Option Activity × World
  | .calling cycle =>
    let (returnsAt, world) := world.makeCall now activity.station cycle.call
    (some { activity with stage := .pulling cycle returnsAt }, world)
  | .finished result => world.finish activity .pull (.ofExcept (fun _ => .nothing) result)

/-- Goes on with what a push cycle came to. -/
def continuePush (world : World) (now : Nat) (activity : Activity) :
    Progress PushCycle PushSummary → Option Activity × World
  | .calling cycle =>
    let (returnsAt, world) := world.makeCall now activity.station cycle.call
    (some { activity with stage := .pushing cycle returnsAt }, world)
  | .finished result => world.finish activity .push (.ofExcept .pushed result)

/-- Begins a cycle on its lane. -/
def beginCycle (world : World) (now : Nat) (activity : Activity) (coordinator : Coordinator) :
    CycleKind → Option Activity × World
  | .pull =>
    let (progress, coordinator) := coordinator.beginPull world.registry
    (world.setCoordinator activity.station coordinator).continuePull now activity progress
  | .push =>
    let (progress, registry) := coordinator.beginPush world.registry world.now
    { world with registry }.continuePush now activity progress

/-- A loop between runs wakes up or goes to sleep. It is over when it ends. -/
def goOnResting (world : World) (now : Nat) (activity : Activity) (coordinator : Coordinator)
    (kind : CycleKind) (loop : Nat) : Option Activity × World :=
  let task := coordinator.task kind
  let set (task : PeriodicTask) : World :=
    world.setCoordinator activity.station (coordinator.setTask task kind)
  match task.loops.get? loop with
  | none => (none, world)
  | some state =>
    match task.wakeup? state now with
    | none => (some activity, set (task.sleep loop now))
    | some wakeup =>
      let task := task.wake loop wakeup
      if task.isInRun loop then (some { activity with stage := .entering kind }, set task)
      else if task.isAlive loop then (some activity, set task)
      else (none, set task)

/-- Carries an activity on, as far as its next wait or a step further. -/
def goOn (world : World) (now : Nat) (activity : Activity) : Option Activity × World :=
  match world.stationOf? activity with
  | none => (none, world)
  | some { coordinator, script, .. } =>
    match activity.stage with
    | .resting =>
      match activity.role with
      | .caller => (none, world)
      | .loop kind loop => world.goOnResting now activity coordinator kind loop
    | .entering kind =>
      let coordinator := coordinator.setLane ((coordinator.lane kind).enter activity.id) kind
      (some { activity with stage := .queued kind }, world.setCoordinator activity.station coordinator)
    | .queued kind => world.beginCycle now activity coordinator kind
    | .pulling cycle _ =>
      let (progress, coordinator, registry) :=
        coordinator.resumePull world.registry script.collaborators cycle
      ({ world with registry }.setCoordinator activity.station coordinator).continuePull now activity
        progress
    | .pushing cycle _ =>
      let (progress, registry) :=
        coordinator.resumePush world.registry script.collaborators world.now cycle
      { world with registry }.continuePush now activity progress
    | .stopping cycle =>
      let (next, coordinator) := coordinator.resumeStop cycle
      let stage := (next.map Stage.stopping).getD (.entering .push)
      (some { activity with stage }, world.setCoordinator activity.station coordinator)

/-- Whether an activity can go on at a moment. -/
def isReady (world : World) (now : Nat) (activity : Activity) : Bool :=
  match world.stationOf? activity with
  | none => true
  | some { coordinator, .. } =>
    match activity.stage with
    | .resting =>
      match activity.role with
      | .caller => true
      | .loop kind loop =>
        let task := coordinator.task kind
        match task.loops.get? loop with
        | none => true
        | some state => state.phase = .rearming || (task.wakeup? state now).isSome
    | .entering _ => true
    | .queued kind => (coordinator.lane kind).isHeldBy activity.id
    | .pulling _ returnsAt | .pushing _ returnsAt => returnsAt ≤ now
    | .stopping cycle => coordinator.isStopped cycle

/-- The moment at which an activity goes on by itself. -/
def dueOf? (world : World) (activity : Activity) : Option Nat :=
  match activity.stage with
  | .pulling _ returnsAt | .pushing _ returnsAt => some returnsAt
  | .resting =>
    match activity.role with
    | .caller => none
    | .loop kind loop =>
      (world.stationOf? activity).bind fun station =>
        (station.coordinator.task kind).deadline? loop
  | _ => none

/-- Carries on the first activity that is ready. It stays first as long as it is. -/
def step? (now : Nat) (world : World) : Option World :=
  (world.activities.find? (world.isReady now)).map fun activity =>
    let others := world.activities.filter (·.id ≠ activity.id)
    match { world with activities := others }.goOn now activity with
    | (none, world) => world
    | (some activity, world) =>
      { world with
        activities := if world.isReady now activity then activity :: world.activities
          else world.activities ++ [activity] }

/-- Simulated nodes in time. -/
def timeline : Timeline World where
  step? := step?
  nextDue? world := (world.activities.filterMap world.dueOf?).min?

end World

end Tollgate.Simulation
