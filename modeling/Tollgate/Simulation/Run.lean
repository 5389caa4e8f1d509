import Tollgate.Simulation.Activity

/-!
# Simulation runs

What is done to a simulated node from outside: actions, starts, and what takes time, namely cycles
and stops that somebody waits for and the passing of time. After each of them everything happens that
can happen without time passing.
-/

namespace Tollgate.Simulation

/-- What can be done in a run. -/
inductive Command where
  | act (action : Action)
  | start (coordinator : String)
  | pull (coordinator : String)
  | push (coordinator : String)
  | pullTwice (coordinator : String)
  | pushTwice (coordinator : String)
  | stop (coordinator : String)
  | advance (millis : Nat)

/-- A simulated node at a moment. -/
structure Run where
  world : World := {}
  now : Nat := 0

/-- What a command answers: its result, the calls made meanwhile, and the scope that it names in
numbers, if that is active. -/
structure Report where
  result : Answer
  log : List LogEntry
  stats : Option ScopeStats

namespace Run

/-- Waits for callers to have their results. -/
def awaitResults (run : Run) (callers : List Nat) : List Answer × Run :=
  let isGoal (world : World) : Bool := callers.all world.results.contains
  let (now, world) := World.timeline.await isGoal run.now run.world
  (callers.map fun id => (world.results.get? id).getD .nothing, { world, now })

/-- Begins as many activities of callers at a station as there are stages, and waits for their
results. -/
def call (run : Run) (station : Nat) (stages : List Stage) :
    List Answer × Run :=
  let first := run.world.nextActivity
  let world := stages.foldl (fun world stage => world.begin station .caller stage) run.world
  { run with world }.awaitResults ((List.range stages.length).map (first + ·))

/-- Runs cycles of a coordinator at the same time. -/
def cycles (run : Run) (name : String) (kinds : List CycleKind) :
    List Answer × Run :=
  match run.world.stationNames.get? name with
  | none => ([.error (.unknownScope name)], run)
  | some id => run.call id (kinds.map .entering)

/-- Stops a coordinator. -/
def stop (run : Run) (name : String) : List Answer × Run :=
  match run.world.stationNames.get? name with
  | none => ([.error (.unknownScope name)], run)
  | some id =>
    match run.world.stations.get? id with
    | none => ([.error (.unknownScope name)], run)
    | some { coordinator, .. } =>
      let (cycle, coordinator) := coordinator.beginStop
      let world := run.world.setCoordinator id coordinator
      { run with world }.call id [.stopping cycle]

/-- The answer made of the results of one or two callers. -/
def combine : List Answer → Answer
  | [answer] => answer
  | [first, second] => .both first second
  | _ => .nothing

/-- Does a command. -/
def execute (run : Run) (target : Target) : Command → Answer × Run
  | .act action =>
    let (answer, world) := run.world.perform target action
    (answer, { run with world })
  | .start name =>
    let (answer, world) := run.world.start name
    (answer, { run with world })
  | .pull name => combined (run.cycles name [.pull])
  | .push name => combined (run.cycles name [.push])
  | .pullTwice name => combined (run.cycles name [.pull, .pull])
  | .pushTwice name => combined (run.cycles name [.push, .push])
  | .stop name => combined (run.stop name)
  | .advance millis =>
    let now := run.now + millis
    (.number now, { world := World.timeline.advance now run.now run.world, now })
where
  /-- One answer for the results of callers. -/
  combined (results : List Answer × Run) : Answer × Run :=
    (combine results.1, results.2)

/-- The scope active under a name in numbers. -/
def statsOf (world : World) (name : String) : Option ScopeStats :=
  (world.registry.active.get? name).map fun activation => (world.registry.scope activation).stats

/-- Does a command, and lets everything happen that can happen without time passing. -/
def step (run : Run) (target : Target) (command : Command) : Report × Run :=
  let (result, { world, now }) := run.execute target command
  let world := World.timeline.settle now world
  ({ result, log := world.log, stats := statsOf world target.scope },
    { world := { world with log := [] }, now })

end Run

end Tollgate.Simulation
