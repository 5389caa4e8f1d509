import Tollgate.Control.Config
import Tollgate.Coordination.Lane
import Tollgate.Schedule.PeriodicTask

/-!
# Coordinators

A coordinator keeps one scope in step with the control plane. It pulls node, roster and rules, and
it pushes traffic and online addresses, each on a periodic task and each one cycle at a time.
-/

namespace Tollgate

/-- Whether a pull cycle is at one of its fetches. What it does after the last of them, comparing
rosters and applying what it fetched, takes no time and goes on at no phase of its own: it ends in
`idle` before anybody can look. -/
inductive Phase where
  | idle
  | fetching
deriving DecidableEq, Repr, Inhabited

/-- The two cycles of a coordinator. -/
inductive CycleKind where
  | pull
  | push
deriving DecidableEq, Repr, Inhabited

/-- A coordinator of one scope. The roster is the one last applied. -/
structure Coordinator where
  scope : String
  config : CoordinatorConfig
  hasRecorder : Bool := false
  hasReporter : Bool := false
  phase : Phase := .idle
  roster : List RosterUser := []
  pullLane : Lane := {}
  pushLane : Lane := {}
  pullTask : PeriodicTask
  pushTask : PeriodicTask
deriving Inhabited

/-- A stop on its way: the loop that it waits for, if there was one to stop. -/
inductive StopCycle where
  | stoppingPull (loop : Option Nat)
  | stoppingPush (loop : Option Nat)
deriving DecidableEq, Repr

namespace Coordinator

/-- A number of seconds in nanoseconds. -/
def secondsToNanos (secs : UInt64) : Nat := secs.toNat * 1000000000

/-- A coordinator that has not been started. -/
def create (scope : String) (config : CoordinatorConfig) (hasRecorder hasReporter : Bool) :
    Except Error Coordinator := do
  config.validate
  let pullTask ← PeriodicTask.create "roster-pull" (secondsToNanos config.pullInterval)
  let pushTask ← PeriodicTask.create "traffic-push" (secondsToNanos config.pushInterval)
  return { scope, config, hasRecorder, hasReporter, pullTask, pushTask }

variable (coordinator : Coordinator)

/-- The task of a cycle. -/
def task : CycleKind → PeriodicTask
  | .pull => coordinator.pullTask
  | .push => coordinator.pushTask

/-- Puts the task of a cycle in place. -/
def setTask (task : PeriodicTask) : CycleKind → Coordinator
  | .pull => { coordinator with pullTask := task }
  | .push => { coordinator with pushTask := task }

/-- The lane of a cycle. -/
def lane : CycleKind → Lane
  | .pull => coordinator.pullLane
  | .push => coordinator.pushLane

/-- Puts the lane of a cycle in place. -/
def setLane (lane : Lane) : CycleKind → Coordinator
  | .pull => { coordinator with pullLane := lane }
  | .push => { coordinator with pushLane := lane }

/-- Starts both tasks and requests a pull. The answer is the loop of either task, or of the pull task
alone where the push task was already started. -/
def start : Except Error Unit × List (CycleKind × Nat) × Coordinator :=
  match coordinator.pullTask.start with
  | .error e => (.error e, [], coordinator)
  | .ok (pullLoop, pullTask) =>
    match coordinator.pushTask.start with
    | .error e => (.error e, [(.pull, pullLoop)], { coordinator with pullTask })
    | .ok (pushLoop, pushTask) =>
      (.ok (), [(.pull, pullLoop), (.push, pushLoop)],
        { coordinator with pullTask := pullTask.runNow, pushTask })

/-- Begins a stop: the pull task is told to stop. -/
def beginStop : StopCycle × Coordinator :=
  let (loop, pullTask) := coordinator.pullTask.cancel
  (.stoppingPull loop, { coordinator with pullTask })

/-- Whether the loop that a stop waits for has ended. -/
def isStopped : StopCycle → Bool
  | .stoppingPull loop => !loop.any coordinator.pullTask.isAlive
  | .stoppingPush loop => !loop.any coordinator.pushTask.isAlive

/-- Goes on with a stop whose loop has ended: after the pull task the push task is told to stop. The
push that completes the stop comes after that. -/
def resumeStop : StopCycle → Option StopCycle × Coordinator
  | .stoppingPull _ =>
    let (loop, pushTask) := coordinator.pushTask.cancel
    (some (.stoppingPush loop), { coordinator with pushTask })
  | .stoppingPush _ => (none, coordinator)

end Coordinator

end Tollgate
