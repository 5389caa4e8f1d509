import Tollgate.Schedule.PeriodicTask
import Tollgate.Schedule.Timeline

/-!
# Workers

A periodic task whose job takes a set time, as a system in time. Each run is logged when it begins
and when it ends; the job may be told to fail at one of its runs.
-/

namespace Tollgate

/-- A job that takes a number of milliseconds, and fails at the run with the given number, counted
from one. -/
structure Job where
  workMs : Nat := 0
  failsAt : Nat := 0
deriving DecidableEq, Repr, Inhabited

/-- What a loop has done of its job: the runs begun, and when the one in flight ends. -/
structure JobProgress where
  job : Job
  begun : Nat := 0
  endsAt : Nat := 0
deriving DecidableEq, Repr, Inhabited

/-- The beginning or end of a run. -/
inductive RunEvent where
  | begins (now : Nat)
  | ends (now : Nat)
deriving DecidableEq, Repr

/-- A periodic task with its jobs and the log of their runs, the last event first. -/
structure Worker where
  task : PeriodicTask
  progress : Table Nat JobProgress := .empty
  log : List RunEvent := []
deriving Inhabited

namespace Worker

/-- Starts the task with a job. -/
def start (worker : Worker) (job : Job) : Except Error Worker :=
  worker.task.start.map fun (loop, task) =>
    { worker with task, progress := worker.progress.insert loop { job } }

/-- Begins a run of the job of a loop; nothing for a loop that is not in a run. -/
def beginRun (worker : Worker) (loop now : Nat) : Worker :=
  match (worker.progress.get? loop).filter fun _ => worker.task.isInRun loop with
  | none => worker
  | some progress =>
    let progress : JobProgress :=
      { progress with begun := progress.begun + 1, endsAt := now + progress.job.workMs }
    { worker with
      task := if progress.begun = progress.job.failsAt then worker.task.failRun loop else worker.task
      progress := worker.progress.insert loop progress
      log := .begins now :: worker.log }

/-- The moment at which the run of a loop ends. -/
def endsAt (worker : Worker) (loop : Nat) : Nat :=
  ((worker.progress.get? loop).map (·.endsAt)).getD 0

/-- What a loop can do at a moment. -/
def stepLoop? (now : Nat) (worker : Worker) (loop : Nat × TaskLoop) : Option Worker :=
  match loop.2.phase with
  | .running =>
    if worker.endsAt loop.1 ≤ now then
      some { worker with task := worker.task.finishRun loop.1, log := .ends now :: worker.log }
    else none
  | phase =>
    match worker.task.wakeup? loop.2 now with
    | some wakeup => some ({ worker with task := worker.task.wake loop.1 wakeup }.beginRun loop.1 now)
    | none =>
      if phase = .rearming then some { worker with task := worker.task.sleep loop.1 now } else none

/-- The moment at which a loop does something by itself. -/
def dueOf? (worker : Worker) (loop : Nat × TaskLoop) : Option Nat :=
  match loop.2.phase with
  | .rearming => none
  | .sleeping deadline => some deadline
  | .running => some (worker.endsAt loop.1)

/-- Workers in time. -/
def timeline : Timeline Worker where
  step? now worker := worker.task.loops.toList.findSome? (worker.stepLoop? now)
  nextDue? worker := (worker.task.loops.toList.filterMap worker.dueOf?).min?

/-- Stops the task at a moment. The stop is complete when the loop has ended, which is later if a run
is in flight. -/
def stop (worker : Worker) (now : Nat) : Nat × Worker :=
  let (loop, task) := worker.task.cancel
  timeline.await (fun w => !loop.any w.task.isAlive) now { worker with task }

end Worker

end Tollgate
