import Tollgate.Error
import Tollgate.Table

/-!
# Periodic tasks

A job that runs once every interval, and whenever a run is requested. The task is carried by a loop
that waits, runs the job, and waits again, so the interval counts from the end of a run. Requests
and changes of the interval leave one permit for the loop to wake up on; a loop that wakes on it
runs the job if a run was requested since, and waits anew if not.

A loop is told to stop and ends at its next wait. Until then it is still there, also when another
loop has been started meanwhile; permit, request, interval and count of runs belong to the task and
are shared by its loops.

What a loop does is a choice among what it may do, `Wakeup`; the functions here say what may happen
and what follows, not when.
-/

namespace Tollgate

/-- Where a loop stands. Times are in milliseconds. -/
inductive LoopPhase where
  /-- About to wait. -/
  | rearming
  /-- Waiting, at the latest until the deadline. -/
  | sleeping (deadline : Nat)
  /-- Running the job. -/
  | running
deriving DecidableEq, Repr, Inhabited

/-- A loop that has not ended. -/
structure TaskLoop where
  phase : LoopPhase := .rearming
  isCancelled : Bool := false
deriving DecidableEq, Repr, Inhabited

/-- What ends a wait. -/
inductive Wakeup where
  | cancelled
  | permit
  | timer
deriving DecidableEq, Repr

/-- A periodic task with its loops. -/
structure PeriodicTask where
  name : String
  intervalMs : Nat
  hasPermit : Bool := false
  isRequested : Bool := false
  runs : Nat := 0
  loops : Table Nat TaskLoop := .empty
  nextLoop : Nat := 0
  /-- The loop that was started last and not stopped since; it may have ended on its own. -/
  current : Option Nat := none
deriving DecidableEq, Inhabited

namespace PeriodicTask

/-- A duration in whole milliseconds, or as many as a word counts. -/
def wholeMillis (nanos : Nat) : Nat := min (nanos / 1000000) (UInt64.size - 1)

/-- A task that has not been started. Its interval must be positive. -/
def create (name : String) (intervalNanos : Nat) : Except Error PeriodicTask :=
  if intervalNanos = 0 then
    .error (.config ("periodic task " ++ name ++ " needs a non-zero interval"))
  else .ok { name, intervalMs := wholeMillis intervalNanos }

variable (task : PeriodicTask)

/-- Sets the interval, and wakes the loop if that changes its milliseconds. There is no interval of
zero. -/
def setInterval (nanos : Nat) : PeriodicTask :=
  if nanos = 0 then task
  else
    let millis := wholeMillis nanos
    { task with intervalMs := millis, hasPermit := task.hasPermit || millis ≠ task.intervalMs }

/-- Requests a run. -/
def runNow : PeriodicTask := { task with isRequested := true, hasPermit := true }

/-- Whether a loop has not ended. -/
def isAlive (loop : Nat) : Bool := task.loops.contains loop

/-- Whether the task was started and not stopped, and its loop has not ended. -/
def isRunning : Bool := task.current.any task.isAlive

/-- Puts a loop in place. -/
def setLoop (loop : Nat) (state : TaskLoop) : PeriodicTask :=
  { task with loops := task.loops.insert loop state }

/-- Starts a loop, unless one is running. -/
def start : Except Error (Nat × PeriodicTask) :=
  if task.isRunning then
    .error (.internal ("periodic task " ++ task.name ++ " already started"))
  else
    .ok (task.nextLoop, { task.setLoop task.nextLoop {} with
      nextLoop := task.nextLoop + 1
      current := some task.nextLoop })

/-- Tells the loop to stop, and says which loop that is. A stop is complete when that loop has
ended. -/
def cancel : Option Nat × PeriodicTask :=
  match task.current with
  | none => (none, task)
  | some loop =>
    match task.loops.get? loop with
    | none => (some loop, { task with current := none })
    | some state =>
      (some loop, { task.setLoop loop { state with isCancelled := true } with current := none })

/-- What may end the wait of a loop at a moment. -/
def mayWake (loop : TaskLoop) (now : Nat) : Wakeup → Bool
  | .cancelled => loop.isCancelled && loop.phase ≠ .running
  | .permit => task.hasPermit && loop.phase ≠ .running
  | .timer =>
    match loop.phase with
    | .rearming => task.intervalMs = 0
    | .sleeping deadline => deadline ≤ now
    | .running => false

/-- What ends the wait of a loop at a moment, if anything; being told to stop goes first. -/
def wakeup? (loop : TaskLoop) (now : Nat) : Option Wakeup :=
  [.cancelled, .permit, .timer].find? (task.mayWake loop now)

/-- A loop that has nothing to wake up for goes to sleep for one interval. -/
def sleep (loop now : Nat) : PeriodicTask :=
  match task.loops.get? loop with
  | none => task
  | some state => task.setLoop loop { state with phase := .sleeping (now + task.intervalMs) }

/-- Moves a loop to another phase. -/
def setPhase (loop : Nat) (phase : LoopPhase) : PeriodicTask :=
  match task.loops.get? loop with
  | none => task
  | some state => task.setLoop loop { state with phase }

/-- A loop wakes up: it ends, runs the job or is about to wait again. -/
def wake (loop : Nat) : Wakeup → PeriodicTask
  | .cancelled => { task with loops := task.loops.erase loop }
  | .timer => task.setPhase loop .running
  | .permit =>
    { task.setPhase loop (if task.isRequested then .running else .rearming) with
      hasPermit := false
      isRequested := false }

/-- A run of the job ends; it counts, and the loop is about to wait again. -/
def finishRun (loop : Nat) : PeriodicTask :=
  { task.setPhase loop .rearming with runs := task.runs + 1 }

/-- A run of the job fails; it does not count, and the loop ends. -/
def failRun (loop : Nat) : PeriodicTask := { task with loops := task.loops.erase loop }

/-- Whether a loop is running the job. -/
def isInRun (loop : Nat) : Bool := (task.loops.get? loop).any (·.phase = .running)

/-- The moment at which a loop at the latest wakes up. -/
def deadline? (loop : Nat) : Option Nat :=
  match task.loops.get? loop with
  | some { phase := .sleeping deadline, .. } => some deadline
  | _ => none

end PeriodicTask

end Tollgate
