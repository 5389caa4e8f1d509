import Mathlib.Tactic.Ring
import Tollgate.Proofs.SingleFlight
import Tollgate.Schedule.Worker

/-!
# Workers left alone

A worker of which nothing is asked goes around one circle: its loop sleeps for an interval, runs the
job for as long as that takes, and sleeps again (`Worker.Paced.sleeps`, `begins` and `finishes`). So the
moments of its runs are known in advance, and when the clock has moved to a moment, exactly the runs
that are due by then have begun (`Worker.Paced.begun_advance`).
-/

namespace Tollgate

/-! ### Rest and what is due -/

namespace Timeline

variable {σ : Type} {timeline : Timeline σ} {now : Nat} {s t : σ}

theorem steps_of_some (step : timeline.step? now s = some t) (n : Nat) :
    timeline.steps now (n + 1) s = timeline.steps now n t := by
  rw [steps, step]

theorem steps_of_none (rest : timeline.step? now s = none) (n : Nat) :
    timeline.steps now n s = s := by
  cases n with
  | zero => rfl
  | succ n => rw [steps, rest]

/-- Where what is due at a moment leads to rest, and rest to the next moment at which something is
due, the clock stops at rest with nothing due until its target. -/
theorem advance_rests {isDue rests : Nat → σ → Prop}
    (settles : ∀ now s, isDue now s → rests now (timeline.settle now s))
    (wakes : ∀ now s moment, rests now s → timeline.nextMoment? now s = some moment →
      isDue moment s) {target : Nat} (ahead : now ≤ target) (due : isDue now s) :
    ∃ last ≤ target, rests last (timeline.advance target now s) ∧
      ∀ moment ∈ timeline.nextMoment? last (timeline.advance target now s), target < moment := by
  induction now, s using Timeline.advance.induct timeline target with
  | case1 now s _ stays =>
    rw [advance_of_rest stays]
    exact ⟨now, ahead, settles now s due, fun moment moves => nomatch stays.symm.trans moves⟩
  | case2 now s _ moment moves within ih =>
    rw [advance_of_le moves within]
    exact ih within (wakes _ _ _ (settles now s due) moves)
  | case3 now s _ moment moves beyond =>
    rw [advance_of_not_le moves beyond]
    refine ⟨now, ahead, settles now s due, fun later moves' => ?_⟩
    obtain rfl := Option.some.inj (moves.symm.trans moves')
    exact Nat.lt_of_not_le beyond

end Timeline

/-! ### What a worker does next -/

/-- A task has one loop, and nothing is asked of it. -/
structure PeriodicTask.IsLeftAlone (task : PeriodicTask) (intervalMs : Nat) (phase : LoopPhase) :
    Prop where
  loops : task.loops.toList = [(0, { phase })]
  interval : task.intervalMs = intervalMs
  permit : task.hasPermit = false

namespace PeriodicTask.IsLeftAlone

variable {task : PeriodicTask} {intervalMs : Nat} {phase : LoopPhase}

theorem get?_loops (h : task.IsLeftAlone intervalMs phase) : task.loops.get? 0 = some { phase } :=
  Table.mem_toList_iff.1 (h.loops ▸ List.mem_singleton_self _)

/-- The loop moves on to another phase. -/
theorem setPhase (h : task.IsLeftAlone intervalMs phase) (later : LoopPhase) :
    (task.setPhase 0 later).IsLeftAlone intervalMs later := by
  have put : (task.loops.insert 0 { phase := later }).toList = [(0, { phase := later })] := by
    have listed := h.loops
    generalize task.loops = loops at listed
    obtain ⟨entries, _⟩ := loops
    obtain rfl : entries = _ := listed
    rfl
  rw [PeriodicTask.setPhase, h.get?_loops]
  exact ⟨put, h.interval, h.permit⟩

end PeriodicTask.IsLeftAlone

namespace Worker

/-- The moments at which runs have begun, the first one first. -/
def begun (worker : Worker) : List Nat :=
  worker.log.reverse.filterMap fun
    | .begins now => some now
    | .ends _ => none

/-- The moment at which a run begins, counted from zero, if nothing is asked of the worker. -/
def beginsAt (intervalMs workMs run : Nat) : Nat := (run + 1) * intervalMs + run * workMs

/-- A worker whose loop has begun a number of runs, all of them on time. -/
structure Paced (intervalMs workMs : Nat) (phase : LoopPhase) (n : Nat) (worker : Worker) :
    Prop where
  task : worker.task.IsLeftAlone intervalMs phase
  progress : ∃ endsAt, worker.progress.get? 0 = some { job := { workMs }, begun := n, endsAt } ∧
    (phase = .running → endsAt = n * (intervalMs + workMs))
  asleep : ∀ deadline, phase = .sleeping deadline → deadline = beginsAt intervalMs workMs n
  begun : worker.begun = (List.range n).map (beginsAt intervalMs workMs)

/-- The moment at which the loop is done with its phase. -/
def turn (intervalMs workMs : Nat) (n : Nat) : LoopPhase → Nat
  | .sleeping _ => beginsAt intervalMs workMs n
  | _ => n * (intervalMs + workMs)

variable {intervalMs workMs n now : Nat} {phase : LoopPhase} {worker : Worker}

theorem beginsAt_eq : beginsAt intervalMs workMs n = n * (intervalMs + workMs) + intervalMs := by
  unfold beginsAt
  ring

theorem beginsAt_add : beginsAt intervalMs workMs n + workMs = (n + 1) * (intervalMs + workMs) := by
  unfold beginsAt
  ring

namespace Paced

theorem step?_eq (h : worker.Paced intervalMs workMs phase n) (now : Nat) :
    timeline.step? now worker = worker.stepLoop? now (0, { phase }) := by
  have all : timeline.step? now worker =
    worker.task.loops.toList.findSome? (worker.stepLoop? now) := rfl
  rw [all, h.task.loops, List.findSome?_singleton]

theorem endsAt_eq (h : worker.Paced intervalMs workMs .running n) :
    worker.endsAt 0 = n * (intervalMs + workMs) := by
  obtain ⟨endsAt, found, ends⟩ := h.progress
  rw [Worker.endsAt, found]
  exact ends rfl

/-- The loop goes to sleep. -/
theorem sleeps (h : worker.Paced intervalMs workMs .rearming n) (positive : 0 < intervalMs) :
    ∃ later, timeline.step? (n * (intervalMs + workMs)) worker = some later ∧
      later.Paced intervalMs workMs (.sleeping (beginsAt intervalMs workMs n)) n := by
  have nothing : worker.task.wakeup? { phase := .rearming } (n * (intervalMs + workMs)) = none := by
    simp [PeriodicTask.wakeup?, PeriodicTask.mayWake, h.task.permit, h.task.interval,
      Nat.ne_of_gt positive]
  obtain ⟨endsAt, found, -⟩ := h.progress
  have deadline : worker.task.sleep 0 (n * (intervalMs + workMs)) =
      worker.task.setPhase 0 (.sleeping (beginsAt intervalMs workMs n)) := by
    rw [PeriodicTask.sleep_eq, h.task.interval, beginsAt_eq]
  refine ⟨{ worker with task := worker.task.sleep 0 (n * (intervalMs + workMs)) }, ?_, ?_⟩
  · rw [h.step?_eq, stepLoop?]
    dsimp only
    rw [nothing]
    rfl
  · rw [deadline]
    have due : ∀ deadline, LoopPhase.sleeping (beginsAt intervalMs workMs n) = .sleeping deadline →
        deadline = beginsAt intervalMs workMs n := by
      rintro _ ⟨⟩
      rfl
    exact ⟨h.task.setPhase _, ⟨endsAt, found, fun running => by cases running⟩, due, h.begun⟩

/-- The loop begins a run when it has slept long enough. -/
theorem begins (h : worker.Paced intervalMs workMs (.sleeping (beginsAt intervalMs workMs n)) n) :
    ∃ later, timeline.step? (beginsAt intervalMs workMs n) worker = some later ∧
      later.Paced intervalMs workMs .running (n + 1) := by
  have wakes : worker.task.wakeup? { phase := .sleeping (beginsAt intervalMs workMs n) }
      (beginsAt intervalMs workMs n) = some .timer := by
    simp [PeriodicTask.wakeup?, PeriodicTask.mayWake, h.task.permit]
  obtain ⟨endsAt, found, -⟩ := h.progress
  have running := h.task.setPhase .running
  have inRun : (worker.task.setPhase 0 .running).isInRun 0 = true :=
    Schedule.isInRun_iff.2 ⟨_, running.get?_loops, rfl⟩
  let progress : JobProgress :=
    { job := { workMs }, begun := n + 1, endsAt := beginsAt intervalMs workMs n + workMs }
  let later : Worker :=
    { task := worker.task.setPhase 0 .running
      progress := worker.progress.insert 0 progress
      log := .begins (beginsAt intervalMs workMs n) :: worker.log }
  have begun : later.begun = worker.begun ++ [beginsAt intervalMs workMs n] := by
    simp [later, Worker.begun]
  refine ⟨later, ?_, ?_⟩
  · rw [h.step?_eq, stepLoop?]
    dsimp only
    rw [wakes]
    dsimp only [beginRun, PeriodicTask.wake]
    rw [found, Option.filter_some, if_pos inRun]
    dsimp only
    rw [if_neg (Nat.succ_ne_zero n)]
  · have awake : ∀ deadline, LoopPhase.running = .sleeping deadline →
        deadline = beginsAt intervalMs workMs (n + 1) := by
      rintro _ ⟨⟩
    refine ⟨running, ⟨_, Table.get?_insert_self .., fun _ => beginsAt_add⟩, awake, ?_⟩
    rw [begun, h.begun, List.range_succ, List.map_append]
    rfl

/-- The loop ends a run when it has taken its time. -/
theorem finishes (h : worker.Paced intervalMs workMs .running n) :
    ∃ later, timeline.step? (n * (intervalMs + workMs)) worker = some later ∧
      later.Paced intervalMs workMs .rearming n := by
  obtain ⟨endsAt, found, -⟩ := h.progress
  let later : Worker :=
    { worker with
      task := worker.task.finishRun 0
      log := .ends (n * (intervalMs + workMs)) :: worker.log }
  have begun : later.begun = worker.begun := by simp [later, Worker.begun]
  have rearming := h.task.setPhase .rearming
  refine ⟨later, ?_, ?_⟩
  · rw [h.step?_eq, stepLoop?]
    exact if_pos (Nat.le_of_eq h.endsAt_eq)
  · refine ⟨⟨rearming.loops, rearming.interval, rearming.permit⟩, ⟨endsAt, found, nofun⟩, nofun, ?_⟩
    exact begun.trans h.begun

/-- Nothing happens before the loop is done with its phase. -/
theorem rests (h : worker.Paced intervalMs workMs phase n) (waits : phase ≠ .rearming)
    (early : now < turn intervalMs workMs n phase) : timeline.step? now worker = none := by
  rw [h.step?_eq, stepLoop?]
  cases phase with
  | rearming => exact absurd rfl waits
  | sleeping deadline =>
    have later : ¬ deadline ≤ now := Nat.not_le_of_lt (h.asleep deadline rfl ▸ early)
    have nothing : worker.task.wakeup? { phase := .sleeping deadline } now = none := by
      simp [PeriodicTask.wakeup?, PeriodicTask.mayWake, h.task.permit, later]
    dsimp only
    rw [nothing]
    rfl
  | running => exact if_neg (Nat.not_le_of_lt (h.endsAt_eq ▸ early))

theorem nextDue?_eq (h : worker.Paced intervalMs workMs phase n) (waits : phase ≠ .rearming) :
    timeline.nextDue? worker = some (turn intervalMs workMs n phase) := by
  have all : timeline.nextDue? worker =
    (worker.task.loops.toList.filterMap worker.dueOf?).min? := rfl
  rw [all, h.task.loops]
  cases phase with
  | rearming => exact absurd rfl waits
  | sleeping deadline => exact congrArg some (h.asleep deadline rfl)
  | running => exact congrArg some h.endsAt_eq

end Paced

/-! ### From one moment to the next -/

/-- The loop is done with its phase at this moment. -/
def IsDue (intervalMs workMs now : Nat) (worker : Worker) : Prop :=
  ∃ phase n, worker.Paced intervalMs workMs phase n ∧ now = turn intervalMs workMs n phase ∧
    ∀ run < n, beginsAt intervalMs workMs run ≤ now

/-- The loop has been waiting or in a run, and will be for some time. -/
def Rests (intervalMs workMs now : Nat) (worker : Worker) : Prop :=
  ∃ phase n, worker.Paced intervalMs workMs phase n ∧ phase ≠ .rearming ∧
    now < turn intervalMs workMs n phase ∧ ∀ run < n, beginsAt intervalMs workMs run ≤ now

theorem turn_le : turn intervalMs workMs n phase ≤ beginsAt intervalMs workMs n := by
  cases phase with
  | sleeping deadline => exact Nat.le_refl _
  | rearming => exact beginsAt_eq ▸ Nat.le_add_right _ _
  | running => exact beginsAt_eq ▸ Nat.le_add_right _ _

theorem beginsAt_mono {run : Nat} (le : n ≤ run) :
    beginsAt intervalMs workMs n ≤ beginsAt intervalMs workMs run :=
  Nat.add_le_add (Nat.mul_le_mul_right _ (Nat.succ_le_succ le)) (Nat.mul_le_mul_right _ le)

namespace Paced

variable (reached : ∀ run < n, beginsAt intervalMs workMs run ≤ now)

include reached

theorem rests_of_rearming (h : worker.Paced intervalMs workMs .rearming n)
    (positive : 0 < intervalMs) (due : now = n * (intervalMs + workMs)) (m : Nat) :
    Rests intervalMs workMs now (timeline.steps now (m + 1) worker) := by
  obtain ⟨later, step, paced⟩ := h.sleeps positive
  have early : now < turn intervalMs workMs n (.sleeping (beginsAt intervalMs workMs n)) := by
    rw [turn, beginsAt_eq, due]
    exact Nat.lt_add_of_pos_right positive
  rw [Timeline.steps_of_some (due ▸ step), Timeline.steps_of_none (paced.rests nofun early)]
  exact ⟨_, n, paced, nofun, early, reached⟩

theorem rests_of_running (h : worker.Paced intervalMs workMs .running n) (positive : 0 < intervalMs)
    (due : now = n * (intervalMs + workMs)) (m : Nat) :
    Rests intervalMs workMs now (timeline.steps now (m + 2) worker) := by
  obtain ⟨later, step, paced⟩ := h.finishes
  rw [Timeline.steps_of_some (due ▸ step)]
  exact paced.rests_of_rearming reached positive due m

end Paced

/-- What is due is done, and then the loop waits or is in a run. -/
theorem IsDue.settle (positive : 0 < intervalMs) (h : IsDue intervalMs workMs now worker) :
    Rests intervalMs workMs now (timeline.settle now worker) := by
  have enough : Timeline.stepsPerMoment = 99997 + 3 := rfl
  obtain ⟨phase, n, paced, due, reached⟩ := h
  rw [Timeline.settle, enough]
  cases phase with
  | rearming => exact paced.rests_of_rearming reached positive due _
  | running => exact paced.rests_of_running reached positive due _
  | sleeping deadline =>
    obtain rfl := paced.asleep deadline rfl
    replace due : now = beginsAt intervalMs workMs n := due
    obtain ⟨later, step, running⟩ := paced.begins
    have reached : ∀ run < n + 1, beginsAt intervalMs workMs run ≤ now := fun run before =>
      due ▸ beginsAt_mono (Nat.le_of_lt_succ before)
    have ends : (n + 1) * (intervalMs + workMs) = now + workMs := due ▸ beginsAt_add.symm
    rw [Timeline.steps_of_some (due ▸ step)]
    rcases Nat.eq_zero_or_pos workMs with rfl | takes
    · exact running.rests_of_running reached positive ends.symm _
    · have early : now < turn intervalMs workMs (n + 1) .running := by
        show now < (n + 1) * (intervalMs + workMs)
        rw [ends]
        exact Nat.lt_add_of_pos_right takes
      rw [Timeline.steps_of_none (running.rests nofun early)]
      exact ⟨_, n + 1, running, nofun, early, reached⟩

theorem Rests.nextMoment?_eq (h : Rests intervalMs workMs now worker) :
    ∃ moment, timeline.nextMoment? now worker = some moment ∧
      IsDue intervalMs workMs moment worker ∧ ∃ n,
        worker.begun = (List.range n).map (beginsAt intervalMs workMs) ∧
        (∀ run < n, beginsAt intervalMs workMs run ≤ now) ∧ moment ≤ beginsAt intervalMs workMs n := by
  obtain ⟨phase, n, paced, waits, early, reached⟩ := h
  have reached' : ∀ run < n, beginsAt intervalMs workMs run ≤ turn intervalMs workMs n phase :=
    fun run before => Nat.le_trans (reached run before) (Nat.le_of_lt early)
  refine ⟨turn intervalMs workMs n phase, ?_, ⟨phase, n, paced, rfl, reached'⟩, n, paced.begun,
    reached, turn_le⟩
  rw [Timeline.nextMoment?, paced.nextDue?_eq waits]
  exact congrArg some (Nat.max_eq_right early)

/-- A worker that is left alone has begun the runs that are due. -/
theorem Paced.begun_advance (h : worker.Paced intervalMs workMs .rearming 0)
    (positive : 0 < intervalMs) (total : Nat) :
    ∃ n, (timeline.advance total 0 worker).begun = (List.range n).map (beginsAt intervalMs workMs) ∧
      ∀ run, run < n ↔ beginsAt intervalMs workMs run ≤ total := by
  have due : IsDue intervalMs workMs 0 worker := ⟨.rearming, 0, h, (Nat.zero_mul _).symm, nofun⟩
  obtain ⟨last, within, rests, beyond⟩ := Timeline.advance_rests
    (fun _ _ due => IsDue.settle positive due)
    (fun now worker moment rests moves => by
      obtain ⟨moment', moves', due, -⟩ := rests.nextMoment?_eq
      exact Option.some.inj (moves'.symm.trans moves) ▸ due)
    (Nat.zero_le total) due
  obtain ⟨moment, moves, -, n, begun, reached, le⟩ := rests.nextMoment?_eq
  have late := Nat.lt_of_lt_of_le (beyond moment moves) le
  refine ⟨n, begun, fun run => ⟨fun before => Nat.le_trans (reached run before) within, ?_⟩⟩
  intro began
  by_contra after
  have later : beginsAt intervalMs workMs n ≤ beginsAt intervalMs workMs run :=
    beginsAt_mono (Nat.le_of_not_lt after)
  exact absurd (Nat.le_trans later began) (Nat.not_le_of_lt late)

theorem paced_start {name : String} {nanos : Nat} {task : PeriodicTask}
    (made : PeriodicTask.create name nanos = .ok task)
    (started : Worker.start { task } { workMs } = .ok worker) :
    worker.Paced (PeriodicTask.wholeMillis nanos) workMs .rearming 0 := by
  unfold PeriodicTask.create at made
  split at made
  · cases made
  · cases made
    cases started
    exact ⟨⟨rfl, rfl, rfl⟩, ⟨0, Table.get?_insert_self .., nofun⟩, nofun, rfl⟩

end Worker

end Tollgate
