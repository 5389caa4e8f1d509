import Mathlib.Data.List.Perm.Subperm
import Mathlib.Logic.Relation
import Tollgate.Proofs.TaskLoops

/-!
# Runs in flight

A loop awaits each run of its job before it waits again, so one loop has one run in flight at most.
A stop gives up the loop before the loop has ended, and the task may then be started again. From
there on two runs can be in flight, one of the loop that is about to end and one of the new loop; in
no other way can there be two (`single_flight_iff`).
-/

namespace Tollgate

/-- A task at a moment. -/
structure Schedule where
  task : PeriodicTask
  now : Nat := 0
deriving DecidableEq

namespace PeriodicTask

/-- The task after a start. One that is running stays as it is. -/
def started (task : PeriodicTask) : PeriodicTask :=
  match task.start with
  | .ok (_, task) => task
  | .error _ => task

theorem started_of_start {task later : PeriodicTask} {loop : Nat}
    (granted : task.start = .ok (loop, later)) : task.started = later := by
  rw [started, granted]

theorem started_of_running {task : PeriodicTask} (running : task.isRunning = true) :
    task.started = task := by
  rw [started, start, if_pos running]

/-- The number of loops that are running the job. -/
def runsInFlight (task : PeriodicTask) : Nat :=
  (task.loops.toList.filter (·.2.phase = .running)).length

end PeriodicTask

namespace Schedule

/-- One thing that happens to a task other than a start. Any of the things that may end a wait can
be the one that does. -/
inductive GoesOn (s : Schedule) : Schedule → Prop
  | stop : GoesOn s { s with task := s.task.cancel.2 }
  | runNow : GoesOn s { s with task := s.task.runNow }
  | setInterval (nanos : Nat) : GoesOn s { s with task := s.task.setInterval nanos }
  | pass {later : Nat} (forward : s.now ≤ later) : GoesOn s { s with now := later }
  | wake {loop : Nat} {state : TaskLoop} {wakeup : Wakeup}
      (found : s.task.loops.get? loop = some state)
      (may : s.task.mayWake state s.now wakeup = true) :
    GoesOn s { s with task := s.task.wake loop wakeup }
  | sleep {loop : Nat} {state : TaskLoop} (found : s.task.loops.get? loop = some state)
      (rearming : state.phase = .rearming) (nothing : s.task.wakeup? state s.now = none) :
    GoesOn s { s with task := s.task.sleep loop s.now }
  | finish {loop : Nat} (inRun : s.task.isInRun loop = true) :
    GoesOn s { s with task := s.task.finishRun loop }
  | fail {loop : Nat} (inRun : s.task.isInRun loop = true) :
    GoesOn s { s with task := s.task.failRun loop }

/-- The schedule after a start. -/
def start (s : Schedule) : Schedule := { s with task := s.task.started }

/-- A run in which starts come only where they may. -/
def Run (mayStart : Schedule → Prop) : Schedule → Schedule → Prop :=
  Relation.ReflTransGen fun before after =>
    before.GoesOn after ∨ mayStart before ∧ after = before.start

/-- No loop has been left over: the task is running, or all its loops have ended. -/
def NoneLeft (s : Schedule) : Prop :=
  s.task.isRunning = true ∨ ∀ loop, s.task.isAlive loop = false

variable {s t : Schedule} {mayStart mayStart' : Schedule → Prop}

theorem Run.mono (h : ∀ s, mayStart s → mayStart' s) (run : Run mayStart s t) :
    Run mayStart' s t := by
  induction run with
  | refl => exact .refl
  | tail _ last ih => exact ih.tail (last.imp_right (And.imp_left (h _)))

/-! ### One loop at a time -/

/-- Only a start begins a loop, or gives a number. -/
theorem GoesOn.isAlive (step : s.GoesOn t) (l : Nat) (alive : t.task.isAlive l = true) :
    s.task.isAlive l = true := by
  cases step with
  | stop => rwa [PeriodicTask.isAlive_cancel] at alive
  | runNow => exact alive
  | setInterval nanos => rwa [(PeriodicTask.keepsLoops_setInterval nanos).isAlive_eq] at alive
  | pass forward => exact alive
  | wake found may =>
    rw [PeriodicTask.isAlive_wake] at alive
    split at alive
    · cases alive
    · exact alive
  | sleep found rearming nothing =>
    rwa [PeriodicTask.sleep_eq, PeriodicTask.isAlive_setPhase] at alive
  | finish inRun => rwa [PeriodicTask.keepsLoops_finishRun.isAlive_eq] at alive
  | fail inRun =>
    rw [PeriodicTask.isAlive_failRun] at alive
    split at alive
    · cases alive
    · exact alive

theorem GoesOn.nextLoop (step : s.GoesOn t) : t.task.nextLoop = s.task.nextLoop := by
  cases step with
  | stop => exact PeriodicTask.nextLoop_cancel
  | setInterval nanos => exact (PeriodicTask.keepsLoops_setInterval nanos).nextLoop_eq
  | wake found may => exact PeriodicTask.nextLoop_wake
  | sleep found rearming nothing => exact PeriodicTask.nextLoop_setPhase
  | finish inRun => exact PeriodicTask.nextLoop_setPhase
  | _ => rfl

/-- There is one loop at most. -/
def OneLoop (s : Schedule) : Prop :=
  ∀ l l', s.task.isAlive l = true → s.task.isAlive l' = true → l = l'

theorem OneLoop.goesOn (h : s.OneLoop) (step : s.GoesOn t) : t.OneLoop :=
  fun l l' alive alive' => h l l' (step.isAlive l alive) (step.isAlive l' alive')

/-- A start where no loop is left makes for one loop. -/
theorem OneLoop.start (h : s.OneLoop) (alone : s.NoneLeft) : s.start.OneLoop := by
  unfold OneLoop Schedule.start
  dsimp only
  cases running : s.task.isRunning with
  | true =>
    rw [PeriodicTask.started_of_running running]
    exact h
  | false =>
    have granted := PeriodicTask.start_of_idle running
    have ended : ∀ l, s.task.isAlive l = false :=
      alone.resolve_left fun busy => nomatch busy.symm.trans running
    simp only [PeriodicTask.started_of_start granted, PeriodicTask.isAlive_start granted, ended,
      Bool.if_false_right, Bool.and_true, decide_eq_true_eq]
    rintro l l' rfl rfl
    rfl

theorem OneLoop.run (h : s.OneLoop) (run : Run NoneLeft s t) : t.OneLoop := by
  induction run with
  | refl => exact h
  | tail _ last ih =>
    rcases last with step | ⟨alone, rfl⟩
    · exact ih.goesOn step
    · exact ih.start alone

/-- With one loop there is one run in flight at most. -/
theorem OneLoop.runsInFlight_le (h : s.OneLoop) : s.task.runsInFlight ≤ 1 := by
  have running : ∀ entry ∈ s.task.loops.toList.filter (·.2.phase = .running),
      s.task.loops.get? entry.1 = some entry.2 :=
    fun entry member => Table.mem_toList_iff.1 ((List.mem_filter.1 member).1)
  have distinct : (s.task.loops.toList.filter (·.2.phase = .running)).Nodup :=
    (Table.nodup_of_ascending s.task.loops.ascending).filter _
  unfold PeriodicTask.runsInFlight
  generalize s.task.loops.toList.filter (·.2.phase = .running) = listed at running distinct
  match listed with
  | [] => exact Nat.zero_le _
  | [_] => exact Nat.le_refl _
  | x :: y :: _ =>
    have first := running x (by simp)
    have second := running y (by simp)
    have same : x.1 = y.1 := h x.1 y.1 (PeriodicTask.isAlive_of_get? first)
      (PeriodicTask.isAlive_of_get? second)
    rw [same, second] at first
    have equal : x = y := Prod.ext same (Option.some.inj first).symm
    exact absurd equal (List.ne_of_not_mem_cons (List.nodup_cons.1 distinct).1)

/-! ### Two loops -/

theorem loopsBelow_run (h : s.task.LoopsBelow) (run : Run mayStart s t) : t.task.LoopsBelow := by
  induction run with
  | refl => exact h
  | @tail u t _ last ih =>
    rcases last with step | ⟨-, rfl⟩
    · exact ih.of_subset step.nextLoop step.isAlive
    · unfold Schedule.start
      dsimp only
      cases running : u.task.isRunning with
      | true =>
        rw [PeriodicTask.started_of_running running]
        exact ih
      | false =>
        have granted := PeriodicTask.start_of_idle running
        rw [PeriodicTask.started_of_start granted]
        exact ih.start granted

theorem isInRun_iff {task : PeriodicTask} {loop : Nat} :
    task.isInRun loop = true ↔ ∃ state, task.loops.get? loop = some state ∧ state.phase = .running := by
  simp [PeriodicTask.isInRun, Option.any_eq_true]

/-- Two loops in a run are two runs in flight. -/
theorem two_le_runsInFlight {task : PeriodicTask} {l l' : Nat} (differ : l ≠ l')
    (inRun : task.isInRun l = true) (inRun' : task.isInRun l' = true) : 2 ≤ task.runsInFlight := by
  obtain ⟨state, found, running⟩ := isInRun_iff.1 inRun
  obtain ⟨state', found', running'⟩ := isInRun_iff.1 inRun'
  have distinct : [(l, state), (l', state')].Nodup := by simp [differ]
  refine (List.subperm_of_subset distinct ?_).length_le
  intro entry member
  rw [List.mem_filter, decide_eq_true_eq]
  rcases List.mem_pair.1 member with rfl | rfl
  · exact ⟨Table.mem_toList_iff.2 found, running⟩
  · exact ⟨Table.mem_toList_iff.2 found', running'⟩

/-- A loop that is there can be got to run the job, while the others stay as they are. -/
theorem exists_run_inRun (s : Schedule) {loop : Nat} (alive : s.task.isAlive loop = true) :
    ∃ t, Run (fun _ => False) s t ∧ t.task.isInRun loop = true ∧
      ∀ l, loop ≠ l → t.task.loops.get? l = s.task.loops.get? l := by
  obtain ⟨state, found⟩ := (PeriodicTask.isAlive_iff loop).1 alive
  by_cases running : state.phase = .running
  · exact ⟨s, .refl, isInRun_iff.2 ⟨state, found, running⟩, fun _ _ => rfl⟩
  · let asked : Schedule := { s with task := s.task.runNow }
    have may : asked.task.mayWake state asked.now .permit = true := by
      simp [asked, PeriodicTask.runNow, PeriodicTask.mayWake, running]
    have look := @PeriodicTask.get?_setPhase asked.task loop .running
    refine ⟨{ asked with task := asked.task.wake loop .permit }, ?_, ?_, ?_⟩
    · exact .tail (.single (Or.inl .runNow)) (Or.inl (@GoesOn.wake asked loop state .permit found may))
    · refine isInRun_iff.2 ⟨{ state with phase := .running }, ?_, rfl⟩
      refine (look loop).trans ?_
      rw [if_pos rfl]
      exact congrArg (Option.map _) found
    · intro l differs
      refine (look l).trans ?_
      rw [if_neg differs]
      rfl

end Schedule

/-- At most one run of a task is in flight as long as starts that are granted find no loop left. If a
loop is left at a start that is granted, two runs can be in flight after it without another start;
if none is left, they cannot. -/
theorem single_flight_iff {name : String} {nanos : Nat} {task : PeriodicTask}
    (made : PeriodicTask.create name nanos = .ok task) :
    (∀ later, Schedule.Run Schedule.NoneLeft ⟨task, 0⟩ later → later.task.runsInFlight ≤ 1) ∧
      ∀ before, Schedule.Run (fun _ => True) ⟨task, 0⟩ before → before.task.isRunning = false →
        ((∃ later, Schedule.Run (fun _ => False) before.start later ∧
            2 ≤ later.task.runsInFlight) ↔
          ∃ loop, before.task.isAlive loop = true) := by
  have fresh := PeriodicTask.isAlive_create made
  have none_yet : Schedule.OneLoop ⟨task, 0⟩ := fun l _ alive => nomatch (fresh l).symm.trans alive
  refine ⟨fun later run => (none_yet.run run).runsInFlight_le, ?_⟩
  intro before run idle
  have below := Schedule.loopsBelow_run (s := ⟨task, 0⟩)
    (fun l alive => nomatch (fresh l).symm.trans alive) run
  constructor
  · rintro ⟨later, quiet, two⟩
    by_contra none_alive
    simp only [not_exists, Bool.not_eq_true] at none_alive
    have one : before.start.OneLoop := by
      refine Schedule.OneLoop.start ?_ (Or.inr none_alive)
      exact fun l _ alive => nomatch (none_alive l).symm.trans alive
    have run : Schedule.Run Schedule.NoneLeft before.start later :=
      Schedule.Run.mono (fun _ => False.elim) quiet
    have most := (one.run run).runsInFlight_le
    omega
  · rintro ⟨loop, alive⟩
    have granted := PeriodicTask.start_of_idle idle
    have alive_start (l : Nat) := @PeriodicTask.isAlive_start before.task _ _ l granted
    rw [← PeriodicTask.started_of_start granted] at alive_start
    have differ : before.task.nextLoop ≠ loop := Nat.ne_of_gt (below loop alive)
    have left := alive_start loop
    rw [if_neg differ, alive] at left
    obtain ⟨first, run, inRun, others⟩ := before.start.exists_run_inRun left
    have new : first.task.isAlive before.task.nextLoop = true := by
      rw [PeriodicTask.isAlive_congr (others _ differ.symm)]
      exact (alive_start _).trans (if_pos rfl)
    obtain ⟨second, run', inRun', others'⟩ := first.exists_run_inRun new
    refine ⟨second, run.trans run', Schedule.two_le_runsInFlight differ inRun' ?_⟩
    rw [PeriodicTask.isInRun, others' loop differ]
    exact inRun

/-- A run that is requested is in flight, and the only one. -/
theorem single_flight_iff_requested :
    ∃ (task : PeriodicTask) (later : Schedule),
      PeriodicTask.create "traffic" 60000000000 = .ok task ∧
      Schedule.Run Schedule.NoneLeft ⟨task, 0⟩ later ∧ later.task.isInRun 0 = true ∧
      later.task.runsInFlight ≤ 1 := by
  let task : PeriodicTask := { name := "traffic", intervalMs := 60000 }
  let begun : Schedule := Schedule.start ⟨task, 0⟩
  let asked : Schedule := { begun with task := begun.task.runNow }
  let woken : Schedule := { asked with task := asked.task.wake 0 .permit }
  have made : PeriodicTask.create "traffic" 60000000000 = .ok task := by decide
  have starts : Schedule.Run Schedule.NoneLeft ⟨task, 0⟩ begun :=
    .single (Or.inr ⟨Or.inr fun _ => rfl, rfl⟩)
  have wakes : asked.GoesOn woken := @Schedule.GoesOn.wake asked 0 {} .permit (by decide) (by decide)
  have run : Schedule.Run Schedule.NoneLeft ⟨task, 0⟩ woken :=
    .tail (.tail starts (Or.inl .runNow)) (Or.inl wakes)
  exact ⟨task, woken, made, run, by decide, (single_flight_iff made).1 woken run⟩

/-- A task is stopped while a run is in flight and started again before that run has ended, and the
new loop begins a run. -/
theorem runs_overlap_after_restart :
    ∃ (task : PeriodicTask) (later : Schedule),
      PeriodicTask.create "traffic" 60000000000 = .ok task ∧
      Schedule.Run (fun _ => True) ⟨task, 0⟩ later ∧ later.task.runsInFlight = 2 := by
  let task : PeriodicTask := { name := "traffic", intervalMs := 60000 }
  let begun : Schedule := Schedule.start ⟨task, 0⟩
  let asked : Schedule := { begun with task := begun.task.runNow }
  let woken : Schedule := { asked with task := asked.task.wake 0 .permit }
  let stopped : Schedule := { woken with task := woken.task.cancel.2 }
  let restarted : Schedule := stopped.start
  let askedAgain : Schedule := { restarted with task := restarted.task.runNow }
  let wokenAgain : Schedule := { askedAgain with task := askedAgain.task.wake 1 .permit }
  have wakes : asked.GoesOn woken := @Schedule.GoesOn.wake asked 0 {} .permit (by decide) (by decide)
  have wakesAgain : askedAgain.GoesOn wokenAgain :=
    @Schedule.GoesOn.wake askedAgain 1 {} .permit (by decide) (by decide)
  have first : Schedule.Run (fun _ => True) ⟨task, 0⟩ woken :=
    .tail (.tail (.single (Or.inr ⟨trivial, rfl⟩)) (Or.inl .runNow)) (Or.inl wakes)
  have second : Schedule.Run (fun _ => True) woken restarted :=
    .tail (.single (Or.inl .stop)) (Or.inr ⟨trivial, rfl⟩)
  have third : Schedule.Run (fun _ => True) restarted wokenAgain :=
    .tail (.single (Or.inl .runNow)) (Or.inl wakesAgain)
  exact ⟨task, wokenAgain, by decide, (first.trans second).trans third, by decide⟩

end Tollgate
