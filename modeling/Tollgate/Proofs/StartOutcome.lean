import Tollgate.Proofs.Stopping

/-!
# What a start leaves

A start begins the pull loop before it knows that the push loop can begin. The two tasks are told to
stop one after the other, the push task when the pull loop has ended, so a start that comes while a
stop waits for the pull loop begins a pull loop and fails. That is the only way in which a start that
fails does anything (`failed_start_does_nothing_iff`).
-/

namespace Tollgate

namespace PeriodicTask

/-- The loop in force, if there is one, has not ended and was not told to stop. -/
def IsSteady (task : PeriodicTask) : Prop :=
  ∀ loop, task.current = some loop →
    ∃ state, task.loops.get? loop = some state ∧ state.isCancelled = false

variable {task later : PeriodicTask} {loop : Nat}

theorem IsSteady.isRunning_iff (h : task.IsSteady) :
    task.isRunning = true ↔ ∃ loop, task.current = some loop := by
  rw [isRunning, Option.any_eq_true]
  constructor
  · rintro ⟨loop, current, -⟩
    exact ⟨loop, current⟩
  · rintro ⟨loop, current⟩
    obtain ⟨state, found, -⟩ := h loop current
    exact ⟨loop, current, isAlive_of_get? found⟩

theorem current_of_create {name : String} {nanos : Nat} (made : create name nanos = .ok task) :
    task.current = none := by
  unfold create at made
  split at made
  · cases made
  · cases made
    rfl

theorem isSteady_of_idle (idle : task.current = none) : task.IsSteady :=
  fun _ current => nomatch idle.symm.trans current

theorem IsSteady.of_loops (h : task.IsSteady) (loops : later.loops = task.loops)
    (current : later.current = task.current) : later.IsSteady := by
  unfold IsSteady
  rw [loops, current]
  exact h

theorem IsSteady.setPhase (h : task.IsSteady) (phase : LoopPhase) :
    (task.setPhase loop phase).IsSteady := by
  intro l current
  rw [(keepsLoops_setPhase phase).current_eq] at current
  obtain ⟨state, found, untold⟩ := h l current
  rw [get?_setPhase, found]
  split
  · exact ⟨_, rfl, untold⟩
  · exact ⟨state, rfl, untold⟩

/-- A loop that ends was told to, so it is not the one in force. -/
theorem IsSteady.wake (h : task.IsSteady) {state : TaskLoop} {now : Nat} {wakeup : Wakeup}
    (found : task.loops.get? loop = some state) (may : task.mayWake state now wakeup = true) :
    (task.wake loop wakeup).IsSteady := by
  cases wakeup with
  | timer => exact h.setPhase .running
  | permit =>
    exact (@IsSteady.setPhase task loop h (if task.isRequested then .running else .rearming)).of_loops
      rfl rfl
  | cancelled =>
    intro l current
    obtain ⟨state', found', untold⟩ := h l current
    refine ⟨state', ?_, untold⟩
    rw [PeriodicTask.wake, Table.get?_erase_of_ne]
    · exact found'
    · rintro rfl
      obtain rfl := Option.some.inj (found.symm.trans found')
      simp [mayWake, untold] at may

theorem isSteady_start (granted : task.start = .ok (loop, later)) : later.IsSteady := by
  obtain ⟨-, rfl, rfl⟩ := start_eq_ok_iff.1 granted
  rintro l ⟨⟩
  exact ⟨{}, Table.get?_insert_self .., rfl⟩

end PeriodicTask

namespace Coordinator

/-- A start leaves both tasks as they are. -/
def StartsNothing (coordinator : Coordinator) : Prop := coordinator.start.2 = ([], coordinator)

/-- A start begins a loop of the pull task, and leaves the push task with the loop that it has. -/
structure StartsPullOnly (coordinator : Coordinator) : Prop where
  loops : coordinator.start.2.1 = [(.pull, coordinator.pullTask.nextLoop)]
  pull : coordinator.start.2.2.pullTask.isRunning = true
  push : coordinator.start.2.2.pushTask = coordinator.pushTask
  running : coordinator.pushTask.isRunning = true

/-- The tasks of a coordinator are steady. -/
def IsSteady (coordinator : Coordinator) : Prop := ∀ kind, (coordinator.task kind).IsSteady

variable {coordinator later : Coordinator}

theorem start_of_running (running : coordinator.pullTask.isRunning = true) :
    coordinator.StartsNothing := by
  rw [StartsNothing, start, PeriodicTask.start, if_pos running]

/-- A start that fails begins a pull loop if none is running. -/
theorem startsPullOnly_of_idle {e : Error} (failed : coordinator.start.1 = .error e)
    (idle : coordinator.pullTask.isRunning = false) : coordinator.StartsPullOnly := by
  obtain ⟨pullTask, pulls⟩ : ∃ later, coordinator.pullTask.start =
      .ok (coordinator.pullTask.nextLoop, later) := ⟨_, PeriodicTask.start_of_idle idle⟩
  have runs : pullTask.isRunning = true := by
    obtain ⟨-, -, rfl⟩ := PeriodicTask.start_eq_ok_iff.1 pulls
    exact (PeriodicTask.isAlive_start pulls).trans (if_pos rfl)
  cases running : coordinator.pushTask.isRunning with
  | false =>
    rw [start, pulls, PeriodicTask.start_of_idle running] at failed
    cases failed
  | true =>
    obtain ⟨error, pushes⟩ : ∃ error, coordinator.pushTask.start = .error error := by
      rw [PeriodicTask.start, if_pos running]
      exact ⟨_, rfl⟩
    have outcome : coordinator.start.2 =
        ([(.pull, coordinator.pullTask.nextLoop)], { coordinator with pullTask }) := by
      rw [start, pulls, pushes]
    exact ⟨by rw [outcome], by rw [outcome]; exact runs, by rw [outcome], running⟩

theorem IsSteady.setTask (h : coordinator.IsSteady) {task : PeriodicTask} (steady : task.IsSteady)
    (kind : CycleKind) : (coordinator.setTask task kind).IsSteady := by
  intro kind'
  rw [task_setTask]
  split
  · exact steady
  · exact h kind'

theorem IsSteady.of_retimes (h : coordinator.IsSteady) (retimes : coordinator.Retimes later) :
    later.IsSteady := by
  intro kind
  obtain ⟨_, _, same⟩ := retimes.task kind
  exact same ▸ (h kind).of_loops rfl rfl

end Coordinator

namespace Service

variable {a c : Nat} {s t : Service} {role : Simulation.Role}

/-! ### The loops in force -/

theorem isSteady_finish (h : s.coordinator.IsSteady) (kind : CycleKind) :
    (s.finish c role kind).coordinator.IsSteady := by
  have handed := h.of_retimes (Coordinator.retimes_setLane (s.coordinator.lane kind).leave kind)
  cases role with
  | caller => exact handed
  | loop own loop =>
    refine handed.setTask ?_ own
    exact (PeriodicTask.IsSteady.setPhase (handed own) .rearming).of_loops rfl rfl

theorem isSteady_settlePull (h : s.coordinator.IsSteady) (returnsAt : Nat)
    (progress : Progress PullCycle Unit) :
    (s.settlePull c role returnsAt progress).coordinator.IsSteady := by
  cases progress with
  | calling cycle => exact h
  | finished result => exact isSteady_finish h .pull

theorem isSteady_settlePush (h : s.coordinator.IsSteady) (returnsAt : Nat)
    (progress : Progress PushCycle PushSummary) :
    (s.settlePush c role returnsAt progress).coordinator.IsSteady := by
  cases progress with
  | calling cycle => exact h
  | finished result => exact isSteady_finish h .push

theorem Move.isSteady (move : Move a c s t) (h : s.coordinator.IsSteady) :
    t.coordinator.IsSteady := by
  cases move with
  | wake found there may =>
    rw [coordinator_wake]
    exact h.setTask ((h _).wake there may) _
  | sleep found there rearming nothing => exact h.setTask ((h _).setPhase _) _
  | enter found => exact h.of_retimes (Coordinator.retimes_setLane _ _)
  | beginPull found held returnsAt =>
    refine isSteady_settlePull ?_ _ _
    exact h.of_retimes (Coordinator.retimes_beginPull _)
  | resumePull found returned plane returnsAt =>
    refine isSteady_settlePull ?_ _ _
    exact h.of_retimes (Coordinator.retimes_resumePull _ _ _)
  | beginPush found held now returnsAt =>
    refine isSteady_settlePush ?_ _ _
    exact h
  | resumePush found returned peers now returnsAt =>
    refine isSteady_settlePush ?_ _ _
    exact h
  | @resumeStop role cycle found stopped =>
    cases cycle with
    | stoppingPull loop =>
      exact h.setTask (PeriodicTask.isSteady_of_idle PeriodicTask.current_cancel) .push
    | stoppingPush loop => exact h

/-! ### Where a stop is -/

/-- A stop waits for the pull loop. -/
def StopsPull (s : Service) : Prop :=
  ∃ c loop, s.carriers.get? c = some ⟨.caller, .stopping (.stoppingPull loop)⟩

/-- The push task is told to stop after the pull task, when the pull loop has ended. -/
structure InOrder (s : Service) : Prop where
  steady : s.coordinator.IsSteady
  behind : s.coordinator.pushTask.current ≠ none →
    s.coordinator.pullTask.current ≠ none ∨ s.StopsPull

theorem Move.eq_resumeStop (move : Move a c s t) {cycle : StopCycle}
    (found : s.carriers.get? c = some ⟨role, .stopping cycle⟩) : t = s.resumeStop c role cycle := by
  cases move with
  | resumeStop found' stopped =>
    cases found.symm.trans found'
    rfl
  | wake found' there may => cases found.symm.trans found'
  | sleep found' there rearming nothing => cases found.symm.trans found'
  | enter found' => cases found.symm.trans found'
  | beginPull found' held returnsAt => cases found.symm.trans found'
  | resumePull found' returned plane returnsAt => cases found.symm.trans found'
  | beginPush found' held now returnsAt => cases found.symm.trans found'
  | resumePush found' returned peers now returnsAt => cases found.symm.trans found'

namespace InOrder

theorem move (h : s.InOrder) (move : Move a c s t) : t.InOrder := by
  refine ⟨move.isSteady h.steady, fun pushes => ?_⟩
  have apart := move.apart
  have stays (going : ∀ role loop, s.carriers.get? c ≠ some ⟨role, .stopping (.stoppingPull loop)⟩)
      (stops : s.StopsPull) : t.StopsPull := by
    obtain ⟨c', loop, found⟩ := stops
    refine ⟨c', loop, (apart.get?_eq ?_).trans found⟩
    rintro rfl
    exact going .caller loop found
  by_cases stopping : ∃ role cycle, s.carriers.get? c = some ⟨role, .stopping cycle⟩
  · obtain ⟨role, cycle, found⟩ := stopping
    obtain rfl := move.eq_resumeStop found
    cases cycle with
    | stoppingPull loop => exact absurd PeriodicTask.current_cancel pushes
    | stoppingPush loop =>
      refine (h.behind pushes).imp_right (stays fun role loop found' => ?_)
      cases found.symm.trans found'
  · have going : ∀ role cycle, s.carriers.get? c ≠ some ⟨role, .stopping cycle⟩ :=
      fun role cycle found => stopping ⟨role, cycle, found⟩
    have pull := ((move.losesLoops going).task .pull).current_eq
    have push := ((move.losesLoops going).task .push).current_eq
    dsimp only [Coordinator.task] at pull push
    rw [push] at pushes
    rw [pull]
    exact (h.behind pushes).imp_right (stays fun role loop => going role _)

theorem step (h : s.InOrder) (step : Step a s t) : t.InOrder := by
  cases step with
  | operate open_ => exact ⟨h.steady, h.behind⟩
  | elsewhere active scope => exact ⟨h.steady, h.behind⟩
  | pass forward => exact ⟨h.steady, h.behind⟩
  | move move => exact h.move move

/-- A carrier more; those that there are keep their stages. -/
theorem begin (h : s.InOrder) (manned : s.Manned) (stage : Simulation.Stage) :
    (s.begin role stage).InOrder := by
  refine ⟨h.steady, fun pushes => (h.behind pushes).imp_right ?_⟩
  rintro ⟨c, loop, found⟩
  have known := manned.below c .caller (role?_of_get? found)
  exact ⟨c, loop, (Table.get?_insert_of_ne _ (Nat.ne_of_gt known) _).trans found⟩

theorem ask (h : s.InOrder) (manned : s.Manned) (request : ServiceRequest) :
    (s.ask request).InOrder := by
  cases request with
  | pull => exact h.begin manned _
  | push => exact h.begin manned _
  | stop =>
    refine ⟨?_, fun _ => Or.inr ⟨s.nextCarrier, _, Table.get?_insert_self _ _ _⟩⟩
    exact h.steady.setTask (PeriodicTask.isSteady_of_idle PeriodicTask.current_cancel) .pull
  | start =>
    unfold Service.ask Coordinator.start
    cases pulls : s.coordinator.pullTask.start with
    | error e => exact h
    | ok begun =>
      obtain ⟨pullLoop, pullTask⟩ := begun
      have pull := PeriodicTask.isSteady_start pulls
      have inForce : pullTask.current ≠ none := by
        obtain ⟨-, -, rfl⟩ := PeriodicTask.start_eq_ok_iff.1 pulls
        nofun
      cases pushes : s.coordinator.pushTask.start with
      | error e => exact ⟨h.steady.setTask pull .pull, fun _ => Or.inl inForce⟩
      | ok begun =>
        obtain ⟨pushLoop, pushTask⟩ := begun
        have push := PeriodicTask.isSteady_start pushes
        refine ⟨fun kind => ?_, fun _ => Or.inl inForce⟩
        cases kind with
        | pull => exact pull.of_loops rfl rfl
        | push => exact push

theorem run (h : s.InOrder) (manned : s.Manned) (run : Run a s t) : t.InOrder := by
  induction run with
  | refl => exact h
  | tail before last ih =>
    rcases last with step | ⟨request, rfl⟩
    · exact ih.step step
    · exact ih.ask (manned.run before) request

theorem created {scope : String} {config : CoordinatorConfig} {hasRecorder hasReporter : Bool}
    {coordinator : Coordinator} {registry : Registry}
    (created : Coordinator.create scope config hasRecorder hasReporter = .ok coordinator) :
    ({ registry, coordinator } : Service).InOrder := by
  have idle (kind : CycleKind) : (coordinator.task kind).current = none := by
    obtain ⟨_, _, made⟩ := (tasks_of_create created).2.2 kind
    exact PeriodicTask.current_of_create made
  refine ⟨fun kind => PeriodicTask.isSteady_of_idle (idle kind), fun pushes => ?_⟩
  exact absurd (idle .push) pushes

end InOrder

end Service

/-- A start that fails does nothing exactly if the pull task is running. Otherwise it begins a pull loop
and leaves the push task as it is; that happens only while a stop waits for the pull loop. -/
theorem failed_start_does_nothing_iff {a : Nat} {scope : String} {config : CoordinatorConfig}
    {hasRecorder hasReporter : Bool} {coordinator : Coordinator} {registry : Registry}
    {before : Service} {e : Error}
    (created : Coordinator.create scope config hasRecorder hasReporter = .ok coordinator)
    (worked : Service.Run a { registry, coordinator } before)
    (failed : before.coordinator.start.1 = .error e) :
    (before.coordinator.StartsNothing ↔ before.coordinator.pullTask.isRunning = true) ∧
      (before.coordinator.pullTask.isRunning = false →
        before.coordinator.StartsPullOnly ∧ before.StopsPull) := by
  have first : ({ registry, coordinator } : Service).InOrder := .created created
  have order := first.run (.created created) worked
  refine ⟨⟨fun nothing => ?_, Coordinator.start_of_running⟩, fun idle => ?_⟩
  · by_contra idle
    have more := (Coordinator.startsPullOnly_of_idle failed (Bool.not_eq_true _ ▸ idle)).loops
    rw [nothing] at more
    cases more
  · have only := Coordinator.startsPullOnly_of_idle failed idle
    refine ⟨only, (order.behind ?_).resolve_left fun pulls => ?_⟩
    · obtain ⟨loop, current⟩ := ((order.steady .push).isRunning_iff).1 only.running
      exact fun idle => nomatch idle.symm.trans current
    · obtain ⟨loop, current⟩ := Option.ne_none_iff_exists'.1 pulls
      exact nomatch idle.symm.trans (((order.steady .pull).isRunning_iff).2 ⟨loop, current⟩)

/-! A coordinator is started, and stopped while its first pull is in flight. A start fails before the
stop, and again while it waits for that pull. -/

namespace InterruptedStart

open CreditedStop (coordinator registry started created)

def woken : Service := started.wake 0 .pull 0 .permit

def entered : Service := woken.enter 0 (.loop .pull 0) .pull

/-- The pull loop is at its first call. -/
def pulling : Service := entered.beginPull 0 (.loop .pull 0) 1000

def stopping : Service := pulling.ask .stop

theorem run : Service.Run 0 { registry, coordinator } pulling := by
  have wakes : Service.Move 0 0 started woken :=
    @Service.Move.wake 0 0 started .pull 0 {} .permit (by decide) (by decide) (by decide)
  have enters : Service.Move 0 0 woken entered := .enter (by decide)
  have begins : Service.Move 0 0 entered pulling := .beginPull (by decide) (by decide) 1000
  have works : Service.Quiet 0 started pulling :=
    .tail (.tail (.single (.move wakes)) (.move enters)) (.move begins)
  exact .head (Or.inr ⟨.start, rfl⟩) (Relation.ReflTransGen.mono (fun _ _ => Or.inl) _ _ works)

theorem stopped : Service.Run 0 { registry, coordinator } stopping := run.tail (Or.inr ⟨.stop, rfl⟩)

theorem failed_start_does_nothing :
    Service.Run 0 { registry, coordinator } pulling ∧
      pulling.coordinator.start.1 =
        .error (.internal "periodic task roster-pull already started") ∧
      pulling.coordinator.StartsNothing ∧ stopping.StopsPull := by
  have failed : pulling.coordinator.start.1 =
      .error (.internal "periodic task roster-pull already started") := rfl
  have failed' : stopping.coordinator.start.1 =
      .error (.internal "periodic task traffic-push already started") := rfl
  have nothing := (failed_start_does_nothing_iff created run failed).1.2 (by decide)
  have stops := (failed_start_does_nothing_iff created stopped failed').2 (by decide)
  exact ⟨run, failed, nothing, stops.2⟩

theorem failed_start_starts_pull :
    Service.Run 0 { registry, coordinator } stopping ∧
      stopping.coordinator.start.1 =
        .error (.internal "periodic task traffic-push already started") ∧
      stopping.coordinator.pullTask.isRunning = false ∧ stopping.coordinator.StartsPullOnly :=
  ⟨stopped, rfl, by decide,
    Coordinator.startsPullOnly_of_idle rfl (by decide)⟩

end InterruptedStart

end Tollgate
