import Tollgate.Proofs.SingleFlight

/-!
# Tasks in time

What happens to a task, with the moments at which it happens. The clock moves only when no loop has
anything left to do, and not past the deadline of a sleeping loop (`Schedule.Acts`); how long a run of
the job takes is left open. `Schedule.Course` keeps the log.

A loop sees little of all this: the interval, the permit, whether a run is requested, and its own
phase. `LoopView.Move` is all that can happen to that, and `Schedule.Course.view_induction` takes what
moves keep to whole courses.
-/

namespace Tollgate

/-- Something that happens to a task, as far as it shows. -/
inductive TaskEvent where
  | starts
  | stops
  | requests
  | sets (nanos : Nat)
  /-- A loop begins a run, on the permit for a requested one or on its timer. -/
  | begins (loop : Nat) (wakeup : Wakeup)
  | ends (loop : Nat)
  | fails (loop : Nat)
deriving DecidableEq, Repr

namespace PeriodicTask

section Definitions

variable (task : PeriodicTask)

/-- The run that a loop begins when it wakes up, if it does. -/
def beginning? (loop : Nat) : Wakeup → Option TaskEvent
  | .cancelled => none
  | .permit => if task.isRequested then some (.begins loop .permit) else none
  | .timer => some (.begins loop .timer)

/-- Whether a loop lets the clock move from one moment to another: it is in a run, or sleeps for so
long and has no reason to wake up. -/
def letsPass (now later : Nat) (loop : TaskLoop) : Bool :=
  match loop.phase with
  | .rearming => false
  | .sleeping deadline => later ≤ deadline && (task.wakeup? loop now).isNone
  | .running => true

/-- What holds of every task: a loop that was not told to stop is the one in force, and whoever
requested a run left the permit for it. -/
structure Orderly : Prop where
  numbered : task.LoopsBelow
  inForce : ∀ l state, task.loops.get? l = some state → state.isCancelled = false →
    task.current = some l
  pending : task.isRequested = true → task.hasPermit = true

end Definitions

end PeriodicTask

namespace Schedule

/-- Whether no loop has two reasons to wake up at once. -/
def IsUntied (s : Schedule) : Prop :=
  ∀ loop state, s.task.loops.get? loop = some state → ∀ first second,
    s.task.mayWake state s.now first = true → s.task.mayWake state s.now second = true →
    first = second

theorem isUntied_iff {s : Schedule} :
    s.IsUntied ↔ ∀ entry ∈ s.task.loops.toList, ∀ first ∈ [Wakeup.cancelled, .permit, .timer],
      ∀ second ∈ [Wakeup.cancelled, .permit, .timer],
        s.task.mayWake entry.2 s.now first = true → s.task.mayWake entry.2 s.now second = true →
          first = second := by
  have all (wakeup : Wakeup) : wakeup ∈ [Wakeup.cancelled, .permit, .timer] := by
    cases wakeup <;> simp
  constructor
  · intro h entry member first _ second _
    exact h entry.1 entry.2 (Table.mem_toList_iff.1 member) first second
  · intro h loop state found first second
    exact h (loop, state) (Table.mem_toList_iff.2 found) first (all first) second (all second)

instance : DecidablePred IsUntied := fun _ => decidable_of_iff _ isUntied_iff.symm

/-- One thing that happens to a task, and what shows of it. A loop that has several reasons to wake up
does so for any of them. -/
inductive Acts (s : Schedule) : Option TaskEvent → Schedule → Prop
  | start : Acts s (some .starts) s.start
  | stop : Acts s (some .stops) { s with task := s.task.cancel.2 }
  | request : Acts s (some .requests) { s with task := s.task.runNow }
  | set (nanos : Nat) : Acts s (some (.sets nanos)) { s with task := s.task.setInterval nanos }
  | wake {loop : Nat} {state : TaskLoop} {wakeup : Wakeup}
      (found : s.task.loops.get? loop = some state)
      (may : s.task.mayWake state s.now wakeup = true) :
    Acts s (s.task.beginning? loop wakeup) { s with task := s.task.wake loop wakeup }
  | sleep {loop : Nat} {state : TaskLoop} (found : s.task.loops.get? loop = some state)
      (rearming : state.phase = .rearming) (nothing : s.task.wakeup? state s.now = none) :
    Acts s none { s with task := s.task.sleep loop s.now }
  | finish {loop : Nat} (inRun : s.task.isInRun loop = true) :
    Acts s (some (.ends loop)) { s with task := s.task.finishRun loop }
  | fail {loop : Nat} (inRun : s.task.isInRun loop = true) :
    Acts s (some (.fails loop)) { s with task := s.task.failRun loop }
  | pass {later : Nat} (forward : s.now ≤ later)
      (calm : ∀ entry ∈ s.task.loops.toList, s.task.letsPass s.now later entry.2 = true) :
    Acts s none { s with now := later }

/-- A course of things that happen, with its log. Unless ties are left to happen, no loop has two
reasons to wake up at once on the way. -/
inductive Course (ties : Prop) (s : Schedule) : List (Nat × TaskEvent) → Schedule → Prop
  | refl : Course ties s [] s
  | tail {log : List (Nat × TaskEvent)} {t u : Schedule} {event : Option TaskEvent}
      (course : Course ties s log t) (untied : ties ∨ t.IsUntied) (act : t.Acts event u) :
    Course ties s (log ++ event.toList.map (t.now, ·)) u

end Schedule

/-- What a loop sees of its task, and the time. -/
structure LoopView where
  phase : LoopPhase
  intervalMs : Nat
  hasPermit : Bool
  isRequested : Bool
  now : Nat
deriving DecidableEq

/-- Whether something happens besides a loop: it neither begins nor ends a run of the loop, nor makes
or meets a request, nor sets the interval. -/
def TaskEvent.isBeside (loop : Nat) : TaskEvent → Bool
  | .starts | .stops => true
  | .requests | .sets _ => false
  | .begins l wakeup => l ≠ loop && wakeup ≠ .permit
  | .ends l | .fails l => l ≠ loop

namespace LoopView

/-- What can happen to what a loop sees. -/
inductive Move (ties : Prop) (loop : Nat) (view : LoopView) : Option TaskEvent → LoopView → Prop
  | beside {event : Option TaskEvent} (beside : event.all (·.isBeside loop) = true) :
    Move ties loop view event view
  | request : Move ties loop view (some .requests)
      { view with isRequested := true, hasPermit := true }
  | set (nanos : Nat) : Move ties loop view (some (.sets nanos))
      (if nanos = 0 then view else
        { view with
          intervalMs := PeriodicTask.wholeMillis nanos
          hasPermit := view.hasPermit || PeriodicTask.wholeMillis nanos ≠ view.intervalMs })
  /-- The loop wakes up on its timer. -/
  | timer (due : view.phase = .rearming ∧ view.intervalMs = 0 ∨
        ∃ deadline, view.phase = .sleeping deadline ∧ deadline ≤ view.now)
      (alone : ties ∨ view.hasPermit = false) :
    Move ties loop view (some (.begins loop .timer)) { view with phase := .running }
  /-- The loop takes the permit where a run is requested. -/
  | permit (idle : view.phase ≠ .running) (requested : view.isRequested = true) :
    Move ties loop view (some (.begins loop .permit))
      { view with phase := .running, hasPermit := false, isRequested := false }
  /-- The loop takes the permit where none is requested. -/
  | rearm (idle : view.phase ≠ .running) (unasked : view.isRequested = false)
      (permit : view.hasPermit = true) :
    Move ties loop view none { view with phase := .rearming, hasPermit := false }
  /-- Another loop takes the permit. -/
  | taken {l : Nat} (other : l ≠ loop) (may : ties ∨ view.phase = .running) :
    Move ties loop view (if view.isRequested then some (.begins l .permit) else none)
      { view with hasPermit := false, isRequested := false }
  | sleep (rearming : view.phase = .rearming) (nothing : view.hasPermit = false) :
    Move ties loop view none { view with phase := .sleeping (view.now + view.intervalMs) }
  | finish (inRun : view.phase = .running) :
    Move ties loop view (some (.ends loop)) { view with phase := .rearming }
  | pass {later : Nat} (forward : view.now ≤ later)
      (calm : view.phase = .running ∨
        view.hasPermit = false ∧ ∃ deadline, view.phase = .sleeping deadline ∧ later ≤ deadline) :
    Move ties loop view none { view with now := later }

variable {ties : Prop} {loop : Nat} {view later : LoopView}

/-- What it takes for a loop to begin a run on its timer, and what that leaves. -/
theorem Move.timer_cases (move : view.Move ties loop (some (.begins loop .timer)) later) :
    later = { view with phase := .running } ∧ (ties ∨ view.hasPermit = false) ∧
      (view.phase = .rearming ∧ view.intervalMs = 0 ∨
        ∃ deadline, view.phase = .sleeping deadline ∧ deadline ≤ view.now) := by
  generalize shown : some (TaskEvent.begins loop .timer) = event at move
  cases move with
  | beside beside =>
    subst shown
    simp [TaskEvent.isBeside] at beside
  | timer due alone => exact ⟨rfl, alone, due⟩
  | taken =>
    split at shown
    · cases shown
    · cases shown
  | _ => cases shown

end LoopView

/-! ### What the operations leave of the settings -/

namespace PeriodicTask

variable {task later : PeriodicTask} {loop : Nat}

theorem setPhase_frame (phase : LoopPhase) :
    ∃ loops, task.setPhase loop phase = { task with loops } := by
  unfold setPhase
  split
  · exact ⟨_, rfl⟩
  · exact ⟨_, rfl⟩

theorem intervalMs_setPhase (phase : LoopPhase) :
    (task.setPhase loop phase).intervalMs = task.intervalMs := by
  obtain ⟨_, frame⟩ := @setPhase_frame task loop phase
  rw [frame]

theorem isRequested_setPhase (phase : LoopPhase) :
    (task.setPhase loop phase).isRequested = task.isRequested := by
  obtain ⟨_, frame⟩ := @setPhase_frame task loop phase
  rw [frame]

theorem cancel_frame :
    ∃ loops, task.cancel.2 = { task with loops, current := none } := by
  obtain ⟨_, _, _, _, _, _, _, current⟩ := task
  unfold cancel
  cases current with
  | none => exact ⟨_, rfl⟩
  | some l =>
    dsimp only
    split
    · exact ⟨_, rfl⟩
    · exact ⟨_, rfl⟩

theorem started_frame :
    ∃ loops nextLoop current, task.started = { task with loops, nextLoop, current } := by
  cases running : task.isRunning with
  | true => exact ⟨_, _, _, started_of_running running⟩
  | false => exact ⟨_, _, _, started_of_start (start_of_idle running)⟩

/-! ### Reasons to wake up -/

theorem mayWake_cancelled_iff {state : TaskLoop} {now : Nat} :
    task.mayWake state now .cancelled = true ↔ state.isCancelled = true ∧ state.phase ≠ .running := by
  simp [mayWake]

theorem mayWake_permit_iff {state : TaskLoop} {now : Nat} :
    task.mayWake state now .permit = true ↔ task.hasPermit = true ∧ state.phase ≠ .running := by
  simp [mayWake]

theorem mayWake_timer_iff {state : TaskLoop} {now : Nat} :
    task.mayWake state now .timer = true ↔
      state.phase = .rearming ∧ task.intervalMs = 0 ∨
        ∃ deadline, state.phase = .sleeping deadline ∧ deadline ≤ now := by
  cases phase : state.phase <;> simp [mayWake, phase]

theorem phase_ne_running_of_mayWake {state : TaskLoop} {now : Nat} {wakeup : Wakeup}
    (may : task.mayWake state now wakeup = true) : state.phase ≠ .running := by
  cases wakeup with
  | cancelled => exact (mayWake_cancelled_iff.1 may).2
  | permit => exact (mayWake_permit_iff.1 may).2
  | timer =>
    rcases mayWake_timer_iff.1 may with ⟨rearming, -⟩ | ⟨deadline, asleep, -⟩
    · rw [rearming]
      nofun
    · rw [asleep]
      nofun

/-- A loop that has nothing to wake up for finds no permit. -/
theorem hasPermit_of_wakeup?_eq_none {state : TaskLoop} {now : Nat} (idle : state.phase ≠ .running)
    (nothing : task.wakeup? state now = none) : task.hasPermit = false := by
  refine Bool.eq_false_iff.2 fun permit => ?_
  exact List.find?_eq_none.1 nothing .permit (by simp) (mayWake_permit_iff.2 ⟨permit, idle⟩)

/-! ### What a loop sees -/

/-- What a loop sees of its task at a moment. -/
def view (task : PeriodicTask) (loop now : Nat) : LoopView where
  phase := ((task.loops.get? loop).map (·.phase)).getD .rearming
  intervalMs := task.intervalMs
  hasPermit := task.hasPermit
  isRequested := task.isRequested
  now := now

theorem phase_view {state : TaskLoop} (found : task.loops.get? loop = some state) (now : Nat) :
    (task.view loop now).phase = state.phase := by
  rw [view, found]
  rfl

theorem view_congr {now : Nat} (frame : ∃ loops nextLoop current,
      later = { task with loops, nextLoop, current })
    (phase : (later.loops.get? loop).map (·.phase) = (task.loops.get? loop).map (·.phase)) :
    later.view loop now = task.view loop now := by
  obtain ⟨_, _, _, rfl⟩ := frame
  rw [view, view, phase]

theorem view_setPhase (alive : task.isAlive loop = true) (l now : Nat) (phase : LoopPhase) :
    (task.setPhase l phase).view loop now =
      if l = loop then { task.view loop now with phase } else task.view loop now := by
  obtain ⟨state, found⟩ := (isAlive_iff loop).1 alive
  obtain ⟨loops, frame⟩ := @setPhase_frame task l phase
  have look := @get?_setPhase task l phase loop
  rw [frame] at look ⊢
  dsimp only at look
  rw [view, view, look, found]
  split <;> rfl

end PeriodicTask

/-! ### What holds of every task -/

namespace PeriodicTask

variable {task later : PeriodicTask} {loop : Nat}

theorem orderly_create {name : String} {nanos : Nat} (made : create name nanos = .ok task) :
    task.Orderly := by
  have fresh := isAlive_create made
  refine ⟨?_, ?_, ?_⟩
  · exact fun l alive => nomatch (fresh l).symm.trans alive
  · intro l state found _
    exact nomatch (fresh l).symm.trans (isAlive_of_get? found)
  · unfold create at made
    split at made
    · cases made
    · cases made
      nofun

/-- The loops stay as they are or go on, and requests stay with their permit. -/
theorem Orderly.of_same (h : task.Orderly) (next : later.nextLoop = task.nextLoop)
    (current : later.current = task.current)
    (told : ∀ l state, later.loops.get? l = some state →
      ∃ before, task.loops.get? l = some before ∧ before.isCancelled = state.isCancelled)
    (pending : later.isRequested = true → later.hasPermit = true) : later.Orderly := by
  refine ⟨h.numbered.of_subset next ?_, ?_, pending⟩
  · intro l alive
    obtain ⟨state, found⟩ := (isAlive_iff l).1 alive
    obtain ⟨before, found, -⟩ := told l state found
    exact isAlive_of_get? found
  · intro l state found untold
    obtain ⟨before, found, same⟩ := told l state found
    exact current ▸ h.inForce l before found (same.trans untold)

theorem Orderly.setPhase (h : task.Orderly) (phase : LoopPhase) :
    (task.setPhase loop phase).Orderly := by
  have keeps := @keepsLoops_setPhase task loop phase
  refine h.of_same keeps.nextLoop_eq keeps.current_eq ?_ ?_
  · intro l state found
    rw [get?_setPhase] at found
    split at found
    · obtain ⟨before, there, rfl⟩ := Option.map_eq_some_iff.1 found
      exact ⟨before, there, rfl⟩
    · exact ⟨state, found, rfl⟩
  · obtain ⟨loops, frame⟩ := @setPhase_frame task loop phase
    rw [frame]
    exact h.pending

/-- A loop that ends. -/
theorem Orderly.failRun (h : task.Orderly) : (task.failRun loop).Orderly := by
  refine h.of_same rfl rfl ?_ h.pending
  intro l state found
  rw [PeriodicTask.failRun, Table.get?_erase] at found
  split at found
  · cases found
  · exact ⟨state, found, rfl⟩

theorem Orderly.wake (h : task.Orderly) (wakeup : Wakeup) : (task.wake loop wakeup).Orderly := by
  cases wakeup with
  | cancelled => exact h.failRun
  | timer => exact h.setPhase .running
  | permit =>
    have moved := @Orderly.setPhase task loop h (if task.isRequested then .running else .rearming)
    exact moved.of_same rfl rfl (fun l state found => ⟨state, found, rfl⟩) nofun

theorem Orderly.cancel (h : task.Orderly) : task.cancel.2.Orderly := by
  refine ⟨?_, ?_, ?_⟩
  · refine h.numbered.of_subset nextLoop_cancel fun l alive => ?_
    rwa [isAlive_cancel] at alive
  · intro l state found untold
    rw [get?_cancel] at found
    split at found
    · obtain ⟨before, -, rfl⟩ := Option.map_eq_some_iff.1 found
      cases untold
    next other => exact absurd (h.inForce l state found untold) other
  · obtain ⟨loops, frame⟩ := @cancel_frame task
    rw [frame]
    exact h.pending

theorem Orderly.started (h : task.Orderly) : task.started.Orderly := by
  cases running : task.isRunning with
  | true => exact (started_of_running running).symm ▸ h
  | false =>
    have granted := start_of_idle running
    rw [started_of_start granted]
    refine ⟨h.numbered.start granted, ?_, h.pending⟩
    intro l state found untold
    dsimp only [setLoop] at found ⊢
    rw [Table.get?_insert] at found
    split at found
    next own => rw [own]
    next =>
      have current := h.inForce l state found untold
      rw [isRunning, current] at running
      exact nomatch (isAlive_of_get? found).symm.trans running

theorem Orderly.setInterval (h : task.Orderly) (nanos : Nat) : (task.setInterval nanos).Orderly := by
  unfold PeriodicTask.setInterval
  split
  · exact h
  · refine h.of_same rfl rfl (fun l state found => ⟨state, found, rfl⟩) fun requested => ?_
    exact Bool.or_eq_true _ _ ▸ Or.inl (h.pending requested)

end PeriodicTask

namespace Schedule

variable {ties : Prop} {s t u : Schedule} {event : Option TaskEvent} {loop : Nat}
  {log : List (Nat × TaskEvent)}

theorem Acts.orderly (act : s.Acts event t) (h : s.task.Orderly) : t.task.Orderly := by
  cases act with
  | start => exact h.started
  | stop => exact h.cancel
  | request => exact ⟨h.numbered, h.inForce, fun _ => rfl⟩
  | set nanos => exact h.setInterval nanos
  | wake found may => exact h.wake _
  | sleep found rearming nothing => exact h.setPhase _
  | @finish l inRun =>
    have moved := @PeriodicTask.Orderly.setPhase _ l h .rearming
    exact moved.of_same rfl rfl (fun l state found => ⟨state, found, rfl⟩) moved.pending
  | fail inRun => exact h.failRun
  | pass forward calm => exact h

theorem Course.orderly (course : Course ties s log t) (h : s.task.Orderly) : t.task.Orderly := by
  induction course with
  | refl => exact h
  | tail _ _ act ih => exact act.orderly ih

/-! ### What a loop sees of what happens -/

/-- The loop is there before if it has been numbered. -/
theorem Acts.isAlive (act : s.Acts event t) (known : loop < s.task.nextLoop)
    (alive : t.task.isAlive loop = true) : s.task.isAlive loop = true := by
  cases act with
  | start =>
    unfold Schedule.start at alive
    cases running : s.task.isRunning with
    | true => rwa [PeriodicTask.started_of_running running] at alive
    | false =>
      have granted := PeriodicTask.start_of_idle running
      rwa [PeriodicTask.started_of_start granted, PeriodicTask.isAlive_start granted,
        if_neg (Nat.ne_of_gt known)] at alive
  | stop => exact (GoesOn.stop (s := s)).isAlive loop alive
  | request => exact alive
  | set nanos => exact (GoesOn.setInterval (s := s) nanos).isAlive loop alive
  | wake found may => exact (GoesOn.wake found may).isAlive loop alive
  | sleep found rearming nothing => exact (GoesOn.sleep found rearming nothing).isAlive loop alive
  | finish inRun => exact (GoesOn.finish inRun).isAlive loop alive
  | fail inRun => exact (GoesOn.fail inRun).isAlive loop alive
  | pass forward calm => exact alive

theorem Acts.nextLoop_le (act : s.Acts event t) : s.task.nextLoop ≤ t.task.nextLoop := by
  cases act with
  | start =>
    unfold Schedule.start
    cases running : s.task.isRunning with
    | true => exact Nat.le_of_eq (by rw [PeriodicTask.started_of_running running])
    | false =>
      rw [PeriodicTask.started_of_start (PeriodicTask.start_of_idle running)]
      exact Nat.le_succ _
  | stop => exact Nat.le_of_eq PeriodicTask.nextLoop_cancel.symm
  | set nanos => exact Nat.le_of_eq (PeriodicTask.keepsLoops_setInterval nanos).nextLoop_eq.symm
  | wake found may => exact Nat.le_of_eq PeriodicTask.nextLoop_wake.symm
  | sleep found rearming nothing => exact Nat.le_of_eq PeriodicTask.nextLoop_setPhase.symm
  | finish inRun => exact Nat.le_of_eq PeriodicTask.nextLoop_setPhase.symm
  | _ => exact Nat.le_refl _

/-- A loop wakes up, this one or another. Where no loop has two reasons to, another takes the permit
only while this one is in a run: one of the two was told to stop. -/
theorem wake_move (h : s.task.Orderly) (untied : ties ∨ s.IsUntied)
    (alive : s.task.isAlive loop = true) {l : Nat} {state : TaskLoop} {wakeup : Wakeup}
    (stays : (s.task.wake l wakeup).isAlive loop = true)
    (found : s.task.loops.get? l = some state) (may : s.task.mayWake state s.now wakeup = true) :
    (s.task.view loop s.now).Move ties loop (s.task.beginning? l wakeup)
      ((s.task.wake l wakeup).view loop s.now) := by
  have phase := PeriodicTask.phase_view found s.now
  have idle := PeriodicTask.phase_ne_running_of_mayWake may
  cases wakeup with
  | cancelled =>
    rw [PeriodicTask.isAlive_wake] at stays
    split at stays
    · cases stays
    next other =>
      have same : (s.task.wake l .cancelled).view loop s.now = s.task.view loop s.now := by
        refine PeriodicTask.view_congr ⟨_, _, _, rfl⟩ (congrArg _ ?_)
        exact Table.get?_erase_of_ne _ fun own => other ⟨rfl, own⟩
      exact same ▸ .beside rfl
  | timer =>
    have same : (s.task.wake l .timer).view loop s.now =
        (s.task.setPhase l .running).view loop s.now := rfl
    rw [same, PeriodicTask.view_setPhase alive]
    split
    next own =>
      subst own
      refine .timer ?_ (untied.imp_right fun untied => ?_)
      · rw [phase]
        exact PeriodicTask.mayWake_timer_iff.1 may
      · refine Bool.eq_false_iff.2 fun permit => ?_
        exact nomatch untied l state found _ _ may (PeriodicTask.mayWake_permit_iff.2 ⟨permit, idle⟩)
    next other => exact .beside (by simpa [TaskEvent.isBeside, PeriodicTask.beginning?] using other)
  | permit =>
    have permit := (PeriodicTask.mayWake_permit_iff.1 may).1
    have same : (s.task.wake l .permit).view loop s.now =
        { (s.task.setPhase l (if s.task.isRequested then .running else .rearming)).view loop s.now with
          hasPermit := false
          isRequested := false } := rfl
    rw [same, PeriodicTask.view_setPhase alive]
    split
    next own =>
      subst own
      rw [← phase] at idle
      cases requested : s.task.isRequested with
      | true =>
        rw [PeriodicTask.beginning?, requested]
        exact .permit idle requested
      | false =>
        rw [PeriodicTask.beginning?, requested]
        have rearm := @LoopView.Move.rearm ties l (s.task.view l s.now) idle requested permit
        rwa [show (s.task.view l s.now).isRequested = false from requested] at rearm
    next other =>
      refine .taken other (untied.imp_right fun untied => ?_)
      obtain ⟨own, there⟩ := (PeriodicTask.isAlive_iff loop).1 alive
      -- Of two loops one was told to stop, and if it is idle it has two reasons to wake up.
      have untold (l' : Nat) (state' : TaskLoop) (found' : s.task.loops.get? l' = some state')
          (idle' : state'.phase ≠ .running) : s.task.current = some l' := by
        refine h.inForce l' state' found' (Bool.eq_false_iff.2 fun told => ?_)
        exact nomatch untied l' state' found' _ _
          (PeriodicTask.mayWake_cancelled_iff.2 ⟨told, idle'⟩)
          (PeriodicTask.mayWake_permit_iff.2 ⟨permit, idle'⟩)
      rw [PeriodicTask.phase_view there]
      by_contra idle'
      have both := (untold l state found idle).symm.trans (untold loop own there idle')
      exact other (Option.some.inj both)

/-- Everything that happens to a task is, for a loop that stays, something that can happen to what it
sees. -/
theorem Acts.move (act : s.Acts event t) (h : s.task.Orderly) (untied : ties ∨ s.IsUntied)
    (alive : s.task.isAlive loop = true) (stays : t.task.isAlive loop = true) :
    (s.task.view loop s.now).Move ties loop event (t.task.view loop t.now) := by
  have known : loop < s.task.nextLoop := h.numbered loop alive
  obtain ⟨own, there⟩ := (PeriodicTask.isAlive_iff loop).1 alive
  cases act with
  | start =>
    have same : s.start.task.view loop s.now = s.task.view loop s.now := by
      refine PeriodicTask.view_congr PeriodicTask.started_frame ?_
      unfold Schedule.start
      cases running : s.task.isRunning with
      | true => rw [PeriodicTask.started_of_running running]
      | false =>
        rw [PeriodicTask.started_of_start (PeriodicTask.start_of_idle running)]
        exact congrArg _ (Table.get?_insert_of_ne _ (Nat.ne_of_gt known) _)
    exact same ▸ .beside rfl
  | stop =>
    have same : s.task.cancel.2.view loop s.now = s.task.view loop s.now := by
      obtain ⟨loops, frame⟩ := @PeriodicTask.cancel_frame s.task
      refine PeriodicTask.view_congr ⟨loops, _, _, frame⟩ ?_
      rw [PeriodicTask.get?_cancel]
      split
      · exact Option.map_map ..
      · rfl
    exact same.symm ▸ .beside rfl
  | request => exact .request
  | set nanos =>
    have set := @LoopView.Move.set ties loop (s.task.view loop s.now) nanos
    unfold PeriodicTask.setInterval
    split at set
    next nothing => rwa [if_pos nothing]
    next some_ => rwa [if_neg some_]
  | @wake l state wakeup found may => exact wake_move h untied alive stays found may
  | @sleep l state found rearming nothing =>
    rw [PeriodicTask.sleep_eq]
    dsimp only
    rw [PeriodicTask.view_setPhase alive]
    split
    next same =>
      subst same
      have phase := (PeriodicTask.phase_view found s.now).trans rearming
      refine .sleep phase ?_
      exact PeriodicTask.hasPermit_of_wakeup?_eq_none (by rw [rearming]; nofun) nothing
    next => exact .beside rfl
  | @finish l inRun =>
    have same : (s.task.finishRun l).view loop s.now =
        (s.task.setPhase l .rearming).view loop s.now := rfl
    dsimp only
    rw [same, PeriodicTask.view_setPhase alive]
    split
    next own =>
      subst own
      obtain ⟨state, found, running⟩ := isInRun_iff.1 inRun
      exact .finish ((PeriodicTask.phase_view found s.now).trans running)
    next other => exact .beside (by simpa [TaskEvent.isBeside] using other)
  | @fail l inRun =>
    rw [PeriodicTask.isAlive_failRun] at stays
    split at stays
    · cases stays
    next other =>
      have same : (s.task.failRun l).view loop s.now = s.task.view loop s.now :=
        PeriodicTask.view_congr ⟨_, _, _, rfl⟩ (congrArg _ (Table.get?_erase_of_ne _ other))
      exact same ▸ .beside (by simpa [TaskEvent.isBeside] using other)
  | @pass later forward calm =>
    refine .pass forward ?_
    have lets := calm (loop, own) (Table.mem_toList_iff.2 there)
    have phase := PeriodicTask.phase_view there s.now
    unfold PeriodicTask.letsPass at lets
    dsimp only at lets
    split at lets
    next => cases lets
    next deadline asleep =>
      obtain ⟨enough, nothing⟩ := (Bool.and_eq_true _ _).mp lets
      refine Or.inr ⟨?_, deadline, phase.trans asleep, of_decide_eq_true enough⟩
      exact PeriodicTask.hasPermit_of_wakeup?_eq_none (by rw [asleep]; nofun)
        (Option.isNone_iff_eq_none.1 nothing)
    next running => exact Or.inl (phase.trans running)

/-- What moves keep of what a loop sees holds along a course as long as the loop is there. -/
theorem Course.view_induction {motive : List (Nat × TaskEvent) → LoopView → Prop}
    (course : Course ties s log t) (h : s.task.Orderly) (known : s.task.isAlive loop = true)
    (alive : t.task.isAlive loop = true) (start : motive [] (s.task.view loop s.now))
    (move : ∀ log view event later, motive log view → view.Move ties loop event later →
      motive (log ++ event.toList.map (view.now, ·)) later) :
    motive log (t.task.view loop t.now) := by
  have numbered : ∀ {log u}, Course ties s log u → loop < u.task.nextLoop := by
    intro log u course
    induction course with
    | refl => exact h.numbered loop known
    | tail _ _ act ih => exact Nat.lt_of_lt_of_le ih act.nextLoop_le
  induction course with
  | refl => exact start
  | tail course untied act ih =>
    have before := act.isAlive (numbered course) alive
    exact move _ _ _ _ (ih before) (act.move (course.orderly h) untied before alive)

end Schedule

end Tollgate
