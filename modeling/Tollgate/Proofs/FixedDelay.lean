import Tollgate.Proofs.TaskCourses
import Tollgate.Proofs.WorkerPace

/-!
# Fixed delay

The deadline of a loop is set when it goes to sleep, one interval ahead. What it amounts to can be
read off the log: the interval counts from the start of the loop, the end of its last run or the last
change of its milliseconds, whichever came last (`Timetable`), and a run that begins on the timer
begins when the interval is over. A worker that is left alone has begun the runs that are due
(`Worker.Paced.begun_advance`).
-/

namespace Tollgate

/-- The interval in force, and the moment from which it counts. -/
structure Timetable where
  intervalMs : Nat
  since : Nat
deriving DecidableEq, Repr

namespace Timetable

/-- The moment of the next run. -/
def due (timetable : Timetable) : Nat := timetable.since + timetable.intervalMs

/-- The timetable of a loop after something has happened. The interval counts anew from the end of a
run of the loop, and from a change of its milliseconds. -/
def next (loop : Nat) (timetable : Timetable) : Nat × TaskEvent → Timetable
  | (now, .ends l) => if l = loop then { timetable with since := now } else timetable
  | (now, .sets nanos) =>
    if nanos = 0 ∨ PeriodicTask.wholeMillis nanos = timetable.intervalMs then timetable
    else { intervalMs := PeriodicTask.wholeMillis nanos, since := now }
  | _ => timetable

/-- The timetable of a loop after a log. -/
def after (loop : Nat) (timetable : Timetable) (log : List (Nat × TaskEvent)) : Timetable :=
  log.foldl (next loop) timetable

variable {loop : Nat} {timetable : Timetable}

theorem after_append (log later : List (Nat × TaskEvent)) :
    timetable.after loop (log ++ later) = (timetable.after loop log).after loop later :=
  List.foldl_append

theorem after_beside {event : Option TaskEvent} (now : Nat)
    (beside : event.all (·.isBeside loop) = true) :
    timetable.after loop (event.toList.map (now, ·)) = timetable := by
  cases event with
  | none => rfl
  | some event =>
    cases event with
    | ends l => exact if_neg (by simpa [TaskEvent.isBeside] using beside)
    | sets nanos => cases beside
    | _ => rfl

end Timetable

namespace LoopView

/-- A loop that waits does so for the next run on its timetable, unless the permit is there for it to
wait anew. -/
structure Keeps (view : LoopView) (timetable : Timetable) : Prop where
  interval : timetable.intervalMs = view.intervalMs
  rearming : view.phase = .rearming → timetable.since = view.now
  asleep : ∀ deadline, view.phase = .sleeping deadline → view.now ≤ deadline ∧
    (deadline = timetable.due ∨ view.hasPermit = true ∧ timetable.since = view.now)
  permit : view.phase ≠ .running → view.hasPermit = true →
    view.isRequested = true ∨ timetable.since = view.now

variable {view later : LoopView} {timetable : Timetable} {loop : Nat} {event : Option TaskEvent}

theorem keeps_of_running (interval : timetable.intervalMs = view.intervalMs)
    (running : view.phase = .running) : view.Keeps timetable where
  interval := interval
  rearming phase := nomatch running.symm.trans phase
  asleep _ phase := nomatch running.symm.trans phase
  permit idle := absurd running idle

theorem keeps_of_rearming (interval : timetable.intervalMs = view.intervalMs)
    (rearming : view.phase = .rearming) (since : timetable.since = view.now) :
    view.Keeps timetable where
  interval := interval
  rearming _ := since
  asleep _ phase := nomatch rearming.symm.trans phase
  permit _ _ := Or.inr since

theorem Keeps.set (h : view.Keeps timetable) (loop nanos : Nat) :
    (if nanos = 0 then view else
      { view with
        intervalMs := PeriodicTask.wholeMillis nanos
        hasPermit := view.hasPermit || PeriodicTask.wholeMillis nanos ≠ view.intervalMs }).Keeps
      (timetable.next loop (view.now, .sets nanos)) := by
  unfold Timetable.next
  dsimp only
  by_cases nothing : nanos = 0
  · rw [if_pos nothing, if_pos (Or.inl nothing)]
    exact h
  rw [if_neg nothing]
  by_cases same : PeriodicTask.wholeMillis nanos = timetable.intervalMs
  · rw [if_pos (Or.inr same), same, h.interval]
    simpa using h
  · rw [if_neg (not_or.2 ⟨nothing, same⟩)]
    have changes : PeriodicTask.wholeMillis nanos ≠ view.intervalMs := h.interval ▸ same
    constructor
    case interval => rfl
    case rearming => exact fun _ => rfl
    case asleep =>
      exact fun deadline phase => ⟨(h.asleep deadline phase).1, Or.inr ⟨by simp [changes], rfl⟩⟩
    case permit => exact fun _ _ => Or.inr rfl

/-- Where no loop has two reasons to wake up at once, a loop keeps to its timetable whatever
happens. -/
theorem Keeps.move (h : view.Keeps timetable) (move : view.Move False loop event later) :
    later.Keeps (timetable.after loop (event.toList.map (view.now, ·))) := by
  cases move with
  | beside beside => exact (Timetable.after_beside view.now beside).symm ▸ h
  | request =>
    constructor
    case interval => exact h.interval
    case rearming => exact h.rearming
    case asleep =>
      intro deadline phase
      exact (h.asleep deadline phase).imp_right (Or.imp_right fun due => ⟨rfl, due.2⟩)
    case permit => exact fun _ _ => Or.inl rfl
  | set nanos => exact h.set loop nanos
  | timer => exact keeps_of_running h.interval rfl
  | permit => exact keeps_of_running h.interval rfl
  | rearm idle unasked permit =>
    -- Nobody asked for a run, so the permit was left at this moment, by a change of the interval.
    have since := (h.permit idle permit).resolve_left (Bool.eq_false_iff.1 unasked)
    exact keeps_of_rearming h.interval rfl since
  | @taken l other may =>
    have same : timetable.after loop
        ((if view.isRequested then some (.begins l .permit) else none).toList.map (view.now, ·)) =
          timetable := by
      split <;> rfl
    rw [same]
    exact keeps_of_running h.interval (may.resolve_left id)
  | sleep rearming nothing =>
    constructor
    case interval => exact h.interval
    case rearming => exact nofun
    case asleep =>
      rintro deadline ⟨⟩
      refine ⟨Nat.le_add_right _ _, Or.inl ?_⟩
      rw [Timetable.due]
      exact (h.rearming rearming).symm ▸ h.interval.symm ▸ rfl
    case permit => exact fun _ permit => nomatch permit.symm.trans nothing
  | finish inRun =>
    have anew : timetable.after loop [(view.now, .ends loop)] = { timetable with since := view.now } :=
      if_pos rfl
    exact keeps_of_rearming (congrArg Timetable.intervalMs anew |>.trans h.interval) rfl
      (congrArg Timetable.since anew)
  | pass forward calm =>
    rcases calm with running | ⟨nothing, deadline, phase, enough⟩
    · exact keeps_of_running h.interval running
    · constructor
      case interval => exact h.interval
      case rearming => exact fun rearming => nomatch phase.symm.trans rearming
      case asleep =>
        intro deadline' phase'
        obtain rfl := LoopPhase.sleeping.inj (phase.symm.trans phase')
        refine ⟨enough, ((h.asleep deadline phase).2).imp_right fun permit => ?_⟩
        exact nomatch permit.1.symm.trans nothing
      case permit => exact fun _ permit => nomatch permit.symm.trans nothing

/-- A loop wakes up on its timer when the next run is due. -/
theorem Keeps.now_eq_due (h : view.Keeps timetable)
    (move : view.Move False loop (some (.begins loop .timer)) later) : view.now = timetable.due := by
  obtain ⟨-, alone, ⟨rearming, zero⟩ | ⟨deadline, phase, passed⟩⟩ := move.timer_cases
  · rw [Timetable.due, h.rearming rearming, h.interval, zero]
    rfl
  · obtain ⟨ahead, due⟩ := h.asleep deadline phase
    have nothing : ¬(view.hasPermit = true ∧ timetable.since = view.now) := by
      simp [alone.resolve_left id]
    rw [← due.resolve_right nothing]
    exact Nat.le_antisymm ahead passed

/-- The clock does not move past the next run while the loop waits. -/
theorem Keeps.now_le_due (h : view.Keeps timetable) (idle : view.phase ≠ .running) :
    view.now ≤ timetable.due := by
  have late (since : timetable.since = view.now) : view.now ≤ timetable.due :=
    since ▸ Nat.le_add_right _ _
  cases phase : view.phase with
  | rearming => exact late (h.rearming phase)
  | sleeping deadline =>
    obtain ⟨ahead, rfl | ⟨-, since⟩⟩ := h.asleep deadline phase
    · exact ahead
    · exact late since
  | running => exact absurd phase idle

end LoopView

/-- A loop is punctual if each run that it begins on its timer begins when it is due, and it does not
wait any longer. -/
structure Schedule.IsPunctual (loop : Nat) (timetable : Timetable) (log : List (Nat × TaskEvent))
    (t : Schedule) : Prop where
  interval : (timetable.after loop log).intervalMs = t.task.intervalMs
  begins : ∀ earlier now, earlier ++ [(now, .begins loop .timer)] <+: log →
    now = (timetable.after loop earlier).due
  waits : t.task.isInRun loop = false → t.now ≤ (timetable.after loop log).due

/-- A loop is punctual from its start on. -/
theorem Schedule.Course.isPunctual {before t : Schedule} {log : List (Nat × TaskEvent)}
    (h : before.task.Orderly) (idle : before.task.isRunning = false)
    (course : Schedule.Course False before.start log t)
    (alive : t.task.isAlive before.task.nextLoop = true) :
    t.IsPunctual before.task.nextLoop { intervalMs := before.task.intervalMs, since := before.now }
      log := by
  have granted := PeriodicTask.start_of_idle idle
  have orderly := Schedule.Acts.start.orderly h
  obtain ⟨loops, nextLoop, current, frame⟩ := @PeriodicTask.started_frame before.task
  have found : before.start.task.loops.get? before.task.nextLoop = some {} := by
    rw [Schedule.start, PeriodicTask.started_of_start granted]
    exact Table.get?_insert_self ..
  generalize before.task.nextLoop = loop at *
  generalize made :
    ({ intervalMs := before.task.intervalMs, since := before.now } : Timetable) = timetable
  have starts : (before.start.task.view loop before.now).Keeps timetable := by
    refine LoopView.keeps_of_rearming ?_ (PeriodicTask.phase_view found _) (made ▸ rfl)
    exact made ▸ (congrArg PeriodicTask.intervalMs frame).symm
  have both := course.view_induction
    (motive := fun log view => view.Keeps (timetable.after loop log) ∧
      ∀ earlier now, earlier ++ [(now, .begins loop .timer)] <+: log →
        now = (timetable.after loop earlier).due) orderly
    (PeriodicTask.isAlive_of_get? found) alive ⟨starts, fun _ _ short => by simp at short⟩ ?_
  · refine ⟨both.1.interval, both.2, fun resting => both.1.now_le_due fun running => ?_⟩
    obtain ⟨state, there⟩ := (PeriodicTask.isAlive_iff loop).1 alive
    have phase := (PeriodicTask.phase_view there t.now).symm.trans running
    exact nomatch resting.symm.trans (Schedule.isInRun_iff.2 ⟨state, there, phase⟩)
  · rintro log view event later ⟨keeps, begins⟩ move
    refine ⟨Timetable.after_append log _ ▸ keeps.move move, fun earlier now short => ?_⟩
    cases event with
    | none => exact begins earlier now (by simpa using short)
    | some event =>
      rcases List.prefix_concat_iff.1 short with whole | short
      · obtain ⟨rfl, last⟩ := List.append_inj' whole rfl
        cases last
        exact keeps.now_eq_due move
      · exact begins earlier now short

theorem PeriodicTask.setInterval_same {task : PeriodicTask} {nanos : Nat}
    (same : wholeMillis nanos = task.intervalMs) : task.setInterval nanos = task := by
  unfold setInterval
  split
  · rfl
  · simp [same]

/-- A loop begins its runs on the timer one interval after its start, the end of its last run or the
last change of the interval, whichever came last, and to set the interval it has changes nothing. Left
alone, with runs that take a set time, it has begun exactly the runs that are due. -/
theorem runs_keep_fixed_delay {name : String} {nanos : Nat} {task : PeriodicTask}
    (made : PeriodicTask.create name nanos = .ok task) :
    (∀ history before, Schedule.Course True ⟨task, 0⟩ history before →
      before.task.isRunning = false →
      ∀ log t, Schedule.Course False before.start log t →
        t.task.isAlive before.task.nextLoop = true →
        t.IsPunctual before.task.nextLoop
          { intervalMs := before.task.intervalMs, since := before.now } log) ∧
    (∀ (later : PeriodicTask) (same : Nat), PeriodicTask.wholeMillis same = later.intervalMs →
      later.setInterval same = later) ∧
    (1000000 ≤ nanos → ∀ workMs worker, Worker.start { task } { workMs } = .ok worker →
      ∀ total, ∃ n,
        (Worker.timeline.advance total 0 worker).begun =
          (List.range n).map (fun run =>
            (run + 1) * PeriodicTask.wholeMillis nanos + run * workMs) ∧
        ∀ run, run < n ↔ (run + 1) * PeriodicTask.wholeMillis nanos + run * workMs ≤ total) := by
  refine ⟨?_, fun later same => PeriodicTask.setInterval_same, ?_⟩
  · intro history before reached idle log t course alive
    exact course.isPunctual (reached.orderly (PeriodicTask.orderly_create made)) idle alive
  · intro whole workMs worker started total
    have positive : 0 < PeriodicTask.wholeMillis nanos :=
      Nat.lt_min.2 ⟨Nat.div_pos whole (by decide), by decide⟩
    exact (Worker.paced_start made started).begun_advance positive total

/-- At 40000 the interval of a minute is halved, so the first run begins at 70000. -/
theorem runs_keep_fixed_delay_changed :
    ∃ (task : PeriodicTask) (t : Schedule) (worker : Worker),
      PeriodicTask.create "traffic" 60000000000 = .ok task ∧
      Schedule.Course False (Schedule.start ⟨task, 0⟩)
        [(40000, .sets 30000000000), (70000, .begins 0 .timer)] t ∧
      70000 = (Timetable.after 0 { intervalMs := 60000, since := 0 }
        [(40000, .sets 30000000000)]).due ∧
      task.setInterval 60000000000 = task ∧
      Worker.start { task } { workMs := 500 } = .ok worker ∧
      ∃ n, (Worker.timeline.advance 125000 0 worker).begun =
          (List.range n).map (fun run => (run + 1) * 60000 + run * 500) ∧
        ∀ run, run < n ↔ (run + 1) * 60000 + run * 500 ≤ 125000 := by
  let task : PeriodicTask := { name := "traffic", intervalMs := 60000 }
  let begun : Schedule := Schedule.start ⟨task, 0⟩
  let asleep : Schedule := { begun with task := begun.task.sleep 0 begun.now }
  let changed : Schedule := { task := asleep.task.setInterval 30000000000, now := 40000 }
  let rearmed : Schedule := { changed with task := changed.task.wake 0 .permit }
  let again : Schedule := { rearmed with task := rearmed.task.sleep 0 rearmed.now }
  let due : Schedule := { again with now := 70000 }
  let t : Schedule := { due with task := due.task.wake 0 .timer }
  have made : PeriodicTask.create "traffic" 60000000000 = .ok task := by decide
  have sleeps : begun.Acts none asleep := @Schedule.Acts.sleep begun 0 {} (by decide) rfl (by decide)
  have passes : asleep.Acts none { asleep with now := 40000 } := .pass (by decide) (by decide)
  have wakes : changed.Acts none rearmed :=
    @Schedule.Acts.wake changed 0 { phase := .sleeping 60000 } .permit (by decide) (by decide)
  have waits : rearmed.Acts none again :=
    @Schedule.Acts.sleep rearmed 0 {} (by decide) rfl (by decide)
  have passes' : again.Acts none due := .pass (by decide) (by decide)
  have begins : due.Acts (some (.begins 0 .timer)) t :=
    @Schedule.Acts.wake due 0 { phase := .sleeping 70000 } .timer (by decide) (by decide)
  have first : Schedule.Course False begun [(40000, .sets 30000000000)] changed :=
    .tail (.tail (.tail .refl (Or.inr (by decide)) sleeps) (Or.inr (by decide)) passes)
      (Or.inr (by decide)) (.set _)
  have course : Schedule.Course False begun [(40000, .sets 30000000000)] due :=
    .tail (.tail (.tail first (Or.inr (by decide)) wakes) (Or.inr (by decide)) waits)
      (Or.inr (by decide)) passes'
  have whole : Schedule.Course False begun
      [(40000, .sets 30000000000), (70000, .begins 0 .timer)] t :=
    .tail course (Or.inr (by decide)) begins
  obtain ⟨punctual, same, alone⟩ := runs_keep_fixed_delay made
  have begun := (punctual [] ⟨task, 0⟩ .refl rfl _ t whole (by decide)).begins
    [(40000, .sets 30000000000)] 70000 (List.prefix_refl _)
  exact ⟨task, t, _, made, whole, begun, same task _ (by decide), rfl,
    alone (by decide) 500 _ rfl 125000⟩

end Tollgate
