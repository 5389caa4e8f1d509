import Tollgate.Proofs.TaskCourses

/-!
# The armed interval

A duration is refused for an interval if it is zero, but what a loop sleeps for is the duration in
whole milliseconds, which is zero for any duration below one (`Schedule.Course.intervalMs_eq`). With
an interval of zero a loop wakes up on its timer as often as it comes to wait
(`Schedule.exists_course_timerRuns`); otherwise its runs on the timer are as far apart as the least
interval that is set (`LoopView.Spaced`).
-/

namespace Tollgate

/-- The duration that was last taken for the interval. Zero is not taken. -/
def takenDuration (nanos : Nat) (log : List (Nat × TaskEvent)) : Nat :=
  log.foldl (fun taken entry =>
    match entry.2 with
    | .sets later => if later = 0 then taken else later
    | _ => taken) nanos

/-- The number of runs that a loop begins on its timer. -/
def timerRuns (loop : Nat) (log : List (Nat × TaskEvent)) : Nat :=
  log.countP (·.2 = .begins loop .timer)

/-- Whether no interval below some number of milliseconds is set. -/
def SetsAtLeast (least : Nat) (log : List (Nat × TaskEvent)) : Prop :=
  ∀ now nanos, (now, .sets nanos) ∈ log → nanos = 0 ∨ least ≤ PeriodicTask.wholeMillis nanos

theorem PeriodicTask.wholeMillis_eq_zero_iff {nanos : Nat} :
    wholeMillis nanos = 0 ↔ nanos < 1000000 := by
  have bound : UInt64.size - 1 ≠ 0 := by decide
  rw [wholeMillis, Nat.min_eq_zero_iff, or_iff_left bound, Nat.div_eq_zero_iff]
  omega

theorem timerRuns_append (loop : Nat) (log later : List (Nat × TaskEvent)) :
    timerRuns loop (log ++ later) = timerRuns loop log + timerRuns loop later := List.countP_append

namespace Schedule

variable {ties : Prop} {s t : Schedule} {event : Option TaskEvent} {loop : Nat}
  {log : List (Nat × TaskEvent)}

/-! ### The interval in force -/

theorem Acts.intervalMs_eq {nanos : Nat} (act : s.Acts event t) (now : Nat)
    (same : s.task.intervalMs = PeriodicTask.wholeMillis nanos) :
    t.task.intervalMs =
      PeriodicTask.wholeMillis (takenDuration nanos (event.toList.map (now, ·))) := by
  cases act with
  | start =>
    obtain ⟨loops, nextLoop, current, frame⟩ := @PeriodicTask.started_frame s.task
    exact (congrArg PeriodicTask.intervalMs frame).trans same
  | stop =>
    obtain ⟨loops, frame⟩ := @PeriodicTask.cancel_frame s.task
    exact (congrArg PeriodicTask.intervalMs frame).trans same
  | set later =>
    by_cases nothing : later = 0
    · simpa [PeriodicTask.setInterval, takenDuration, nothing] using same
    · simp [PeriodicTask.setInterval, takenDuration, nothing]
  | @wake l state wakeup found may =>
    have quiet : takenDuration nanos ((s.task.beginning? l wakeup).toList.map (now, ·)) = nanos := by
      cases wakeup with
      | permit =>
        cases requested : s.task.isRequested <;> rw [PeriodicTask.beginning?, requested] <;> rfl
      | _ => rfl
    rw [quiet, ← same]
    cases wakeup with
    | cancelled => rfl
    | _ => exact PeriodicTask.intervalMs_setPhase _
  | sleep found rearming nothing =>
    rw [PeriodicTask.sleep_eq]
    exact (PeriodicTask.intervalMs_setPhase _).trans same
  | finish inRun => exact (PeriodicTask.intervalMs_setPhase _).trans same
  | _ => exact same

/-- The interval is the duration last taken, in whole milliseconds. -/
theorem Course.intervalMs_eq {nanos : Nat} (course : Course ties s log t)
    (same : s.task.intervalMs = PeriodicTask.wholeMillis nanos) :
    t.task.intervalMs = PeriodicTask.wholeMillis (takenDuration nanos log) := by
  induction course with
  | refl => exact same
  | @tail log t u event _ _ act ih =>
    have later := act.intervalMs_eq t.now ih
    rwa [takenDuration, takenDuration, ← List.foldl_append] at later

end Schedule

/-! ### How far apart runs on the timer are -/

namespace LoopView

/-- A loop has begun no more runs on its timer, since a moment, than fit into the time since, and
sleeps until there is room for another. -/
structure Spaced (least since runs : Nat) (view : LoopView) : Prop where
  interval : least ≤ view.intervalMs
  forward : since ≤ view.now
  rate : runs * least + since ≤ view.now + least
  asleep : ∀ deadline, view.phase = .sleeping deadline → runs = 0 ∨ runs * least + since ≤ deadline

variable {view later : LoopView} {event : Option TaskEvent} {least since runs loop : Nat}
  {ties : Prop}

theorem Spaced.of_same (h : view.Spaced least since runs) (interval : least ≤ later.intervalMs)
    (now : view.now ≤ later.now)
    (phase : ∀ deadline, later.phase = .sleeping deadline → view.phase = .sleeping deadline) :
    later.Spaced least since runs where
  interval := interval
  forward := Nat.le_trans h.forward now
  rate := Nat.le_trans h.rate (Nat.add_le_add_right now _)
  asleep deadline asleep := h.asleep deadline (phase deadline asleep)

theorem Spaced.timer (h : view.Spaced least since runs) (positive : 0 < least)
    (move : view.Move ties loop (some (.begins loop .timer)) later) :
    later.Spaced least since (runs + 1) := by
  obtain ⟨rfl, -, ⟨-, zero⟩ | ⟨deadline, phase, passed⟩⟩ := move.timer_cases
  · exact absurd (zero ▸ h.interval) (Nat.not_le_of_lt positive)
  · refine ⟨h.interval, h.forward, ?_, fun _ asleep => by cases asleep⟩
    have forward := h.forward
    dsimp only
    rw [Nat.succ_mul]
    rcases h.asleep deadline phase with rfl | room
    · omega
    · omega

/-- A loop whose interval does not fall below some number of milliseconds keeps that distance. -/
theorem Spaced.move (h : view.Spaced least since runs) (positive : 0 < least)
    (move : view.Move ties loop event later)
    (sets : SetsAtLeast least (event.toList.map (view.now, ·))) :
    later.Spaced least since (runs + timerRuns loop (event.toList.map (view.now, ·))) := by
  by_cases begins : event = some (.begins loop .timer)
  · subst begins
    have one : timerRuns loop [(view.now, .begins loop .timer)] = 1 := by simp [timerRuns]
    rw [Option.toList_some, List.map_singleton, one]
    exact h.timer positive move
  have quiet : timerRuns loop (event.toList.map (view.now, ·)) = 0 := by
    cases event with
    | none => rfl
    | some event =>
      have other : event ≠ .begins loop .timer := fun same => begins (congrArg some same)
      simp [timerRuns, other]
  rw [quiet, Nat.add_zero]
  cases move with
  | set nanos =>
    split
    · exact h
    next some_ =>
      have enough := (sets view.now nanos (List.mem_singleton_self _)).resolve_left some_
      exact h.of_same enough (Nat.le_refl _) fun _ => id
  | timer due => exact absurd rfl begins
  | sleep rearming nothing =>
    refine ⟨h.interval, h.forward, h.rate, ?_⟩
    rintro deadline ⟨⟩
    exact Or.inr (Nat.le_trans h.rate (Nat.add_le_add_left h.interval _))
  | pass forward => exact h.of_same h.interval forward fun _ => id
  | permit => exact h.of_same h.interval (Nat.le_refl _) nofun
  | rearm => exact h.of_same h.interval (Nat.le_refl _) nofun
  | finish => exact h.of_same h.interval (Nat.le_refl _) nofun
  | _ => exact h.of_same h.interval (Nat.le_refl _) fun _ => id

end LoopView

namespace Schedule

variable {ties : Prop} {s t : Schedule} {loop : Nat} {log : List (Nat × TaskEvent)}

theorem Course.timerRuns_le {least : Nat} (course : Course ties s log t) (h : s.task.Orderly)
    (positive : 0 < least) (interval : least ≤ s.task.intervalMs) (sets : SetsAtLeast least log)
    (known : s.task.isAlive loop = true) (alive : t.task.isAlive loop = true) :
    timerRuns loop log * least ≤ t.now - s.now + least := by
  have start : (s.task.view loop s.now).Spaced least s.now 0 := by
    refine ⟨interval, Nat.le_refl _, ?_, fun _ _ => Or.inl rfl⟩
    simp [PeriodicTask.view]
  have spaced := course.view_induction
    (motive := fun log view => SetsAtLeast least log →
      view.Spaced least s.now (timerRuns loop log)) h known alive (fun _ => start) ?_
  · have forward := (spaced sets).forward
    have rate := (spaced sets).rate
    dsimp only [PeriodicTask.view] at forward rate
    omega
  · intro log view event later ih move sets
    have before : SetsAtLeast least log :=
      fun now nanos member => sets now nanos (List.mem_append_left _ member)
    rw [timerRuns_append]
    exact (ih before).move positive move
      fun now nanos member => sets now nanos (List.mem_append_right _ member)

/-! ### Runs on the timer at one moment -/

/-- With an interval of zero, a loop that is about to wait can begin any number of runs before the
clock moves. -/
theorem exists_course_timerRuns {state : TaskLoop} (zero : s.task.intervalMs = 0)
    (found : s.task.loops.get? loop = some state) (rearming : state.phase = .rearming) (n : Nat) :
    ∃ log t, Course True s log t ∧ t.now = s.now ∧ timerRuns loop log = n ∧
      t.task.intervalMs = 0 ∧ t.task.loops.get? loop = some state := by
  induction n with
  | zero => exact ⟨[], s, .refl, rfl, rfl, zero, found⟩
  | succ n ih =>
    obtain ⟨log, t, course, now, runs, zero, found⟩ := ih
    let begun : Schedule := { t with task := t.task.wake loop .timer }
    let ended : Schedule := { begun with task := begun.task.finishRun loop }
    have begins : t.Acts (some (.begins loop .timer)) begun :=
      .wake found (PeriodicTask.mayWake_timer_iff.2 (Or.inl ⟨rearming, zero⟩))
    have inRun : begun.task.loops.get? loop = some { state with phase := .running } := by
      refine (PeriodicTask.get?_setPhase ..).trans ?_
      rw [if_pos rfl, found]
      rfl
    have ends : begun.Acts (some (.ends loop)) ended := .finish (isInRun_iff.2 ⟨_, inRun, rfl⟩)
    have again : ended.task.loops.get? loop = some state := by
      refine (PeriodicTask.get?_setPhase ..).trans ?_
      rw [if_pos rfl, inRun]
      exact congrArg some (rearming ▸ rfl)
    refine ⟨_, ended, .tail (.tail course (Or.inl trivial) begins) (Or.inl trivial) ends, now, ?_, ?_,
      again⟩
    · rw [timerRuns_append, timerRuns_append, runs]
      simp [timerRuns]
    · have still : begun.task.intervalMs = 0 := (PeriodicTask.intervalMs_setPhase _).trans zero
      exact (PeriodicTask.intervalMs_setPhase _).trans still

end Schedule

/-- The interval is zero exactly if the duration last taken is below a millisecond. While the
intervals set are positive the runs of a loop on its timer are apart by the least of them, so there are
finitely many in any stretch of time. With an interval of zero there can be any number at one
moment. -/
theorem armed_interval_is_zero_iff {name : String} {nanos : Nat} {task : PeriodicTask} {s : Schedule}
    {history : List (Nat × TaskEvent)} (made : PeriodicTask.create name nanos = .ok task)
    (reached : Schedule.Course True ⟨task, 0⟩ history s) :
    (s.task.intervalMs = 0 ↔ takenDuration nanos history < 1000000) ∧
    (∀ least, 0 < least → least ≤ s.task.intervalMs → ∀ log t, Schedule.Course True s log t →
      SetsAtLeast least log → ∀ loop, s.task.isAlive loop = true → t.task.isAlive loop = true →
        timerRuns loop log * least ≤ t.now - s.now + least) ∧
    (s.task.intervalMs = 0 → ∀ loop state, s.task.loops.get? loop = some state →
      state.phase = .rearming → ∀ n, ∃ log t, Schedule.Course True s log t ∧ t.now = s.now ∧
        timerRuns loop log = n) := by
  refine ⟨?_, ?_, ?_⟩
  · have initial : task.intervalMs = PeriodicTask.wholeMillis nanos := by
      unfold PeriodicTask.create at made
      split at made
      · cases made
      · cases made
        rfl
    rw [reached.intervalMs_eq (s := ⟨task, 0⟩) initial, PeriodicTask.wholeMillis_eq_zero_iff]
  · intro least positive interval log t course sets loop known alive
    have orderly := reached.orderly (PeriodicTask.orderly_create made)
    exact course.timerRuns_le orderly positive interval sets known alive
  · intro zero loop state found rearming n
    obtain ⟨log, t, course, now, runs, -⟩ := Schedule.exists_course_timerRuns zero found rearming n
    exact ⟨log, t, course, now, runs⟩

/-- A task of one minute that is started; in its first minute there is one run on the timer. -/
theorem armed_interval_is_zero_iff_minute :
    ∃ (task : PeriodicTask) (s t : Schedule),
      PeriodicTask.create "traffic" 60000000000 = .ok task ∧
      Schedule.Course True ⟨task, 0⟩ [(0, .starts)] s ∧ s.task.intervalMs ≠ 0 ∧
      Schedule.Course True s [(60000, .begins 0 .timer)] t ∧ t.now = 60000 ∧
      timerRuns 0 [(60000, .begins 0 .timer)] * 60000 ≤ t.now - s.now + 60000 := by
  let task : PeriodicTask := { name := "traffic", intervalMs := 60000 }
  let s : Schedule := Schedule.start ⟨task, 0⟩
  let asleep : Schedule := { s with task := s.task.sleep 0 s.now }
  let due : Schedule := { asleep with now := 60000 }
  let t : Schedule := { due with task := due.task.wake 0 .timer }
  have made : PeriodicTask.create "traffic" 60000000000 = .ok task := by decide
  have starts : Schedule.Course True ⟨task, 0⟩ [(0, .starts)] s :=
    .tail .refl (Or.inl trivial) .start
  have sleeps : s.Acts none asleep := @Schedule.Acts.sleep s 0 {} (by decide) rfl (by decide)
  have passes : asleep.Acts none due := .pass (by decide) (by decide)
  have begins : due.Acts (some (.begins 0 .timer)) t :=
    @Schedule.Acts.wake due 0 { phase := .sleeping 60000 } .timer (by decide) (by decide)
  have course : Schedule.Course True s [(60000, .begins 0 .timer)] t :=
    .tail (.tail (.tail .refl (Or.inl trivial) sleeps) (Or.inl trivial) passes) (Or.inl trivial)
      begins
  obtain ⟨zero, apart, -⟩ := armed_interval_is_zero_iff made starts
  have positive : s.task.intervalMs ≠ 0 := fun h => absurd (zero.1 h) (by decide)
  have sets : SetsAtLeast 60000 [(60000, .begins 0 .timer)] := fun _ _ member => by simp at member
  exact ⟨task, s, t, made, starts, positive, course, rfl,
    apart 60000 (by decide) (by decide) _ t course sets 0 (by decide) (by decide)⟩

/-- A duration just below a millisecond is accepted, and a loop can begin any number of runs on its
timer at the moment of its start. -/
theorem armed_interval_zero :
    ∃ task : PeriodicTask, PeriodicTask.create "traffic" 999999 = .ok task ∧ task.intervalMs = 0 ∧
      ∀ n, ∃ log t, Schedule.Course True (Schedule.start ⟨task, 0⟩) log t ∧ t.now = 0 ∧
        timerRuns 0 log = n := by
  let task : PeriodicTask := { name := "traffic", intervalMs := 0 }
  have made : PeriodicTask.create "traffic" 999999 = .ok task := by decide
  refine ⟨task, made, rfl, fun n => ?_⟩
  have found : (Schedule.start ⟨task, 0⟩).task.loops.get? 0 = some {} := by decide
  obtain ⟨log, t, course, now, runs, -⟩ := Schedule.exists_course_timerRuns rfl found rfl n
  exact ⟨log, t, course, now, runs⟩

end Tollgate
