import Tollgate.Proofs.TaskCourses

/-!
# Requested runs

A request leaves the permit, so a loop that is idle takes it up before the clock moves, and a loop that
is in a run does when the run has ended. The permit is one for any number of requests, and one run
uses it up; a change of the interval can leave it too, but takes no request away
(`Schedule.MeetsRequests`).
-/

namespace Tollgate

namespace TaskEvent

/-- Whether a run is requested. -/
def isRequest : TaskEvent → Bool
  | .requests => true
  | _ => false

/-- Whether a run begins that was requested. -/
def isRequestedRun : TaskEvent → Bool
  | .begins _ .permit => true
  | _ => false

end TaskEvent

/-- A run begins at a moment. -/
def RunBegins (log : List (Nat × TaskEvent)) (now : Nat) : Prop :=
  ∃ loop wakeup, (now, .begins loop wakeup) ∈ log

/-- The number of requested runs that begin. -/
def requestedRuns (log : List (Nat × TaskEvent)) : Nat := log.countP (·.2.isRequestedRun)

theorem RunBegins.append {log : List (Nat × TaskEvent)} {now : Nat} (h : RunBegins log now)
    (later : List (Nat × TaskEvent)) : RunBegins (log ++ later) now := by
  obtain ⟨l, wakeup, member⟩ := h
  exact ⟨l, wakeup, List.mem_append_left _ member⟩

theorem runBegins_last (log : List (Nat × TaskEvent)) (now l : Nat) (wakeup : Wakeup) :
    RunBegins (log ++ [(now, .begins l wakeup)]) now :=
  ⟨l, wakeup, List.mem_append_right _ (List.mem_singleton_self _)⟩

namespace LoopView

/-- A loop is idle while a run is requested. -/
structure IsDue (view : LoopView) (now : Nat) : Prop where
  same : view.now = now
  requested : view.isRequested = true
  permit : view.hasPermit = true
  idle : view.phase ≠ .running

/-- A loop that is to begin a run does so, or another does, before the clock moves. -/
theorem IsDue.move {ties : Prop} {loop now : Nat} {view later : LoopView}
    {event : Option TaskEvent} (h : view.IsDue now) (move : view.Move ties loop event later)
    (log : List (Nat × TaskEvent)) :
    RunBegins (log ++ event.toList.map (view.now, ·)) now ∨ later.IsDue now := by
  cases move with
  | beside => exact Or.inr h
  | request => exact Or.inr ⟨h.same, rfl, rfl, h.idle⟩
  | set nanos =>
    refine Or.inr ?_
    split
    · exact h
    · exact ⟨h.same, h.requested, by simp [h.permit], h.idle⟩
  | timer => exact Or.inl (h.same ▸ runBegins_last ..)
  | permit => exact Or.inl (h.same ▸ runBegins_last ..)
  | rearm idle unasked permit => exact nomatch h.requested.symm.trans unasked
  | taken other may =>
    rw [if_pos h.requested]
    exact Or.inl (h.same ▸ runBegins_last ..)
  | sleep rearming nothing => exact nomatch h.permit.symm.trans nothing
  | finish inRun => exact absurd inRun h.idle
  | pass forward calm =>
    rcases calm with inRun | ⟨nothing, -⟩
    · exact absurd inRun h.idle
    · exact nomatch h.permit.symm.trans nothing

end LoopView

namespace Schedule

/-- The schedule after a request. -/
def asked (s : Schedule) : Schedule := { s with task := s.task.runNow }

/-- A loop can begin a run on the permit, and as long as the loop is there the clock does not move
before a run begins. -/
def BeginsAtOnce (loop : Nat) (s : Schedule) : Prop :=
  (∃ t, s.Acts (some (.begins loop .permit)) t) ∧
    ∀ log t, Course True s log t → t.task.isAlive loop = true → s.now < t.now → RunBegins log s.now

/-- What becomes of requests, from some moment on. -/
structure MeetsRequests (s : Schedule) : Prop where
  wakes : s.task.isRequested = true → s.task.hasPermit = true
  idle : ∀ loop state, s.task.loops.get? loop = some state → state.phase ≠ .running →
    s.asked.BeginsAtOnce loop
  /-- A run is requested while another is in flight, and that one ends. A loop that is left over from
  before a restart may have begun the run meanwhile. -/
  inFlight : ∀ loop, s.task.isInRun loop = true → ∀ log t u, Course True s.asked log t →
    (∀ now, (now, .ends loop) ∉ log) → t.Acts (some (.ends loop)) u →
    u.BeginsAtOnce loop ∨ ∃ now l, l ≠ loop ∧ (now, .begins l .permit) ∈ log
  /-- A request, with any number of others that follow before a requested run begins, is met by one
  run. -/
  once : ∀ log t later u, Course True s.asked log t → requestedRuns log = 0 →
    Course True t later u → (∀ entry ∈ later, entry.2.isRequest = false) →
    requestedRuns later + u.task.isRequested.toNat = 1
  unasked : ∀ log t, Course True s log t → s.task.isRequested = false →
    (∀ entry ∈ log, entry.2.isRequest = false) →
    requestedRuns log = 0 ∧ t.task.isRequested = false
  /-- A run was requested before the task is started. -/
  start : s.task.isRequested = true → s.task.isRunning = false →
    s.start.BeginsAtOnce s.task.nextLoop

variable {ties : Prop} {s t : Schedule} {event : Option TaskEvent} {loop : Nat}
  {log : List (Nat × TaskEvent)}

/-! ### Requests and the runs that meet them -/

/-- What can happen to a request. -/
theorem Acts.request_cases (act : s.Acts event t) :
    event = some .requests ∧ t.task.isRequested = true ∨
      (∃ l, event = some (.begins l .permit)) ∧ s.task.isRequested = true ∧
        t.task.isRequested = false ∨
      event.all (fun e => !e.isRequest && !e.isRequestedRun) = true ∧
        t.task.isRequested = s.task.isRequested := by
  cases act with
  | start =>
    obtain ⟨loops, nextLoop, current, frame⟩ := @PeriodicTask.started_frame s.task
    exact Or.inr (Or.inr ⟨rfl, congrArg (·.isRequested) frame⟩)
  | stop =>
    obtain ⟨loops, frame⟩ := @PeriodicTask.cancel_frame s.task
    exact Or.inr (Or.inr ⟨rfl, congrArg (·.isRequested) frame⟩)
  | request => exact Or.inl ⟨rfl, rfl⟩
  | set nanos =>
    refine Or.inr (Or.inr ⟨rfl, ?_⟩)
    unfold PeriodicTask.setInterval
    dsimp only
    split <;> rfl
  | @wake l state wakeup found may =>
    cases wakeup with
    | cancelled => exact Or.inr (Or.inr ⟨rfl, rfl⟩)
    | timer => exact Or.inr (Or.inr ⟨rfl, PeriodicTask.isRequested_setPhase _⟩)
    | permit =>
      cases requested : s.task.isRequested with
      | true => exact Or.inr (Or.inl ⟨⟨l, by rw [PeriodicTask.beginning?, requested]; rfl⟩, rfl, rfl⟩)
      | false => exact Or.inr (Or.inr ⟨by rw [PeriodicTask.beginning?, requested]; rfl, rfl⟩)
  | sleep found rearming nothing =>
    rw [PeriodicTask.sleep_eq]
    exact Or.inr (Or.inr ⟨rfl, PeriodicTask.isRequested_setPhase _⟩)
  | finish inRun => exact Or.inr (Or.inr ⟨rfl, PeriodicTask.isRequested_setPhase _⟩)
  | fail inRun => exact Or.inr (Or.inr ⟨rfl, rfl⟩)
  | pass forward calm => exact Or.inr (Or.inr ⟨rfl, rfl⟩)

theorem requestedRuns_append (log later : List (Nat × TaskEvent)) :
    requestedRuns (log ++ later) = requestedRuns log + requestedRuns later := List.countP_append

/-- Where nobody requests a run, the runs that begin on request and the one that is still requested
are those that were requested before. -/
theorem Course.requestedRuns_add (course : Course ties s log t)
    (quiet : ∀ entry ∈ log, entry.2.isRequest = false) :
    requestedRuns log + t.task.isRequested.toNat = s.task.isRequested.toNat := by
  induction course with
  | refl => exact Nat.zero_add _
  | @tail log t u event _ _ act ih =>
    have before := ih fun entry member => quiet entry (List.mem_append_left _ member)
    have last : ∀ e ∈ event, e.isRequest = false := fun e member =>
      quiet (t.now, e) (List.mem_append_right _ (by simpa using member))
    rw [requestedRuns_append]
    rcases act.request_cases with ⟨rfl, -⟩ | ⟨⟨l, rfl⟩, pending, met⟩ | ⟨beside, same⟩
    · exact nomatch last _ rfl
    · rw [pending] at before
      rw [met]
      exact before
    · have none_ : requestedRuns (event.toList.map (t.now, ·)) = 0 := by
        cases event with
        | none => rfl
        | some e => simp_all [requestedRuns]
      rw [none_, same]
      exact before

/-- A request stays until a requested run begins. -/
theorem Course.isRequested (course : Course ties s log t) (unmet : requestedRuns log = 0)
    (requested : s.task.isRequested = true) : t.task.isRequested = true := by
  induction course with
  | refl => exact requested
  | @tail log t u event _ _ act ih =>
    rw [requestedRuns_append, Nat.add_eq_zero_iff] at unmet
    rcases act.request_cases with ⟨-, pending⟩ | ⟨⟨l, rfl⟩, -⟩ | ⟨-, same⟩
    · exact pending
    · exact nomatch unmet.2
    · exact same.trans (ih unmet.1)

/-! ### When a requested run begins -/

/-- A loop that is idle where a run is requested begins one before the clock moves, unless another
does. -/
theorem beginsAtOnce (h : s.task.Orderly) {state : TaskLoop}
    (found : s.task.loops.get? loop = some state) (idle : state.phase ≠ .running)
    (requested : s.task.isRequested = true) : s.BeginsAtOnce loop := by
  have permit := h.pending requested
  constructor
  · have wakes := Acts.wake found (PeriodicTask.mayWake_permit_iff.2 ⟨permit, idle⟩)
    rw [PeriodicTask.beginning?, if_pos requested] at wakes
    exact ⟨_, wakes⟩
  · intro log t course alive later
    have due : (s.task.view loop s.now).IsDue s.now := by
      refine ⟨rfl, requested, permit, ?_⟩
      rwa [PeriodicTask.phase_view found]
    have waits := course.view_induction
      (motive := fun log view => RunBegins log s.now ∨ view.IsDue s.now) h
      (PeriodicTask.isAlive_of_get? found) alive (Or.inr due) ?_
    · exact waits.resolve_right fun due => Nat.ne_of_gt later due.same
    · rintro log view event later (begun | due) move
      · exact Or.inl (begun.append _)
      · exact due.move move log

theorem Acts.ends_cases (act : s.Acts (some (.ends loop)) t) :
    s.task.isInRun loop = true ∧ t = { s with task := s.task.finishRun loop } := by
  generalize shown : some (TaskEvent.ends loop) = event at act
  cases act with
  | finish inRun =>
    cases shown
    exact ⟨inRun, rfl⟩
  | @wake l state wakeup =>
    cases wakeup with
    | permit => simp [PeriodicTask.beginning?] at shown
    | _ => cases shown
  | _ => cases shown

/-- While a loop is in a run the request stays, unless another loop takes it up. -/
theorem Course.requested_inRun (course : Course ties s log t) (h : s.task.Orderly)
    (inRun : s.task.isInRun loop = true) (requested : s.task.isRequested = true)
    (alive : t.task.isAlive loop = true) (goesOn : ∀ now, (now, .ends loop) ∉ log) :
    t.task.isRequested = true ∨ ∃ now l, l ≠ loop ∧ (now, .begins l .permit) ∈ log := by
  obtain ⟨state, found, running⟩ := isInRun_iff.1 inRun
  have stays := course.view_induction
    (motive := fun log view => (∀ now, (now, .ends loop) ∉ log) →
      view.phase = .running ∧ view.isRequested = true ∨
        ∃ now l, l ≠ loop ∧ (now, .begins l .permit) ∈ log) h
    (PeriodicTask.isAlive_of_get? found) alive
    (fun _ => Or.inl ⟨(PeriodicTask.phase_view found s.now).trans running, requested⟩) ?_
  · exact (stays goesOn).imp_left And.right
  · intro log view event later ih move goesOn
    rcases ih fun now member => goesOn now (List.mem_append_left _ member) with
      ⟨inRun, requested⟩ | ⟨now, l, other, member⟩
    · cases move with
      | beside => exact Or.inl ⟨inRun, requested⟩
      | request => exact Or.inl ⟨inRun, rfl⟩
      | set nanos =>
        refine Or.inl ?_
        split
        · exact ⟨inRun, requested⟩
        · exact ⟨inRun, requested⟩
      | timer due =>
        rcases due with ⟨rearming, -⟩ | ⟨deadline, asleep, -⟩
        · exact nomatch inRun.symm.trans rearming
        · exact nomatch inRun.symm.trans asleep
      | permit idle => exact absurd inRun idle
      | rearm idle => exact absurd inRun idle
      | @taken l other =>
        rw [if_pos requested]
        exact Or.inr ⟨view.now, l, other, List.mem_append_right _ (List.mem_singleton_self _)⟩
      | sleep rearming => exact nomatch inRun.symm.trans rearming
      | finish =>
        exact absurd (List.mem_append_right _ (List.mem_singleton_self _)) (goesOn view.now)
      | pass => exact Or.inl ⟨inRun, requested⟩
    · exact Or.inr ⟨now, l, other, List.mem_append_left _ member⟩

/-- A run ends while one is requested, and the loop begins that one. -/
theorem beginsAtOnce_finishRun (h : s.task.Orderly) (inRun : s.task.isInRun loop = true)
    (requested : s.task.isRequested = true) :
    BeginsAtOnce loop { s with task := s.task.finishRun loop } := by
  obtain ⟨state, found, -⟩ := isInRun_iff.1 inRun
  have orderly := (Acts.finish inRun).orderly h
  have look := @PeriodicTask.get?_setPhase s.task loop .rearming loop
  rw [if_pos rfl, found] at look
  exact beginsAtOnce orderly look nofun ((PeriodicTask.isRequested_setPhase _).trans requested)

end Schedule

/-- No request for a run is lost and none is met twice, in whatever order requests, changes of the
interval, starts, stops, wake-ups and the ends of runs come. -/
theorem requests_are_met_once {name : String} {nanos : Nat} {task : PeriodicTask} {s : Schedule}
    {history : List (Nat × TaskEvent)} (made : PeriodicTask.create name nanos = .ok task)
    (reached : Schedule.Course True ⟨task, 0⟩ history s) : s.MeetsRequests := by
  have orderly : s.task.Orderly := reached.orderly (PeriodicTask.orderly_create made)
  have asked : s.asked.task.Orderly := Schedule.Acts.request.orderly orderly
  constructor
  case wakes => exact orderly.pending
  case idle =>
    intro loop state found idle
    exact Schedule.beginsAtOnce asked found idle rfl
  case inFlight =>
    intro loop inRun log t u course goesOn ends
    obtain ⟨inRun', rfl⟩ := ends.ends_cases
    obtain ⟨state, found, -⟩ := Schedule.isInRun_iff.1 inRun'
    refine (course.requested_inRun asked inRun rfl (PeriodicTask.isAlive_of_get? found)
      goesOn).imp_left fun requested => ?_
    exact Schedule.beginsAtOnce_finishRun (course.orderly asked) inRun' requested
  case once =>
    intro log t later u course unmet further quiet
    rw [further.requestedRuns_add quiet, course.isRequested unmet rfl]
    rfl
  case unasked =>
    intro log t course unasked quiet
    have all := course.requestedRuns_add quiet
    rw [unasked, Bool.toNat_false, Nat.add_eq_zero_iff] at all
    exact ⟨all.1, by simpa using all.2⟩
  case start =>
    intro requested idle
    have granted := PeriodicTask.start_of_idle idle
    have started := Schedule.Acts.start.orderly orderly
    have found : s.start.task.loops.get? s.task.nextLoop = some {} := by
      rw [Schedule.start, PeriodicTask.started_of_start granted]
      exact Table.get?_insert_self ..
    obtain ⟨loops, nextLoop, current, frame⟩ := @PeriodicTask.started_frame s.task
    refine Schedule.beginsAtOnce started found nofun ?_
    exact (congrArg PeriodicTask.isRequested frame).trans requested

/-- A run is requested twice while another is in flight, and the interval changes. When that run ends
at 7 one run begins. -/
theorem requests_are_met_once_in_flight :
    ∃ (task : PeriodicTask) (s t u v : Schedule),
      PeriodicTask.create "traffic" 60000000000 = .ok task ∧
      Schedule.Course True ⟨task, 0⟩ [(0, .starts), (0, .requests), (0, .begins 0 .permit)] s ∧
      s.task.isInRun 0 = true ∧
      Schedule.Course True s.asked [(0, .sets 1000000000), (7, .requests)] t ∧
      t.Acts (some (.ends 0)) u ∧ u.BeginsAtOnce 0 ∧
      Schedule.Course True t [(7, .ends 0), (7, .begins 0 .permit)] v ∧
      v.task.isRequested = false := by
  let task : PeriodicTask := { name := "traffic", intervalMs := 60000 }
  let begun : Schedule := Schedule.start ⟨task, 0⟩
  let s : Schedule := { begun with task := begun.asked.task.wake 0 .permit }
  let changed : Schedule := { s.asked with task := s.asked.task.setInterval 1000000000 }
  let t : Schedule := Schedule.asked { changed with now := 7 }
  let u : Schedule := { t with task := t.task.finishRun 0 }
  let v : Schedule := { u with task := u.task.wake 0 .permit }
  have made : PeriodicTask.create "traffic" 60000000000 = .ok task := by decide
  have woken : begun.asked.Acts (some (.begins 0 .permit)) s :=
    @Schedule.Acts.wake begun.asked 0 {} .permit (by decide) (by decide)
  have passed : changed.Acts none { changed with now := 7 } := .pass (by decide) (by decide)
  have ends : t.Acts (some (.ends 0)) u := .finish (by decide)
  have wakes : u.Acts (some (.begins 0 .permit)) v :=
    @Schedule.Acts.wake u 0 {} .permit (by decide) (by decide)
  have ties : ∀ t : Schedule, True ∨ t.IsUntied := fun _ => Or.inl trivial
  have reached : Schedule.Course True ⟨task, 0⟩
      [(0, .starts), (0, .requests), (0, .begins 0 .permit)] s :=
    .tail (.tail (.tail .refl (ties _) .start) (ties _) .request) (ties _) woken
  have during : Schedule.Course True s.asked [(0, .sets 1000000000), (7, .requests)] t :=
    .tail (.tail (.tail .refl (ties _) (.set _)) (ties _) passed) (ties _) .request
  have extra : Schedule.Course True t [(7, .ends 0), (7, .begins 0 .permit)] v :=
    .tail (.tail .refl (ties _) ends) (ties _) wakes
  have meets := requests_are_met_once made reached
  have begins := (meets.inFlight 0 (by decide) _ _ _ during (by simp) ends).resolve_right (by simp)
  have one := meets.once _ _ _ _ during rfl extra (by decide)
  refine ⟨task, s, t, u, v, made, reached, by decide, during, ends, begins, extra, ?_⟩
  simpa [requestedRuns, TaskEvent.isRequestedRun] using one

end Tollgate
