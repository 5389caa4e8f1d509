import Tollgate.Proofs.Service

/-!
# Who carries the loops of a coordinator

Every loop that is carried is there, and by one carrier only. A loop that is there and is not the
one in force is being waited for by a stop (`Service.Manned`). So when nobody else is waiting and
the loops that a stop waited for have ended, no carrier is left.
-/

namespace Tollgate

/-- Whether a stop waits for a loop to end. -/
def StopCycle.awaits (kind : CycleKind) (loop : Nat) : StopCycle → Prop
  | .stoppingPull awaited => kind = .pull ∧ awaited = some loop
  | .stoppingPush awaited => kind = .push ∧ awaited = some loop

namespace Service

variable {a c : Nat} {s t : Service} {role : Simulation.Role}

/-- Every loop that is carried is there, and by one carrier only; every loop that is there is in
force or being waited for. -/
structure Manned (s : Service) : Prop where
  below : ∀ c role, s.role? c = some role → c < s.nextCarrier
  answered : ∀ c result, s.results.get? c = some result → c < s.nextCarrier
  alive : ∀ c kind loop, s.role? c = some (.loop kind loop) →
    (s.coordinator.task kind).isAlive loop = true
  apart : ∀ c c' kind loop, s.role? c = some (.loop kind loop) →
    s.role? c' = some (.loop kind loop) → c = c'
  called : ∀ c role cycle, s.carriers.get? c = some ⟨role, .stopping cycle⟩ → role = .caller
  awaited : ∀ kind loop, (s.coordinator.task kind).isAlive loop = true →
    (s.coordinator.task kind).current = some loop ∨
      ∃ c cycle, s.carriers.get? c = some ⟨.caller, .stopping cycle⟩ ∧ cycle.awaits kind loop
  numbered : ∀ kind, (s.coordinator.task kind).LoopsBelow

namespace Manned

/-- Carriers go on, or are done, and loops end with their carriers, while stops are waited for as
before. -/
theorem of_less (h : s.Manned) (loops : s.coordinator.LosesLoops t.coordinator)
    (roles : ∀ c role, t.role? c = some role → s.role? c = some role)
    (alive : ∀ c kind loop, t.role? c = some (.loop kind loop) →
      (t.coordinator.task kind).isAlive loop = true)
    (next : t.nextCarrier = s.nextCarrier)
    (results : ∀ c result, t.results.get? c = some result → c < s.nextCarrier)
    (stops : ∀ c role cycle, t.carriers.get? c = some ⟨role, .stopping cycle⟩ ↔
      s.carriers.get? c = some ⟨role, .stopping cycle⟩) : t.Manned where
  below c role found := next ▸ h.below c role (roles c role found)
  answered c result found := next ▸ results c result found
  alive := alive
  apart c c' kind loop found found' := h.apart c c' kind loop (roles c _ found) (roles c' _ found')
  called c role cycle found := h.called c role cycle ((stops c role cycle).1 found)
  awaited kind loop alive := by
    rw [(loops.task kind).current_eq]
    rcases h.awaited kind loop ((loops.task kind).isAlive_of loop alive) with
      current | ⟨c, cycle, found, awaits⟩
    · exact Or.inl current
    · exact Or.inr ⟨c, cycle, (stops c _ cycle).2 found, awaits⟩
  numbered kind :=
    (h.numbered kind).of_subset (loops.task kind).nextLoop_eq (loops.task kind).isAlive_of

/-- Carriers go on, or are done, while loops and stops stay as they are. -/
theorem of_subset (h : s.Manned) (loops : s.coordinator.KeepsLoops t.coordinator)
    (roles : ∀ c role, t.role? c = some role → s.role? c = some role)
    (next : t.nextCarrier = s.nextCarrier)
    (results : ∀ c result, t.results.get? c = some result → c < s.nextCarrier)
    (stops : ∀ c role cycle, t.carriers.get? c = some ⟨role, .stopping cycle⟩ ↔
      s.carriers.get? c = some ⟨role, .stopping cycle⟩) : t.Manned := by
  refine h.of_less loops.losesLoops roles ?_ next results stops
  intro c kind loop found
  rw [(loops.task kind).isAlive_eq]
  exact h.alive c kind loop (roles c _ found)

/-- Nothing changes but the coordinator's lanes and the phases of its loops. -/
theorem of_coordinator (h : s.Manned) (loops : s.coordinator.KeepsLoops t.coordinator)
    (carriers : t.carriers = s.carriers) (next : t.nextCarrier = s.nextCarrier)
    (results : t.results = s.results) : t.Manned := by
  refine h.of_subset loops ?_ next ?_ ?_
  · intro c role found
    rwa [role?, carriers] at found
  · rw [results]
    exact h.answered
  · intro c role cycle
    rw [carriers]

/-- A carrier that does not wait for a stop goes on. -/
theorem of_put (h : s.Manned) {stage stage' : Simulation.Stage}
    (found : s.carriers.get? c = some ⟨role, stage⟩) (going : stage.isStopping = false)
    (going' : stage'.isStopping = false) (loops : s.coordinator.KeepsLoops t.coordinator)
    (carriers : t.carriers = s.carriers.insert c ⟨role, stage'⟩)
    (next : t.nextCarrier = s.nextCarrier)
    (results : ∀ c' result, t.results.get? c' = some result →
      c' = c ∨ s.results.get? c' = some result) : t.Manned := by
  have own := role?_of_get? found
  refine h.of_subset loops ?_ next ?_ ?_
  · intro c' role' found'
    rw [role?_insert _ carriers] at found'
    split at found'
    next same =>
      obtain rfl := Option.some.inj found'
      exact same ▸ own
    next => exact found'
  · intro c' result found'
    rcases results c' result found' with rfl | known
    · exact h.below c' role own
    · exact h.answered c' result known
  · intro c' role' cycle
    rw [carriers, Table.get?_insert]
    split
    next same =>
      subst same
      rw [found]
      constructor
      · rintro ⟨⟩
        cases going'
      · rintro ⟨⟩
        cases going
    next => exact Iff.rfl

/-- A carrier is done that does not wait for a stop. -/
theorem of_erase (h : s.Manned) {stage : Simulation.Stage}
    (found : s.carriers.get? c = some ⟨role, stage⟩) (going : stage.isStopping = false)
    (loops : s.coordinator.LosesLoops t.coordinator)
    (alive : ∀ c' kind loop, c ≠ c' → s.role? c' = some (.loop kind loop) →
      (t.coordinator.task kind).isAlive loop = true)
    (carriers : t.carriers = s.carriers.erase c) (next : t.nextCarrier = s.nextCarrier)
    (results : ∀ c' result, t.results.get? c' = some result →
      c' = c ∨ s.results.get? c' = some result) : t.Manned := by
  have others : ∀ c' role', t.role? c' = some role' → c ≠ c' ∧ s.role? c' = some role' := by
    intro c' role' found'
    rw [role?_erase carriers] at found'
    split at found'
    · cases found'
    next differs => exact ⟨differs, found'⟩
  refine h.of_less loops (fun c' role' found' => (others c' role' found').2) ?_ next ?_ ?_
  · intro c' kind loop found'
    obtain ⟨differs, found'⟩ := others c' _ found'
    exact alive c' kind loop differs found'
  · intro c' result found'
    rcases results c' result found' with rfl | known
    · exact h.below c' role (role?_of_get? found)
    · exact h.answered c' result known
  · intro c' role' cycle
    rw [carriers, Table.get?_erase]
    split
    next same =>
      subst same
      rw [found]
      constructor
      · rintro ⟨⟩
      · rintro ⟨⟩
        cases going
    next => exact Iff.rfl

/-- A cycle ends. -/
theorem finish (h : s.Manned) {stage : Simulation.Stage} (loops : s.coordinator.KeepsLoops t.coordinator)
    (found : s.carriers.get? c = some ⟨role, stage⟩) (going : stage.isStopping = false)
    (carriers : t.carriers = s.carriers) (next : t.nextCarrier = s.nextCarrier)
    (kind : CycleKind) {results : Table Nat (Except Error PushSummary)}
    (known : ∀ c' result, results.get? c' = some result →
      c' = c ∨ s.results.get? c' = some result) :
    ({ t.finish c role kind with results }).Manned := by
  have handed : s.coordinator.KeepsLoops
      (t.coordinator.setLane (t.coordinator.lane kind).leave kind) :=
    loops.trans (Coordinator.keepsLoops_setLane _ _)
  cases role with
  | caller =>
    refine h.of_erase found going handed.losesLoops ?_ ?_ next known
    · intro c' kind' loop _ found'
      exact ((handed.task kind').isAlive_eq loop).trans (h.alive c' kind' loop found')
    show t.carriers.erase c = s.carriers.erase c
    rw [carriers]
  | loop own loop =>
    refine @of_put _ _ _ _ h stage .resting found going rfl (handed.trans ?_) ?_ next known
    · exact Coordinator.keepsLoops_setTask PeriodicTask.keepsLoops_finishRun
    · show t.carriers.insert c _ = s.carriers.insert c _
      rw [carriers]

/-- A loop that wakes up to end is gone with its carrier, and any other stays. -/
theorem wake (h : s.Manned) {kind : CycleKind} {loop : Nat}
    (found : s.carriers.get? c = some ⟨.loop kind loop, .resting⟩) (wakeup : Wakeup) :
    (s.wake c kind loop wakeup).Manned := by
  have own := role?_of_get? found
  have alive := @PeriodicTask.isAlive_wake (s.coordinator.task kind) loop wakeup
  by_cases ends : wakeup = .cancelled
  · subst ends
    have gone : ((s.coordinator.task kind).wake loop .cancelled).loops.get? loop = none :=
      Table.get?_erase_self _ _
    have after : s.wake c kind loop .cancelled =
        { s.setTask ((s.coordinator.task kind).wake loop .cancelled) kind with
          carriers := s.carriers.erase c } := by
      unfold Service.wake
      dsimp only
      rw [if_neg (by rw [PeriodicTask.isInRun, gone]; exact Bool.false_ne_true),
        if_neg (by rw [alive, if_pos ⟨rfl, rfl⟩]; exact Bool.false_ne_true)]
    rw [after]
    refine h.of_erase found rfl (Coordinator.losesLoops_setTask PeriodicTask.losesLoops_wake) ?_ rfl
      rfl fun _ _ known => Or.inr known
    intro c' kind' loop' differs found'
    have there := h.alive c' kind' loop' found'
    show (Coordinator.task _ kind').isAlive loop' = true
    rw [setTask, Coordinator.task_setTask]
    split
    next same =>
      subst same
      rw [alive, if_neg]
      · exact there
      · rintro ⟨-, rfl⟩
        exact differs (h.apart c c' kind loop own found')
    next => exact there
  · have keeps := Coordinator.keepsLoops_setTask
      (@PeriodicTask.keepsLoops_wake (s.coordinator.task kind) loop wakeup ends)
    unfold Service.wake
    dsimp only
    split
    · exact @of_put _ _ _ _ h .resting (.entering kind) found rfl rfl keeps rfl rfl
        fun _ _ known => Or.inr known
    · rw [if_pos (by rw [alive, if_neg (fun both => ends both.1)]; exact h.alive c kind loop own)]
      exact h.of_coordinator keeps rfl rfl rfl

/-- The stage of a caller changes, and with it what is waited for: a loop that was waited for has
ended, and one that is no longer in force is waited for now. -/
theorem of_caller (h : s.Manned) {stage stage' : Simulation.Stage}
    (found : s.carriers.get? c = some ⟨.caller, stage⟩)
    (ended : ∀ cycle kind loop, stage = .stopping cycle → cycle.awaits kind loop →
      (s.coordinator.task kind).isAlive loop = false)
    (carriers : t.carriers = s.carriers.insert c ⟨.caller, stage'⟩)
    (alive : ∀ kind loop, (t.coordinator.task kind).isAlive loop =
      (s.coordinator.task kind).isAlive loop)
    (nextLoop : ∀ kind, (t.coordinator.task kind).nextLoop = (s.coordinator.task kind).nextLoop)
    (next : t.nextCarrier = s.nextCarrier) (results : t.results = s.results)
    (current : ∀ kind loop, (s.coordinator.task kind).current = some loop →
      (t.coordinator.task kind).current = some loop ∨
        ∃ cycle, stage' = .stopping cycle ∧ cycle.awaits kind loop) : t.Manned := by
  have role : ∀ c' role', t.role? c' = some role' → s.role? c' = some role' := by
    intro c' role' found'
    rw [role?_insert _ carriers] at found'
    split at found'
    next same =>
      obtain rfl := Option.some.inj found'
      exact same ▸ role?_of_get? found
    next => exact found'
  refine ⟨?_, ?_, ?_, ?_, ?_, ?_, ?_⟩
  · intro c' role' found'
    exact next ▸ h.below c' role' (role c' role' found')
  · rw [results, next]
    exact h.answered
  · intro c' kind loop found'
    rw [alive]
    exact h.alive c' kind loop (role c' _ found')
  · intro c' c'' kind loop found' found''
    exact h.apart c' c'' kind loop (role c' _ found') (role c'' _ found'')
  · intro c' role' cycle found'
    rw [carriers, Table.get?_insert] at found'
    split at found'
    · cases found'
      rfl
    · exact h.called c' role' cycle found'
  · intro kind loop there
    rw [alive] at there
    rcases h.awaited kind loop there with force | ⟨c', cycle, found', awaits⟩
    · rcases current kind loop force with same | ⟨cycle, rfl, awaits⟩
      · exact Or.inl same
      · refine Or.inr ⟨c, cycle, ?_, awaits⟩
        rw [carriers, Table.get?_insert, if_pos rfl]
    · refine Or.inr ⟨c', cycle, ?_, awaits⟩
      rw [carriers, Table.get?_insert, if_neg]
      · exact found'
      · rintro rfl
        have same : stage = .stopping cycle :=
          congrArg Carrier.stage (Option.some.inj (found.symm.trans found'))
        exact nomatch (ended cycle kind loop same awaits).symm.trans there
  · intro kind
    refine (h.numbered kind).of_subset (nextLoop kind) fun l there => ?_
    rwa [alive] at there

/-- A task is told to stop, and somebody waits for that. -/
theorem cancel (h : s.Manned) {stage : Simulation.Stage}
    (found : s.carriers.get? c = some ⟨.caller, stage⟩)
    (ended : ∀ cycle kind loop, stage = .stopping cycle → cycle.awaits kind loop →
      (s.coordinator.task kind).isAlive loop = false)
    {kind : CycleKind} {cycle : StopCycle}
    (awaits : ∀ loop, (s.coordinator.task kind).current = some loop → cycle.awaits kind loop) :
    ((s.setTask (s.coordinator.task kind).cancel.2 kind).put c .caller (.stopping cycle)).Manned := by
  have task (kind' : CycleKind) :
      ((s.setTask (s.coordinator.task kind).cancel.2 kind).put c .caller
        (.stopping cycle)).coordinator.task kind' =
        if kind = kind' then (s.coordinator.task kind).cancel.2 else s.coordinator.task kind' :=
    Coordinator.task_setTask _ _ _
  refine h.of_caller found ended rfl ?_ ?_ rfl rfl ?_
  · intro kind' loop
    rw [task]
    split
    next same => exact same ▸ PeriodicTask.isAlive_cancel loop
    next => rfl
  · intro kind'
    rw [task]
    split
    next same => exact same ▸ PeriodicTask.nextLoop_cancel
    next => rfl
  · intro kind' loop force
    by_cases same : kind = kind'
    · subst same
      exact Or.inr ⟨cycle, rfl, awaits loop force⟩
    · rw [task, if_neg same]
      exact Or.inl force

theorem isAlive_of_isStopped {coordinator : Coordinator} {cycle : StopCycle}
    (stopped : coordinator.isStopped cycle = true) {kind : CycleKind} {loop : Nat}
    (awaits : cycle.awaits kind loop) : (coordinator.task kind).isAlive loop = false := by
  cases cycle with
  | stoppingPull awaited =>
    obtain ⟨rfl, rfl⟩ := awaits
    simpa [Coordinator.isStopped, Coordinator.task] using stopped
  | stoppingPush awaited =>
    obtain ⟨rfl, rfl⟩ := awaits
    simpa [Coordinator.isStopped, Coordinator.task] using stopped

/-- A stop goes on when the loop that it waited for has ended. -/
theorem resumeStop (h : s.Manned) {cycle : StopCycle}
    (found : s.carriers.get? c = some ⟨role, .stopping cycle⟩)
    (stopped : s.coordinator.isStopped cycle = true) :
    (s.resumeStop c role cycle).Manned := by
  obtain rfl := h.called c role cycle found
  have ended : ∀ waited kind loop, Simulation.Stage.stopping cycle = .stopping waited →
      waited.awaits kind loop → (s.coordinator.task kind).isAlive loop = false := by
    rintro waited kind loop ⟨⟩ awaits
    exact isAlive_of_isStopped stopped awaits
  cases cycle with
  | stoppingPull awaited =>
    refine @cancel _ _ h _ found ended .push _ fun loop force => ⟨rfl, ?_⟩
    exact PeriodicTask.fst_cancel.trans force
  | stoppingPush awaited =>
    exact h.of_caller found ended rfl (fun _ _ => rfl) (fun _ => rfl) rfl rfl
      fun _ _ force => Or.inl force

/-! ### Requests -/

/-- A carrier more: it waits for no stop, and carries no loop or one that nobody carries. -/
theorem begin (h : s.Manned) {stage : Simulation.Stage} (going : stage.isStopping = false)
    (own : ∀ kind loop, role = .loop kind loop →
      (s.coordinator.task kind).isAlive loop = true ∧ ∀ c, s.role? c ≠ some role) :
    (s.begin role stage).Manned := by
  have inserted := @role?_insert s.nextCarrier s (s.begin role stage) ⟨role, stage⟩ rfl
  have known (c' : Nat) (role' : Simulation.Role) (found : s.role? c' = some role') :
      s.nextCarrier ≠ c' := Nat.ne_of_gt (h.below c' role' found)
  refine ⟨?_, ?_, ?_, ?_, ?_, ?_, h.numbered⟩
  · intro c' role' found
    rw [inserted] at found
    show c' < s.nextCarrier + 1
    split at found
    next same => omega
    next => exact Nat.lt_succ_of_lt (h.below c' role' found)
  · intro c' result found
    exact Nat.lt_succ_of_lt (h.answered c' result found)
  · intro c' kind loop found
    rw [inserted] at found
    split at found
    · exact (own kind loop (Option.some.inj found)).1
    · exact h.alive c' kind loop found
  · intro c' c'' kind loop found found'
    rw [inserted] at found found'
    split at found
    next same =>
      split at found'
      next same' => exact same.symm.trans same'
      next =>
        have fresh := (own kind loop (Option.some.inj found)).2 c''
        exact absurd (found'.trans found.symm) fresh
    next =>
      split at found'
      next =>
        have fresh := (own kind loop (Option.some.inj found')).2 c'
        exact absurd (found.trans found'.symm) fresh
      next => exact h.apart c' c'' kind loop found found'
  · intro c' role' cycle found
    have found := (Table.get?_insert _ _ _ _).symm.trans found
    split at found
    · cases found
      cases going
    · exact h.called c' role' cycle found
  · intro kind loop there
    rcases h.awaited kind loop there with force | ⟨c', cycle, found, awaits⟩
    · exact Or.inl force
    · refine Or.inr ⟨c', cycle, ?_, awaits⟩
      exact (Table.get?_insert_of_ne _ (known c' _ (role?_of_get? found)) _).trans found

/-- A loop begins with its carrier. -/
theorem startLoop (h : s.Manned) {kind : CycleKind} {loop : Nat} {task : PeriodicTask}
    (granted : (s.coordinator.task kind).start = .ok (loop, task)) :
    ((s.setTask task kind).begin (.loop kind loop) .resting).Manned := by
  obtain ⟨idle, rfl, made⟩ := PeriodicTask.start_eq_ok_iff.1 granted
  have alive := fun l => @PeriodicTask.isAlive_start _ _ _ l granted
  have placed (kind' : CycleKind) : (s.setTask task kind).coordinator.task kind' =
      if kind = kind' then task else s.coordinator.task kind' :=
    Coordinator.task_setTask _ _ _
  have fresh (c : Nat) : s.role? c ≠ some (.loop kind (s.coordinator.task kind).nextLoop) :=
    fun found => Nat.lt_irrefl _ (h.numbered kind _ (h.alive c kind _ found))
  have between : (s.setTask task kind).Manned := by
    refine ⟨h.below, h.answered, ?_, h.apart, h.called, ?_, ?_⟩
    · intro c' kind' loop' found
      have there := h.alive c' kind' loop' found
      rw [placed]
      split
      next same =>
        subst same
        rw [alive, there, ite_self]
      next => exact there
    · intro kind' loop' there
      rw [placed] at there ⊢
      split at there
      next same =>
        subst same
        rw [if_pos rfl]
        rw [alive] at there
        split at there
        next own =>
          refine Or.inl ?_
          rw [made, own]
        next =>
          rcases h.awaited kind loop' there with force | waiting
          · have running : (s.coordinator.task kind).isRunning = true := by
              rw [PeriodicTask.isRunning, force]
              exact there
            exact nomatch running.symm.trans idle
          · exact Or.inr waiting
      next other =>
        rw [if_neg other]
        exact h.awaited kind' loop' there
    · intro kind'
      rw [placed]
      split
      next same =>
        subst same
        exact (h.numbered kind).start granted
      next => exact h.numbered kind'
  refine between.begin rfl ?_
  rintro kind' loop' ⟨⟩
  refine ⟨?_, fresh⟩
  rw [placed, if_pos rfl, alive, if_pos rfl]

theorem ask (h : s.Manned) (request : ServiceRequest) : (s.ask request).Manned := by
  cases request with
  | start =>
    unfold Service.ask Coordinator.start
    cases pulls : s.coordinator.pullTask.start with
    | error e => exact h
    | ok begun =>
      obtain ⟨pullLoop, pullTask⟩ := begun
      have first := @startLoop _ h .pull pullLoop pullTask pulls
      cases pushes : s.coordinator.pushTask.start with
      | error e => exact first
      | ok begun =>
        obtain ⟨pushLoop, pushTask⟩ := begun
        have second := @startLoop _ first .push pushLoop pushTask pushes
        refine second.of_coordinator ⟨fun kind => ?_, rfl, rfl⟩ rfl rfl rfl
        cases kind with
        | pull => exact ⟨fun _ => rfl, rfl, rfl⟩
        | push => exact .refl
  | stop =>
    have more := @begin _ .caller h (.entering .pull) rfl nofun
    have found : (s.begin .caller (.entering .pull)).carriers.get? s.nextCarrier =
        some ⟨.caller, .entering .pull⟩ := Table.get?_insert_self _ _ _
    have waits := @cancel s.nextCarrier _ more (.entering .pull) found nofun .pull
      (.stoppingPull s.coordinator.pullTask.current) fun loop force => ⟨rfl, force⟩
    have cycle : s.coordinator.beginStop.1 = .stoppingPull s.coordinator.pullTask.current :=
      congrArg StopCycle.stoppingPull PeriodicTask.fst_cancel
    refine waits.of_coordinator .refl ?_ rfl rfl
    show s.carriers.insert s.nextCarrier ⟨.caller, .stopping s.coordinator.beginStop.1⟩ =
      (s.carriers.insert s.nextCarrier _).insert s.nextCarrier _
    rw [Table.insert_insert, cycle]
  | pull => exact h.begin rfl nofun
  | push => exact h.begin rfl nofun

/-! ### Runs -/

theorem settlePush (h : s.Manned) {stage : Simulation.Stage}
    (found : s.carriers.get? c = some ⟨role, stage⟩) (going : stage.isStopping = false)
    (coordinator : t.coordinator = s.coordinator) (carriers : t.carriers = s.carriers)
    (next : t.nextCarrier = s.nextCarrier) (results : t.results = s.results) (returnsAt : Nat)
    (progress : Progress PushCycle PushSummary) : (t.settlePush c role returnsAt progress).Manned := by
  have loops : s.coordinator.KeepsLoops t.coordinator := coordinator ▸ .refl
  cases progress with
  | calling cycle =>
    refine @of_put _ _ _ _ h stage (.pushing cycle returnsAt) found going rfl loops ?_ next ?_
    · show t.carriers.insert c _ = _
      rw [carriers]
    · exact fun c' result known => Or.inr (results ▸ known)
  | finished result =>
    refine h.finish loops found going carriers next .push ?_
    intro c' result' known
    rw [results] at known
    split at known
    · rw [Table.get?_insert] at known
      split at known
      next same => exact Or.inl same.symm
      next => exact Or.inr known
    · exact Or.inr known

theorem settlePull (h : s.Manned) {stage : Simulation.Stage}
    (found : s.carriers.get? c = some ⟨role, stage⟩) (going : stage.isStopping = false)
    (loops : s.coordinator.KeepsLoops t.coordinator) (carriers : t.carriers = s.carriers)
    (next : t.nextCarrier = s.nextCarrier) (results : t.results = s.results) (returnsAt : Nat)
    (progress : Progress PullCycle Unit) : (t.settlePull c role returnsAt progress).Manned := by
  have known : ∀ c' result, t.results.get? c' = some result →
      c' = c ∨ s.results.get? c' = some result := fun c' result known => Or.inr (results ▸ known)
  cases progress with
  | calling cycle =>
    refine @of_put _ _ _ _ h stage (.pulling cycle returnsAt) found going rfl loops ?_ next known
    show t.carriers.insert c _ = _
    rw [carriers]
  | finished result =>
    have ended := h.finish loops found going carriers next .pull known
    cases role <;> exact ended

theorem move (h : s.Manned) (move : Move a c s t) : t.Manned := by
  cases move with
  | wake found there may => exact h.wake found _
  | sleep found there rearming nothing =>
    refine h.of_coordinator (Coordinator.keepsLoops_setTask ?_) rfl rfl rfl
    exact PeriodicTask.keepsLoops_setPhase _
  | @enter role kind found =>
    exact @of_put _ _ _ _ h _ (.queued kind) found rfl rfl (Coordinator.keepsLoops_setLane _ _) rfl
      rfl fun _ _ known => Or.inr known
  | beginPull found held returnsAt =>
    refine h.settlePull found rfl ?_ ?_ ?_ ?_ _ _
    · exact Coordinator.keepsLoops_beginPull _
    all_goals rfl
  | resumePull found returned plane returnsAt =>
    refine h.settlePull found rfl ?_ ?_ ?_ ?_ _ _
    · exact Coordinator.keepsLoops_resumePull _ _ _
    all_goals rfl
  | beginPush found held now returnsAt =>
    refine h.settlePush found rfl ?_ ?_ ?_ ?_ _ _
    all_goals rfl
  | resumePush found returned peers now returnsAt =>
    refine h.settlePush found rfl ?_ ?_ ?_ ?_ _ _
    all_goals rfl
  | resumeStop found stopped => exact h.resumeStop found stopped

theorem step (h : s.Manned) (step : Step a s t) : t.Manned := by
  cases step with
  | operate open_ => exact h.of_coordinator .refl rfl rfl rfl
  | elsewhere active scope => exact h.of_coordinator .refl rfl rfl rfl
  | pass forward => exact h.of_coordinator .refl rfl rfl rfl
  | move move => exact h.move move

theorem run (h : s.Manned) (run : Run a s t) : t.Manned := by
  induction run with
  | refl => exact h
  | tail _ last ih =>
    rcases last with step | ⟨request, rfl⟩
    · exact ih.step step
    · exact ih.ask request

end Manned

/-! ### Numbers of carriers -/

/-- Numbers that are still to be given have no carriers and no results. -/
def IsFresh (s : Service) : Prop :=
  ∀ c, s.nextCarrier ≤ c → s.carriers.get? c = none ∧ s.results.get? c = none

theorem Manned.isFresh (h : s.Manned) : s.IsFresh := by
  intro c ahead
  constructor
  · refine Option.eq_none_iff_forall_ne_some.2 fun carrier there => ?_
    exact Nat.not_lt.2 ahead (h.below c carrier.role (role?_of_get? there))
  · refine Option.eq_none_iff_forall_ne_some.2 fun result given => ?_
    exact Nat.not_lt.2 ahead (h.answered c result given)

theorem IsFresh.begin (h : s.IsFresh) {role : Simulation.Role} {stage : Simulation.Stage} :
    (s.begin role stage).IsFresh := by
  intro c ahead
  obtain ⟨free, unanswered⟩ := h c (Nat.le_of_succ_le ahead)
  exact ⟨(Table.get?_insert_of_ne _ (Nat.ne_of_lt ahead) _).trans free, unanswered⟩

end Service

end Tollgate
