import Tollgate.Proofs.ReportCalls

/-!
# A stop reports everything

A stop waits for the loop of either task to end and pushes once more. When both loops have ended
nobody else is left (`Service.Manned`), so nothing is in flight when the last push begins, also where
a push that was in flight has failed since and was put back: what it takes out is all that is not
delivered (`TrafficAccount.Covers`). `Service.Stopping` says how far a stop has come.
-/

namespace Tollgate

/-! ### The last push -/

/-- A first part of what was counted was delivered or is carried, but for whole multiples of the
width. -/
structure TrafficAccount.Covers (account : TrafficAccount) (early : List (UInt64 × Traffic))
    (carried : UInt64 → Direction → Nat) : Prop where
  isPrefix : early <+: account.counted
  balance : ∀ user way, ∃ k, bytesCounted user way early =
    bytesDelivered user way account.delivered + carried user way + k * UInt64.size

/-- What a push that has come so far has covered: all, unless its report fails. -/
def Progress.Covers (a : Nat) (account : TrafficAccount) (early : List (UInt64 × Traffic)) :
    Progress PushCycle PushSummary → Prop
  | .calling (.reporting b drained) =>
    b = a ∧ account.Covers early fun user way => bytesIn user way (drained.map (·.2))
  | .calling (.syncing _ _ summary) | .finished (.ok summary) =>
    summary.reportFailed = false → account.Covers early fun _ _ => 0
  | .finished (.error _) => True

/-- More is counted. -/
theorem TrafficAccount.Covers.count {account : TrafficAccount} {early : List (UInt64 × Traffic)}
    {carried : UInt64 → Direction → Nat} (h : account.Covers early carried)
    (more : List (UInt64 × Traffic)) :
    { account with counted := account.counted ++ more }.Covers early carried :=
  ⟨h.isPrefix.trans (List.prefix_append _ _), h.balance⟩

/-- What is carried is delivered. -/
theorem TrafficAccount.Covers.deliver {account : TrafficAccount} {early : List (UInt64 × Traffic)}
    {report : List UserTraffic}
    (h : account.Covers early fun user way => bytesIn user way report) (now : Timestamp) :
    (account.deliver [(now, report)]).Covers early fun _ _ => 0 := by
  refine ⟨h.isPrefix, fun user way => ?_⟩
  obtain ⟨k, balance⟩ := h.balance user way
  refine ⟨k, balance.trans ?_⟩
  have last : bytesDelivered user way [(now, report)] = bytesIn user way report := by
    simp [bytesDelivered]
  rw [TrafficAccount.deliver, bytesDelivered_append, last]
  omega

theorem Progress.Covers.count {a : Nat} {account : TrafficAccount} {early : List (UInt64 × Traffic)}
    {progress : Progress PushCycle PushSummary} (h : progress.Covers a account early)
    (more : List (UInt64 × Traffic)) :
    progress.Covers a { account with counted := account.counted ++ more } early := by
  match progress, h with
  | .calling (.reporting _ _), h => exact ⟨h.1, h.2.count more⟩
  | .calling (.syncing _ _ _), h => exact fun delivered => (h delivered).count more
  | .finished (.ok _), h => exact fun delivered => (h delivered).count more
  | .finished (.error _), _ => exact trivial

namespace Coordinator

variable {coordinator : Coordinator} {registry : Registry} {a : Nat} {account : TrafficAccount}
  {early : List (UInt64 × Traffic)}

theorem covers_closeWindow (b : Nat) {summary : PushSummary}
    (covers : summary.reportFailed = false → account.Covers early fun _ _ => 0) :
    (coordinator.closeWindow registry b summary).1.Covers a account early := by
  unfold closeWindow
  dsimp only
  split
  · split
    · exact covers
    · exact covers
  · exact covers

/-- A push that begins when nothing is in flight takes out all that is not delivered. -/
theorem covers_beginPush {name : String}
    (active : registry.active.get? coordinator.scope = some a)
    (conserved : Conserved name (registry.scope a) account fun _ _ => 0) (now : Timestamp) :
    (coordinator.beginPush registry now).1.Covers a
      (account.deliver (coordinator.deliversAtOnce registry a now)) account.counted := by
  generalize drained : (registry.scope a).ledger.entries = entries
  have covers : account.Covers account.counted
      fun user way => bytesIn user way (entries.map (·.2)) := by
    refine ⟨List.prefix_refl _, fun user way => ?_⟩
    obtain ⟨k, balance⟩ := conserved.balance user way
    refine ⟨k, ?_⟩
    rw [← drained, conserved.keyed.bytesIn_entries]
    omega
  rw [beginPush_of_active active now drained, deliversAtOnce, drained]
  by_cases nothing : entries = []
  · rw [if_pos nothing, if_neg (by simp [nothing]), account.deliver_nil]
    rw [nothing] at covers
    exact covers_closeWindow a fun _ => covers
  · rw [if_neg nothing]
    by_cases reporter : coordinator.hasReporter = true
    · rw [if_pos reporter, if_neg (by simp [reporter]), account.deliver_nil]
      exact ⟨rfl, covers⟩
    · rw [if_neg reporter, if_pos ⟨Bool.not_eq_true _ ▸ reporter, active, nothing⟩]
      exact covers_closeWindow a fun _ => covers.deliver now

/-- A push that goes on has covered what it had taken out, unless its report fails. -/
theorem covers_resumePush (peers : Collaborators) (now : Timestamp) {cycle : PushCycle}
    (covers : (Progress.calling cycle).Covers a account early) :
    (coordinator.resumePush registry peers now cycle).1.Covers a
      (account.deliver (cycle.delivers a peers now)) early := by
  cases cycle with
  | reporting b drained =>
    obtain ⟨rfl, covers⟩ := covers
    simp only [resumePush]
    cases answered : peers.report with
    | ok =>
      rw [PushCycle.delivers_of_ok answered]
      exact covers_closeWindow b fun _ => covers.deliver now
    | error e =>
      refine covers_closeWindow b ?_
      rintro ⟨⟩
  | syncing b online summary =>
    rw [PushCycle.delivers_syncing, account.deliver_nil]
    simp only [resumePush]
    cases peers.sync online with
    | ok merged => exact covers
    | error e => exact covers

end Coordinator

/-! ### How far a stop has come -/

/-- Whether a stop has told a task to end. -/
def StopCycle.hasTold (kind : CycleKind) : StopCycle → Prop
  | .stoppingPull _ => kind = .pull
  | .stoppingPush _ => True

namespace Service

variable {a c : Nat} {s t : Service} {role : Simulation.Role} {start : Registry}
  {counted : List (UInt64 × Traffic)}

theorem keepsLoops_finish {before : Coordinator} (loops : before.KeepsLoops s.coordinator)
    (kind : CycleKind) : before.KeepsLoops (s.finish c role kind).coordinator := by
  have handed := loops.trans
    (Coordinator.keepsLoops_setLane (s.coordinator.lane kind).leave kind)
  cases role with
  | caller => exact handed
  | loop own loop =>
    exact handed.trans (Coordinator.keepsLoops_setTask PeriodicTask.keepsLoops_finishRun)

theorem keepsLoops_settlePull {before : Coordinator} (loops : before.KeepsLoops s.coordinator)
    (returnsAt : Nat) (progress : Progress PullCycle Unit) :
    before.KeepsLoops (s.settlePull c role returnsAt progress).coordinator := by
  cases progress with
  | calling cycle => exact loops
  | finished result => exact keepsLoops_finish loops .pull

theorem keepsLoops_settlePush {before : Coordinator} (loops : before.KeepsLoops s.coordinator)
    (returnsAt : Nat) (progress : Progress PushCycle PushSummary) :
    before.KeepsLoops (s.settlePush c role returnsAt progress).coordinator := by
  cases progress with
  | calling cycle => exact loops
  | finished result => exact keepsLoops_finish loops .push

/-- Only stops tell a task to end. -/
theorem Move.losesLoops (move : Move a c s t)
    (going : ∀ role cycle, s.carriers.get? c ≠ some ⟨role, .stopping cycle⟩) :
    s.coordinator.LosesLoops t.coordinator := by
  cases move with
  | @wake kind loop state wakeup found there may =>
    rw [coordinator_wake]
    exact Coordinator.losesLoops_setTask PeriodicTask.losesLoops_wake
  | sleep found there rearming nothing =>
    exact (Coordinator.keepsLoops_setTask (PeriodicTask.keepsLoops_setPhase _)).losesLoops
  | enter found => exact (Coordinator.keepsLoops_setLane _ _).losesLoops
  | beginPull found held returnsAt =>
    refine (keepsLoops_settlePull ?_ _ _).losesLoops
    exact Coordinator.keepsLoops_beginPull _
  | resumePull found returned plane returnsAt =>
    refine (keepsLoops_settlePull ?_ _ _).losesLoops
    exact Coordinator.keepsLoops_resumePull _ _ _
  | beginPush found held now returnsAt =>
    refine (keepsLoops_settlePush ?_ _ _).losesLoops
    exact .refl
  | resumePush found returned peers now returnsAt =>
    refine (keepsLoops_settlePush ?_ _ _).losesLoops
    exact .refl
  | resumeStop found stopped => exact absurd found (going _ _)

theorem Move.exists_carrier (move : Move a c s t) : ∃ carrier, s.carriers.get? c = some carrier := by
  cases move <;> exact ⟨_, by assumption⟩

/-! ### How far a stop has come -/

/-- A stop waits for a loop: nobody else is waiting for anything, and a task that it has told to end
has no loop in force. -/
structure Waits (c : Nat) (cycle : StopCycle) (s : Service) : Prop where
  unanswered : s.results.get? c = none
  loops : ∀ c' role, c ≠ c' → s.role? c' = some role → role ≠ .caller
  told : ∀ kind, cycle.hasTold kind → (s.coordinator.task kind).current = none

/-- A stop is at its last push, or about to: nobody else is left. -/
structure Remains (c : Nat) (s : Service) : Prop where
  unanswered : s.results.get? c = none
  alone : ∀ c', c ≠ c' → s.carriers.get? c' = none

/-- What holds while a stop is at a stage, and when it is done. -/
def Stopping (a c : Nat) (counted : List (UInt64 × Traffic)) (s : Service) : Option Carrier → Prop
  | some ⟨.caller, .stopping cycle⟩ => Waits c cycle s
  | some ⟨.caller, .entering .push⟩ | some ⟨.caller, .queued .push⟩ => Remains c s
  | some ⟨.caller, .pushing cycle _⟩ =>
    Remains c s ∧ ∃ early, counted <+: early ∧ (Progress.calling cycle).Covers a s.account early
  | some _ => False
  | none =>
    (∀ c', s.carriers.get? c' = none) ∧ ∃ result early, s.results.get? c = some result ∧
      counted <+: early ∧ (Progress.finished result).Covers a s.account early

theorem Waits.of_carriers {cycle : StopCycle} (h : Waits c cycle s)
    (carriers : t.carriers = s.carriers) (results : t.results = s.results)
    (coordinator : t.coordinator = s.coordinator) : Waits c cycle t where
  unanswered := results ▸ h.unanswered
  loops c' role other found := h.loops c' role other (by rwa [role?, carriers] at found)
  told := coordinator ▸ h.told

theorem Remains.of_carriers (h : Remains c s) (carriers : t.carriers = s.carriers)
    (results : t.results = s.results) : Remains c t :=
  ⟨results ▸ h.unanswered, carriers ▸ h.alone⟩

theorem inFlight_of_nobody (nobody : ∀ c, s.carriers.get? c = none) (user : UInt64)
    (way : Direction) : s.inFlight a user way = 0 := by
  have nothing : s.carriers = .empty := Table.ext_get? nobody
  rw [inFlight, nothing]
  rfl

/-- When nobody else is left, nothing is in flight before the last push. -/
theorem Remains.inFlight_eq_zero (h : Remains c s) (idle : s.push? c = none) (user : UInt64)
    (way : Direction) : s.inFlight a user way = 0 := by
  have same : Apart c s s := .refl
  have nobody (c' : Nat) : (s.carriers.erase c).get? c' = none := by
    rw [Table.get?_erase]
    split
    · rfl
    next other => exact h.alone c' other
  rw [same.inFlight_eq, idle]
  exact (Nat.zero_add _).trans
    (@inFlight_of_nobody a { s with carriers := s.carriers.erase c } nobody user way)

namespace Stopping

/-- Nothing happens to carriers and loops. -/
theorem of_carriers {carrier : Option Carrier} (h : Stopping a c counted s carrier)
    (carriers : t.carriers = s.carriers) (results : t.results = s.results)
    (coordinator : t.coordinator = s.coordinator) {more : List (UInt64 × Traffic)}
    (account : t.account = { s.account with counted := s.account.counted ++ more }) :
    Stopping a c counted t carrier := by
  match carrier, h with
  | some ⟨.caller, .stopping cycle⟩, h => exact Waits.of_carriers h carriers results coordinator
  | some ⟨.caller, .entering .push⟩, h => exact Remains.of_carriers h carriers results
  | some ⟨.caller, .queued .push⟩, h => exact Remains.of_carriers h carriers results
  | some ⟨.caller, .pushing cycle due⟩, ⟨remains, early, later, covers⟩ =>
    exact ⟨remains.of_carriers carriers results, early, later, account ▸ covers.count more⟩
  | none, ⟨nobody, result, early, answered, later, covers⟩ =>
    exact ⟨carriers ▸ nobody, result, early, results ▸ answered, later, account ▸ covers.count more⟩

/-- Others move only as long as the stop waits for a loop. -/
theorem of_other {carrier : Option Carrier} (h : Stopping a c counted s carrier) {c' : Nat}
    (other : c ≠ c') (known : s.carriers.get? c' ≠ none) :
    ∃ cycle, carrier = some ⟨.caller, .stopping cycle⟩ ∧ Waits c cycle s := by
  match carrier, h with
  | some ⟨.caller, .stopping cycle⟩, h => exact ⟨cycle, rfl, h⟩
  | some ⟨.caller, .entering .push⟩, h => exact absurd (h.alone c' other) known
  | some ⟨.caller, .queued .push⟩, h => exact absurd (h.alone c' other) known
  | some ⟨.caller, .pushing cycle due⟩, h => exact absurd (h.1.alone c' other) known
  | none, h => exact absurd (h.1 c') known

/-- A stop with a result has left nobody. -/
theorem of_answered {carrier : Option Carrier} (h : Stopping a c counted s carrier)
    {result : Except Error PushSummary} (answered : s.results.get? c = some result) :
    (∀ c', s.carriers.get? c' = none) ∧
      ∃ early, counted <+: early ∧ (Progress.finished result).Covers a s.account early := by
  match carrier, h with
  | some ⟨.caller, .stopping cycle⟩, h => exact nomatch (Waits.unanswered h).symm.trans answered
  | some ⟨.caller, .entering .push⟩, h => exact nomatch (Remains.unanswered h).symm.trans answered
  | some ⟨.caller, .queued .push⟩, h => exact nomatch (Remains.unanswered h).symm.trans answered
  | some ⟨.caller, .pushing cycle due⟩, h => exact nomatch h.1.unanswered.symm.trans answered
  | none, ⟨nobody, result', early, answered', later, covers⟩ =>
    obtain rfl := Option.some.inj (answered'.symm.trans answered)
    exact ⟨nobody, early, later, covers⟩

theorem role_eq {stage : Simulation.Stage} (h : Stopping a c counted s (some ⟨role, stage⟩)) :
    role = .caller := by
  cases role with
  | caller => rfl
  | loop kind loop => exact False.elim h

/-- The last push comes further. -/
theorem settlePush {early : List (UInt64 × Traffic)} {progress : Progress PushCycle PushSummary}
    (h : Remains c s) (later : counted <+: early) (covers : progress.Covers a s.account early)
    (returnsAt : Nat) :
    Stopping a c counted (s.settlePush c .caller returnsAt progress)
      ((s.settlePush c .caller returnsAt progress).carriers.get? c) := by
  cases progress with
  | calling cycle =>
    have found : (s.settlePush c .caller returnsAt (.calling cycle)).carriers.get? c =
        some ⟨.caller, .pushing cycle returnsAt⟩ := Table.get?_insert_self _ _ _
    rw [found]
    refine ⟨⟨h.unanswered, fun c' other => ?_⟩, early, later, covers⟩
    exact (Table.get?_insert_of_ne _ other _).trans (h.alone c' other)
  | finished result =>
    have found : (s.settlePush c .caller returnsAt (.finished result)).carriers.get? c = none :=
      Table.get?_erase_self _ _
    rw [found]
    refine ⟨fun c' => ?_, result, early, Table.get?_insert_self _ _ _, later, covers⟩
    by_cases own : c = c'
    · exact own ▸ found
    · exact (Table.get?_erase_of_ne _ own).trans (h.alone c' own)

/-- When both loops have ended, nobody else is left. -/
theorem remains {loop : Option Nat} (h : Waits c (.stoppingPush loop) s) (manned : s.Manned)
    (found : s.carriers.get? c = some ⟨.caller, .stopping (.stoppingPush loop)⟩)
    (stopped : s.coordinator.isStopped (.stoppingPush loop) = true) : Remains c s := by
  refine ⟨h.unanswered, fun c' other => ?_⟩
  cases found' : s.carriers.get? c' with
  | none => rfl
  | some carrier =>
    obtain ⟨role, stage⟩ := carrier
    have known := role?_of_get? found'
    cases role with
    | caller => exact absurd rfl (h.loops c' .caller other known)
    | loop kind l =>
      have alive := manned.alive c' kind l known
      rcases manned.awaited kind l alive with force | ⟨c'', cycle, found'', awaits⟩
      · exact nomatch (h.told kind trivial).symm.trans force
      · by_cases own : c = c''
        · subst own
          obtain rfl : StopCycle.stoppingPush loop = cycle := by
            simpa using found.symm.trans found''
          exact nomatch alive.symm.trans (Manned.isAlive_of_isStopped stopped awaits)
        · exact absurd rfl (h.loops c'' .caller own (role?_of_get? found''))

/-- A stop goes on when the loop that it waited for has ended. -/
theorem resumeStop {cycle : StopCycle} (h : Waits c cycle s) (manned : s.Manned)
    (found : s.carriers.get? c = some ⟨.caller, .stopping cycle⟩)
    (stopped : s.coordinator.isStopped cycle = true) :
    Stopping a c counted
      (s.resumeStop c .caller cycle) ((s.resumeStop c .caller cycle).carriers.get? c) := by
  have apart : Apart c s (s.resumeStop c .caller cycle) :=
    (Move.resumeStop (a := a) found stopped).apart
  have after : (s.resumeStop c .caller cycle).carriers.get? c = some ⟨.caller,
      ((s.coordinator.resumeStop cycle).1.map Simulation.Stage.stopping).getD (.entering .push)⟩ :=
    Table.get?_insert_self _ _ _
  rw [after]
  cases cycle with
  | stoppingPull loop =>
    refine ⟨h.unanswered, fun c' role other known => h.loops c' role other (apart.role?_of known), ?_⟩
    intro kind _
    cases kind with
    | pull => exact h.told .pull rfl
    | push => exact PeriodicTask.current_cancel
  | stoppingPush loop =>
    have alone := (remains h manned found stopped).alone
    exact ⟨h.unanswered, fun c' other => (apart.get?_eq other).trans (alone c' other)⟩

/-- The stop moves, or somebody that it waits for. -/
theorem move (h : Stopping a c counted s (s.carriers.get? c)) (manned : s.Manned)
    (booked : s.Booked a start) (later : counted <+: s.account.counted) {c' : Nat}
    (move : Move a c' s t) : Stopping a c counted t (t.carriers.get? c) := by
  have apart := move.apart
  by_cases own : c' = c
  · subst own
    cases move with
    | wake found there may =>
      rw [found] at h
      exact False.elim h
    | sleep found there rearming nothing =>
      rw [found] at h
      exact False.elim h
    | @enter role kind found =>
      rw [found] at h
      obtain rfl := h.role_eq
      cases kind with
      | pull => exact False.elim h
      | push =>
        have after : (s.enter c' .caller .push).carriers.get? c' = some ⟨.caller, .queued .push⟩ :=
          Table.get?_insert_self _ _ _
        rw [after]
        exact ⟨h.unanswered, fun c' other => (apart.get?_eq other).trans (h.alone c' other)⟩
    | beginPull found held returnsAt =>
      rw [found] at h
      obtain rfl := h.role_eq
      exact False.elim h
    | resumePull found returned plane returnsAt =>
      rw [found] at h
      obtain rfl := h.role_eq
      exact False.elim h
    | beginPush found held now returnsAt =>
      rw [found] at h
      obtain rfl := h.role_eq
      have nothing := @Remains.inFlight_eq_zero a _ _ h (push?_of_get? found)
      refine settlePush ?_ later ?_ _
      · exact Remains.of_carriers h rfl rfl
      · exact Coordinator.covers_beginPush booked.active
          (booked.conserved.of_carried fun user way => (nothing user way).symm) now
    | resumePush found returned peers now returnsAt =>
      rw [found] at h
      obtain rfl := h.role_eq
      obtain ⟨remains, early, later, covers⟩ := h
      refine settlePush ?_ later ?_ _
      · exact remains.of_carriers rfl rfl
      · exact Coordinator.covers_resumePush peers now covers
    | resumeStop found stopped =>
      rw [found] at h
      obtain rfl := h.role_eq
      exact Stopping.resumeStop h manned found stopped
  · obtain ⟨carrier, found'⟩ := move.exists_carrier
    obtain ⟨cycle, found, waits⟩ := h.of_other (Ne.symm own) (by rw [found']; exact nofun)
    rw [apart.get?_eq own, found]
    refine ⟨(apart.results c own).trans waits.unanswered,
      fun c'' role other known => waits.loops c'' role other (apart.role?_of known), ?_⟩
    intro kind told
    have loops := move.losesLoops ?_
    · rw [(loops.task kind).current_eq]
      exact waits.told kind told
    · intro role cycle' found''
      obtain rfl := manned.called c' role cycle' found''
      exact waits.loops c' .caller (Ne.symm own) (role?_of_get? found'') rfl

end Stopping

/-- A coordinator at work that is being stopped, or was. -/
structure Stops (a c : Nat) (start : Registry) (counted : List (UInt64 × Traffic)) (s : Service) :
    Prop where
  manned : s.Manned
  booked : s.Booked a start
  later : counted <+: s.account.counted
  stopping : Stopping a c counted s (s.carriers.get? c)

namespace Stops

/-- A stop begins while nobody is waiting for anything. -/
theorem begin (manned : s.Manned) (booked : s.Booked a start)
    (alone : ∀ c, s.role? c ≠ some .caller) :
    (s.ask .stop).Stops a s.nextCarrier start s.account.counted := by
  refine ⟨manned.ask .stop, booked.ask manned .stop, List.prefix_refl _, ?_⟩
  have found : (s.ask .stop).carriers.get? s.nextCarrier =
      some ⟨.caller, .stopping s.coordinator.beginStop.1⟩ := Table.get?_insert_self _ _ _
  rw [found]
  refine ⟨?_, ?_, ?_⟩
  · show s.results.get? s.nextCarrier = none
    rw [Option.eq_none_iff_forall_ne_some]
    exact fun result known => Nat.lt_irrefl _ (manned.answered _ result known)
  · rintro c' role other known rfl
    refine alone c' ?_
    rw [← known, role?, role?]
    exact congrArg (Option.map _) (Table.get?_insert_of_ne _ other _).symm
  · rintro kind ⟨⟩
    exact PeriodicTask.current_cancel

theorem step (h : s.Stops a c start counted) (step : Step a s t) : t.Stops a c start counted := by
  refine ⟨h.manned.step step, h.booked.step step, ?_, ?_⟩
  · cases step with
    | operate open_ => exact h.later.trans (List.prefix_append _ _)
    | elsewhere active scope => exact h.later
    | pass forward => exact h.later
    | move move => exact move.apart.counted ▸ h.later
  · have stay := fun (t : Service) => @Stopping.of_carriers a c s t counted _ h.stopping
    cases step with
    | operate open_ => exact stay _ rfl rfl rfl rfl
    | elsewhere active scope => exact @stay _ rfl rfl rfl [] (by rw [List.append_nil])
    | pass forward => exact @stay _ rfl rfl rfl [] (by rw [List.append_nil])
    | move move => exact h.stopping.move h.manned h.booked h.later move

theorem quiet (h : s.Stops a c start counted) (quiet : Quiet a s t) : t.Stops a c start counted := by
  induction quiet with
  | refl => exact h
  | tail _ last ih => exact ih.step last

end Stops

section Created

variable {scope : String} {config : CoordinatorConfig} {hasRecorder hasReporter : Bool}
  {coordinator : Coordinator} {registry : Registry}

/-- Both tasks have been created. -/
theorem tasks_of_create
    (created : Coordinator.create scope config hasRecorder hasReporter = .ok coordinator) :
    coordinator.scope = scope ∧ coordinator.hasReporter = hasReporter ∧
      ∀ kind, ∃ name nanos, PeriodicTask.create name nanos = .ok (coordinator.task kind) := by
  unfold Coordinator.create at created
  cases valid : config.validate with
  | error e =>
    rw [valid] at created
    cases created
  | ok =>
    rw [valid] at created
    cases pull : PeriodicTask.create "roster-pull"
        (Coordinator.secondsToNanos config.pullInterval) with
    | error e =>
      rw [pull] at created
      cases created
    | ok pullTask =>
      rw [pull] at created
      cases push : PeriodicTask.create "traffic-push"
          (Coordinator.secondsToNanos config.pushInterval) with
      | error e =>
        rw [push] at created
        cases created
      | ok pushTask =>
        rw [push] at created
        cases created
        refine ⟨rfl, rfl, fun kind => ?_⟩
        cases kind with
        | pull => exact ⟨_, _, pull⟩
        | push => exact ⟨_, _, push⟩

theorem idle_of_create
    (created : Coordinator.create scope config hasRecorder hasReporter = .ok coordinator) :
    coordinator.scope = scope ∧ ∀ kind loop, (coordinator.task kind).isAlive loop = false := by
  obtain ⟨own, -, tasks⟩ := tasks_of_create created
  refine ⟨own, fun kind loop => ?_⟩
  obtain ⟨_, _, made⟩ := tasks kind
  exact PeriodicTask.isAlive_create made loop

theorem Manned.created
    (created : Coordinator.create scope config hasRecorder hasReporter = .ok coordinator) :
    ({ registry, coordinator } : Service).Manned := by
  have idle := (idle_of_create created).2
  refine ⟨nofun, nofun, nofun, nofun, nofun, ?_, ?_⟩
  · exact fun kind loop alive => nomatch (idle kind loop).symm.trans alive
  · exact fun kind loop alive => nomatch (idle kind loop).symm.trans alive

theorem Booked.created (active : registry.active.get? coordinator.scope = some a)
    (unused : (registry.scope a).ledger = {}) :
    ({ registry, coordinator } : Service).Booked a registry := by
  refine ⟨active, ⟨rfl, ?_, nofun, ?_⟩, nofun, .of_scope_eq rfl⟩
  · show (registry.scope a).ledger.IsOf _
    rw [unused]
    exact Ledger.isOf_empty
  · intro user way
    refine ⟨0, ?_⟩
    show 0 = 0 + 0 + ((registry.scope a).ledger.pending _).bytes way + 0
    rw [unused, Ledger.pending_empty, Traffic.bytes_zero]

theorem Logged.created
    (created : Coordinator.create scope config hasRecorder hasReporter = .ok coordinator)
    (reporter : hasReporter = true) : ({ registry, coordinator } : Service).Logged :=
  ⟨(tasks_of_create created).2.1.trans reporter, fun _ => Nat.le_refl _⟩

end Created

end Service

namespace CreditedStop

def coordinator : Coordinator :=
  { scope := "a"
    config := {}
    hasReporter := true
    pullTask := { name := "roster-pull", intervalMs := 60000 }
    pushTask := { name := "traffic-push", intervalMs := 60000 } }

def registry : Registry := (({} : Registry).activate "a" {}).2

/-- The push of all that is counted. -/
def push : PushCycle := .reporting 0 [(⟨"a", 7⟩, ⟨7, 5, 3⟩)]

def failing : Collaborators := { report := .error (.unknownScope "a") }

def started : Service := Service.ask { registry, coordinator } .start

def counted : Service := started.operate 0 (.reportTraffic 7 ⟨5, 3⟩)

def due : Service := { counted.sleep .push 0 with now := 60000 }

def woken : Service := due.wake 1 .push 0 .timer

def entered : Service := woken.enter 1 (.loop .push 0) .push

/-- The push loop is at its report. -/
def before : Service := entered.beginPush 1 (.loop .push 0) 0 ⟨0⟩ 60000

def pulled : Service := (before.ask .stop).wake 0 .pull 0 .cancelled

def waiting : Service := pulled.resumeStop 2 .caller (.stoppingPull (some 0))

def failed : Service := waiting.resumePush 1 (.loop .push 0) 0 push failing ⟨0⟩ 60000

def pushed : Service := failed.wake 1 .push 0 .cancelled

/-- Both loops have ended. -/
def about : Service := pushed.resumeStop 2 .caller (.stoppingPush (some 0))

def queued : Service := about.enter 2 .caller .push

def reporting : Service := queued.beginPush 2 .caller 0 ⟨0⟩ 60000

def returned : Service := reporting.resumePush 2 .caller 0 push {} ⟨0⟩ 60000

theorem created : Coordinator.create "a" {} false true = .ok coordinator := by
  have valid : CoordinatorConfig.validate {} = .ok () := by decide
  have pulls : PeriodicTask.create "roster-pull"
      (Coordinator.secondsToNanos (CoordinatorConfig.pullInterval {})) =
        .ok coordinator.pullTask := by decide +kernel
  have pushes : PeriodicTask.create "traffic-push"
      (Coordinator.secondsToNanos (CoordinatorConfig.pushInterval {})) =
        .ok coordinator.pushTask := by decide +kernel
  rw [Coordinator.create, valid, pulls, pushes]
  rfl

theorem run : Service.Run 0 { registry, coordinator } before := by
  have sleeps : Service.Move 0 1 counted (counted.sleep .push 0) :=
    @Service.Move.sleep 0 1 counted .push 0 {} (by decide) (by decide) rfl (by decide)
  have wakes : Service.Move 0 1 due woken :=
    @Service.Move.wake 0 1 due .push 0 { phase := .sleeping 60000 } .timer (by decide) (by decide)
      (by decide)
  have enters : Service.Move 0 1 woken entered := .enter (by decide)
  have begins : Service.Move 0 1 entered before := .beginPush (by decide) (by decide) ⟨0⟩ 60000
  have works : Service.Quiet 0 started before :=
    .tail (.tail (.tail (.tail (.tail (.single (.operate rfl)) (.move sleeps)) (.pass (by decide)))
      (.move wakes)) (.move enters)) (.move begins)
  exact .head (Or.inr ⟨.start, rfl⟩) (Relation.ReflTransGen.mono (fun _ _ => Or.inl) _ _ works)

theorem quiet : Service.Quiet 0 (before.ask .stop) returned := by
  have pullEnds : Service.Move 0 0 (before.ask .stop) pulled :=
    @Service.Move.wake 0 0 (before.ask .stop) .pull 0 { isCancelled := true } .cancelled (by decide)
      (by decide) (by decide)
  have waits : Service.Move 0 2 pulled waiting := .resumeStop (by decide) (by decide)
  have fails : Service.Move 0 1 waiting failed :=
    @Service.Move.resumePush 0 1 waiting (.loop .push 0) push 60000 (by decide) (by decide) failing
      ⟨0⟩ 60000
  have pushEnds : Service.Move 0 1 failed pushed :=
    @Service.Move.wake 0 1 failed .push 0 { isCancelled := true } .cancelled (by decide) (by decide)
      (by decide)
  have ends : Service.Move 0 2 pushed about := .resumeStop (by decide) (by decide)
  have queues : Service.Move 0 2 about queued := .enter (by decide)
  have reports : Service.Move 0 2 queued reporting := .beginPush (by decide) (by decide) ⟨0⟩ 60000
  have returns : Service.Move 0 2 reporting returned :=
    @Service.Move.resumePush 0 2 reporting .caller push 60000 (by decide) (by decide) {} ⟨0⟩ 60000
  have ended : Service.Quiet 0 (before.ask .stop) about :=
    .tail (.tail (.tail (.tail (.single (.move pullEnds)) (.move waits)) (.move fails))
      (.move pushEnds)) (.move ends)
  exact .tail (.tail (.tail ended (.move queues)) (.move reports)) (.move returns)

end CreditedStop

end Tollgate
