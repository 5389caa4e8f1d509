import Tollgate.Proofs.CycleOrigins
import Tollgate.Proofs.ServiceLoops

/-!
# The traffic of a coordinator at work

While operations of all kinds go on in its scope, what is counted for a scope is delivered, in
flight with a carrier, or pending; and the escalator is fed what is delivered and nothing else
(`Service.Booked`). What one push does with a batch is said in `Handed`; here a batch starts from
whatever the scope has become by then.
-/

namespace Tollgate

/-! ### The balance of a scope -/

/-- What was counted for a scope was delivered, is carried, or is pending, but for whole multiples
of the width. -/
structure Conserved (name : String) (scope : Scope) (account : TrafficAccount)
    (carried : UInt64 → Direction → Nat) : Prop where
  name_eq : scope.name = name
  keyed : scope.ledger.IsOf name
  reports : ∀ report ∈ account.delivered, report.2 ≠ [] ∧ IsReport report.2
  balance : ∀ user way, ∃ k, bytesCounted user way account.counted =
    bytesDelivered user way account.delivered + carried user way +
      (scope.ledger.pending ⟨name, user⟩).bytes way + k * UInt64.size

namespace Conserved

variable {name : String} {scope after : Scope} {account : TrafficAccount}
  {carried carried' : UInt64 → Direction → Nat}

/-- The account of a scope from now on: what was delivered before counts as carried. -/
theorem accounted (h : Conserved name scope account carried) :
    Accounted scope scope { account with delivered := [] }
      fun user way => bytesDelivered user way account.delivered + carried user way := by
  obtain ⟨rfl, keyed, -, balance⟩ := h
  refine ⟨rfl, keyed, nofun, ?_, rfl, rfl⟩
  intro user way
  obtain ⟨k, balance⟩ := balance user way
  refine ⟨k, balance.trans ?_⟩
  have nothing : bytesDelivered user way [] = 0 := rfl
  dsimp only
  omega

/-- What is delivered from now on comes on top of what was delivered before. -/
theorem of_accounted {more : List (Timestamp × List UserTraffic)}
    (h : Conserved name scope account carried)
    (later : Accounted scope after ({ account with delivered := [] }.deliver more)
      fun user way => bytesDelivered user way account.delivered + carried' user way) :
    Conserved name after (account.deliver more) carried' := by
  obtain ⟨rfl, -, reports, -⟩ := h
  refine ⟨later.name_eq, later.keyed, ?_, ?_⟩
  · intro report member
    rcases List.mem_append.1 member with earlier | last
    · exact reports report earlier
    · exact later.reports report last
  · intro user way
    obtain ⟨k, balance⟩ := later.balance user way
    refine ⟨k, balance.trans ?_⟩
    simp only [TrafficAccount.deliver, List.nil_append, bytesDelivered_append]
    omega

theorem of_carried (h : Conserved name scope account carried)
    (same : ∀ user way, carried' user way = carried user way) :
    Conserved name scope account carried' :=
  ⟨h.name_eq, h.keyed, h.reports, fun user way => same user way ▸ h.balance user way⟩

theorem of_ledger (h : Conserved name scope account carried) (same : after.name = scope.name)
    (ledger : after.ledger = scope.ledger) : Conserved name after account carried :=
  ⟨same.trans h.name_eq, ledger ▸ h.keyed, h.reports, ledger ▸ h.balance⟩

/-- Traffic is counted. -/
theorem reportTraffic (h : Conserved name scope account carried) (user : UInt64) (traffic : Traffic) :
    Conserved name (scope.reportTraffic user traffic)
      { account with counted := account.counted ++ [(user, traffic)] } carried := by
  obtain ⟨name_eq, keyed, -, balance⟩ := h.accounted.reportTraffic user traffic
  refine ⟨name_eq.trans h.name_eq, h.name_eq ▸ keyed, h.reports, fun user' way => ?_⟩
  obtain ⟨k, balance⟩ := balance user' way
  refine ⟨k, balance.trans ?_⟩
  rw [h.name_eq]
  have nothing : bytesDelivered user' way [] = 0 := rfl
  dsimp only
  omega

end Conserved

/-! ### What operations do to traffic -/

/-- The report that an operation feeds to the escalator. -/
def Operation.escalation? : Operation → Option (Timestamp × List TrafficEntry)
  | .escalate now entries => some (now, entries)
  | _ => none

/-- The reports that operations feed to the escalator, one after the other. -/
def escalations (operations : List Operation) : List (Timestamp × List TrafficEntry) :=
  operations.filterMap (·.escalation?)

theorem escalations_eq_nil {operations : List Operation}
    (fits : ∀ operation ∈ operations, operation.escalation? = none) : escalations operations = [] :=
  List.filterMap_eq_nil_iff.2 fits

/-- What neither takes traffic nor counts any leaves the ledger as it is. -/
theorem Scope.ledger_perform {scope : Scope} {operation : Operation}
    (open_ : operation.isReserved = false) (uncounted : operation.counted = []) :
    (scope.perform operation).ledger = scope.ledger := by
  cases operation with
  | connect user ip =>
    cases isOpen : scope.isOpen with
    | false => rw [perform, connect_of_closed isOpen]
    | true =>
      rw [perform, connect_of_open isOpen]
      split <;> rfl
  | release user ip session =>
    obtain ⟨speed, after, -⟩ := scope.release_frame user ip session
    rw [perform, after]
  | applyRosterDiff diff =>
    exact applyRosterDiff_induction (motive := fun s => s.ledger = scope.ledger) rfl
      (fun _ _ same => same) (fun _ _ same => same)
  | reportTraffic user traffic => cases uncounted
  | drainTraffic => cases open_
  | creditTraffic entries => cases open_
  | escalate now entries => cases open_
  | teardown => cases open_
  | _ => rfl

theorem Scope.ledger_performAll {scope : Scope} {operations : List Operation}
    (fits : ∀ operation ∈ operations, operation.isReserved = false ∧ operation.counted = []) :
    (scope.performAll operations).ledger = scope.ledger :=
  performAll_induction (motive := fun s => s.ledger = scope.ledger) rfl
    fun _ operation member same =>
      (ledger_perform (fits operation member).1 (fits operation member).2).trans same

/-- Something is done to the scope that is not reserved. -/
theorem Conserved.perform {name : String} {scope : Scope} {account : TrafficAccount}
    {carried : UInt64 → Direction → Nat} (h : Conserved name scope account carried)
    {operation : Operation} (open_ : operation.isReserved = false) :
    Conserved name (scope.perform operation)
      { account with counted := account.counted ++ operation.counted } carried := by
  by_cases uncounted : operation.counted = []
  · rw [uncounted, List.append_nil]
    exact h.of_ledger (Scope.name_perform operation) (Scope.ledger_perform open_ uncounted)
  · cases operation with
    | reportTraffic user traffic => exact h.reportTraffic user traffic
    | _ => exact absurd rfl uncounted

namespace Operation

variable {operation : Operation}

theorem escalation?_of_isReserved (open_ : operation.isReserved = false) :
    operation.escalation? = none := by
  cases operation <;> first | rfl | cases open_

theorem isReserved_of_isPullWork (work : operation.isPullWork = true) :
    operation.isReserved = false ∧ operation.counted = [] := by
  cases operation <;> first | exact ⟨rfl, rfl⟩ | cases work

end Operation

/-- The scope of an activation goes on by operations that feed the escalator these reports. -/
def Registry.Feeds (a : Nat) (before after : Registry)
    (reports : List (Timestamp × List TrafficEntry)) : Prop :=
  ∃ operations, after.scope a = (before.scope a).performAll operations ∧
    escalations operations = reports

namespace Registry.Feeds

variable {a : Nat} {registry first second third : Registry}
  {reports reports' : List (Timestamp × List TrafficEntry)}

theorem of_scope_eq (same : second.scope a = first.scope a) : Registry.Feeds a first second [] :=
  ⟨[], same, rfl⟩

theorem trans (h : Registry.Feeds a first second reports)
    (h' : Registry.Feeds a second third reports') :
    Registry.Feeds a first third (reports ++ reports') := by
  obtain ⟨operations, after, rfl⟩ := h
  obtain ⟨operations', after', rfl⟩ := h'
  refine ⟨operations ++ operations', ?_, List.filterMap_append⟩
  rw [after', after, Scope.performAll_append]

theorem modify (operation : Operation) :
    Registry.Feeds a registry (registry.modify a (·.perform operation))
      operation.escalation?.toList := by
  refine ⟨[operation], ?_, ?_⟩
  · rw [Registry.scope_modify, if_pos rfl]
    rfl
  · cases fed : operation.escalation? <;> simp [escalations, fed]

theorem of_evolves {allowed : Nat → Operation → Prop} (h : Registry.Evolves allowed first second)
    (silent : ∀ operation, allowed a operation → operation.escalation? = none) :
    Registry.Feeds a first second [] := by
  obtain ⟨operations, after, fits⟩ := h.scope a
  exact ⟨operations, after, escalations_eq_nil fun operation member =>
    silent operation (fits operation member)⟩

end Registry.Feeds

namespace Coordinator

variable {coordinator : Coordinator} {registry : Registry} {a : Nat}

/-- The end of a window feeds the escalator nothing. -/
theorem feeds_closeWindow (b : Nat) (summary : PushSummary) (a : Nat) :
    Registry.Feeds a registry (coordinator.closeWindow registry b summary).2 [] := by
  by_cases own : b = a
  · subst own
    unfold closeWindow
    dsimp only
    split
    · split
      · exact .of_scope_eq rfl
      · exact .modify .discardWindow
    · exact .modify .endWindow
  · exact .of_scope_eq ((closeWindow_stays b summary).2 a (Ne.symm own))

/-- A push that begins feeds the escalator what it delivers. -/
theorem feeds_beginPush {name : String} (keyed : (registry.scope a).ledger.IsOf name)
    (now : Timestamp) :
    Registry.Feeds a registry (coordinator.beginPush registry now).2
      (feedFor name (coordinator.deliversAtOnce registry a now)) := by
  by_cases active : registry.active.get? coordinator.scope = some a
  · have batch := keyed.isBatch
    generalize drained : (registry.scope a).ledger.entries = entries at batch
    have took : Registry.Feeds a registry (registry.modify a (·.perform .drainTraffic)) [] :=
      .modify .drainTraffic
    rw [beginPush_of_active active now drained, deliversAtOnce, drained]
    by_cases nothing : entries = []
    · rw [if_pos nothing, if_neg (by simp [nothing])]
      exact took.trans (feeds_closeWindow a _ a)
    · rw [if_neg nothing]
      by_cases reporter : coordinator.hasReporter = true
      · rw [if_pos reporter, if_neg (by simp [reporter])]
        exact took
      · rw [if_neg reporter, if_pos ⟨Bool.not_eq_true _ ▸ reporter, active, nothing⟩,
          batch.feedFor_eq]
        exact (took.trans (.modify (.escalate now entries))).trans (feeds_closeWindow a _ a)
  · rw [deliversAtOnce, if_neg fun own => active own.2.1]
    exact .of_scope_eq ((beginPush_stays now).2 a active)

/-- A push that goes on feeds the escalator what it delivers. -/
theorem feeds_resumePush {name : String} (peers : Collaborators) (now : Timestamp)
    {cycle : PushCycle}
    (batch : ∀ drained, cycle = .reporting a drained → IsBatch name drained) :
    Registry.Feeds a registry (coordinator.resumePush registry peers now cycle).2
      (feedFor name (cycle.delivers a peers now)) := by
  by_cases own : cycle.activation = a
  · subst own
    cases cycle with
    | reporting b drained =>
      simp only [resumePush, PushCycle.activation]
      cases answered : peers.report with
      | ok =>
        rw [PushCycle.delivers_of_ok answered, (batch drained rfl).feedFor_eq]
        have fed := @Registry.Feeds.modify b registry (.escalate now drained)
        exact fed.trans (feeds_closeWindow b _ b)
      | error e =>
        rw [PushCycle.delivers_of_error answered]
        have credited := @Registry.Feeds.modify b registry (.creditTraffic drained)
        exact credited.trans (feeds_closeWindow b _ b)
    | syncing b online summary =>
      rw [PushCycle.delivers_syncing]
      simp only [resumePush, PushCycle.activation]
      cases peers.sync online with
      | ok merged => exact .modify (.mergeOnline merged)
      | error e => exact .modify .discardWindow
  · rw [PushCycle.delivers_of_ne own]
    exact .of_scope_eq ((resumePush_stays peers now cycle).2 a (Ne.symm own))

end Coordinator

/-! ### The traffic of a coordinator at work -/

/-- The push that a carrier is at. -/
def Carrier.push? (carrier : Carrier) : Option PushCycle :=
  match carrier.stage with
  | .pushing cycle _ => some cycle
  | _ => none

/-- The bytes of a user of an activation that a carrier has taken out and not yet handed over. -/
def Carrier.carries (a : Nat) (user : UInt64) (way : Direction) (carrier : Carrier) : Nat :=
  carrier.push?.elim 0 (PushCycle.carries a user way)

theorem Progress.carries_eq (a : Nat) (user : UInt64) (way : Direction)
    (progress : Progress PushCycle PushSummary) :
    progress.carries a user way = progress.cycle?.elim 0 (PushCycle.carries a user way) := by
  cases progress <;> rfl

namespace Service

variable {a c : Nat} {s t : Service} {role : Simulation.Role} {start : Registry}

/-- The bytes of a user of an activation in reports in flight. -/
def inFlight (s : Service) (a : Nat) (user : UInt64) (way : Direction) : Nat :=
  s.carriers.total (Carrier.carries a user way)

/-- The push that a carrier is at. -/
def push? (s : Service) (c : Nat) : Option PushCycle := (s.carriers.get? c).bind (·.push?)

theorem push?_of_get? {carrier : Carrier} (found : s.carriers.get? c = some carrier) :
    s.push? c = carrier.push? := by
  rw [push?, found, Option.bind_some]

theorem push?_put (stage : Simulation.Stage) :
    (s.put c role stage).push? c = Carrier.push? ⟨role, stage⟩ :=
  push?_of_get? (Table.get?_insert_self _ _ _)

theorem push?_erase : ({ s with carriers := s.carriers.erase c } : Service).push? c = none := by
  rw [push?, Table.get?_erase_self, Option.bind_none]

theorem push?_finish (kind : CycleKind) : (s.finish c role kind).push? c = none := by
  cases role with
  | caller => exact push?_erase
  | loop own loop => exact push?_put _

theorem push?_settlePull (returnsAt : Nat) (progress : Progress PullCycle Unit) :
    (s.settlePull c role returnsAt progress).push? c = none := by
  cases progress with
  | calling cycle => exact push?_put _
  | finished result => exact push?_finish .pull

theorem push?_settlePush (returnsAt : Nat) (progress : Progress PushCycle PushSummary) :
    (s.settlePush c role returnsAt progress).push? c = progress.cycle? := by
  cases progress with
  | calling cycle => exact push?_put _
  | finished result => exact push?_finish .push

theorem push?_wake {kind : CycleKind} {loop : Nat} (wakeup : Wakeup) (idle : s.push? c = none) :
    (s.wake c kind loop wakeup).push? c = none := by
  unfold Service.wake
  dsimp only
  split
  · exact push?_put _
  · split
    · exact idle
    · exact push?_erase

theorem scope_settlePush (returnsAt : Nat) (progress : Progress PushCycle PushSummary) :
    (s.settlePush c role returnsAt progress).registry = s.registry ∧
      (s.settlePush c role returnsAt progress).account = s.account := by
  cases progress with
  | calling cycle => exact ⟨rfl, rfl⟩
  | finished result => cases role <;> exact ⟨rfl, rfl⟩

theorem scope_settlePull (returnsAt : Nat) (progress : Progress PullCycle Unit) :
    (s.settlePull c role returnsAt progress).registry = s.registry ∧
      (s.settlePull c role returnsAt progress).account = s.account := by
  cases progress with
  | calling cycle => exact ⟨rfl, rfl⟩
  | finished result => cases role <;> exact ⟨rfl, rfl⟩

theorem scope_beginPull (returnsAt : Nat) :
    (s.beginPull c role returnsAt).registry = s.registry ∧
      (s.beginPull c role returnsAt).account = s.account :=
  scope_settlePull _ _

theorem scope_resumePull (cycle : PullCycle) (plane : Collaborators) (returnsAt : Nat) :
    (s.resumePull c role cycle plane returnsAt).registry =
        (s.coordinator.resumePull s.registry plane cycle).2.2 ∧
      (s.resumePull c role cycle plane returnsAt).account = s.account :=
  scope_settlePull _ _

theorem scope_wake {kind : CycleKind} {loop : Nat} {wakeup : Wakeup} :
    (s.wake c kind loop wakeup).registry = s.registry ∧
      (s.wake c kind loop wakeup).account = s.account := by
  unfold Service.wake
  dsimp only
  split
  · exact ⟨rfl, rfl⟩
  · split <;> exact ⟨rfl, rfl⟩

/-- A request gives the coordinator other tasks, or leaves it, and then carriers begin that are at no
push. -/
theorem ask_induction {motive : Service → Prop} (asked : motive s)
    (retasked : ∀ coordinator : Coordinator, coordinator.scope = s.coordinator.scope →
      coordinator.hasReporter = s.coordinator.hasReporter → motive { s with coordinator })
    (begun : ∀ (t : Service) (role : Simulation.Role) (stage : Simulation.Stage), motive t →
      Carrier.push? ⟨role, stage⟩ = none → motive (t.begin role stage))
    (request : ServiceRequest) : motive (s.ask request) := by
  cases request with
  | start =>
    unfold Service.ask Coordinator.start
    cases s.coordinator.pullTask.start with
    | error e => exact asked
    | ok pull =>
      cases s.coordinator.pushTask.start with
      | error e => exact begun _ _ _ (retasked _ rfl rfl) rfl
      | ok push => exact begun _ _ _ (begun _ _ _ (retasked _ rfl rfl) rfl) rfl
  | stop => exact begun _ _ _ (retasked _ rfl rfl) rfl
  | pull => exact begun _ _ _ asked rfl
  | push => exact begun _ _ _ asked rfl

/-- A push comes further, and what it delivers is noted. -/
theorem Apart.push (known : s.role? c = some role) (more : List (Timestamp × List UserTraffic))
    {result : Progress PushCycle PushSummary × Registry}
    (active : result.2.active = s.registry.active) (returnsAt : Nat) :
    Apart c s ({ s with
      registry := result.2
      account := s.account.deliver more }.settlePush c role returnsAt result.1) := by
  refine .settlePush ?_ known _ _
  exact .of_carriers rfl rfl rfl active rfl rfl

/-- A sum over all pushes, with one carrier apart from the others. -/
theorem Apart.total_eq (h : Apart c s t) (weight : PushCycle → Nat) :
    t.carriers.total (fun carrier => carrier.push?.elim 0 weight) =
      (t.push? c).elim 0 weight +
        (s.carriers.erase c).total fun carrier => carrier.push?.elim 0 weight := by
  rw [Table.total_eq _ c, h.carriers, push?]
  cases t.carriers.get? c <;> rfl

theorem Apart.inFlight_eq (h : Apart c s t) (user : UInt64) (way : Direction) :
    t.inFlight a user way = (t.push? c).elim 0 (PushCycle.carries a user way) +
      (s.carriers.erase c).total (Carrier.carries a user way) :=
  h.total_eq (PushCycle.carries a user way)

/-- What was counted for the scope was delivered, is in flight, or is pending; and the escalator was
fed what was delivered. -/
structure Booked (a : Nat) (start : Registry) (s : Service) : Prop where
  active : s.registry.active.get? s.coordinator.scope = some a
  conserved : Conserved (start.scope a).name (s.registry.scope a) s.account (s.inFlight a)
  flight : ∀ c drained, s.push? c = some (.reporting a drained) →
    drained ≠ [] ∧ IsBatch (start.scope a).name drained
  fed : Registry.Feeds a start s.registry (feedFor (start.scope a).name s.account.delivered)

namespace Booked

/-- One carrier has moved. -/
theorem of_apart (h : s.Booked a start) (apart : Apart c s t)
    (conserved : Conserved (start.scope a).name (t.registry.scope a) t.account fun user way =>
      (t.push? c).elim 0 (PushCycle.carries a user way) +
        (s.carriers.erase c).total (Carrier.carries a user way))
    (flight : ∀ drained, t.push? c = some (.reporting a drained) →
      drained ≠ [] ∧ IsBatch (start.scope a).name drained)
    (fed : Registry.Feeds a start t.registry (feedFor (start.scope a).name t.account.delivered)) :
    t.Booked a start where
  active := by rw [apart.active, apart.scope, h.active]
  conserved := conserved.of_carried fun user way => apart.inFlight_eq user way
  flight c' drained found := by
    by_cases own : c = c'
    · exact flight drained (own ▸ found)
    · refine h.flight c' drained ?_
      rwa [push?, apart.get?_eq own] at found
  fed := fed

/-- The balance with one carrier apart from the others. -/
theorem conserved_apart (h : s.Booked a start) (c : Nat) :
    Conserved (start.scope a).name (s.registry.scope a) s.account fun user way =>
      (s.push? c).elim 0 (PushCycle.carries a user way) +
        (s.carriers.erase c).total (Carrier.carries a user way) :=
  h.conserved.of_carried fun user way =>
    (Apart.refl.inFlight_eq user way).symm

/-- A carrier that is not at a push goes on with something else than a push. -/
theorem of_idle (h : s.Booked a start) (apart : Apart c s t) (idle : s.push? c = none)
    (idle' : t.push? c = none) (account : t.account = s.account)
    (pulled : Registry.Evolves (fun _ operation => operation.isPullWork = true) s.registry
      t.registry) : t.Booked a start := by
  obtain ⟨operations, after, work⟩ := pulled.scope a
  have open_ := fun operation member => Operation.isReserved_of_isPullWork (work operation member)
  refine h.of_apart apart ?_ ?_ ?_
  · rw [account, idle', ← idle, after]
    exact (h.conserved_apart c).of_ledger (Scope.name_performAll operations)
      (Scope.ledger_performAll open_)
  · rw [idle']
    exact nofun
  · rw [account, ← List.append_nil (feedFor _ s.account.delivered)]
    exact h.fed.trans (.of_evolves pulled fun operation work =>
      Operation.escalation?_of_isReserved (Operation.isReserved_of_isPullWork work).1)

/-- A push comes further. -/
theorem settlePush (h : s.Booked a start) (known : s.role? c = some role)
    {more : List (Timestamp × List UserTraffic)}
    {result : Progress PushCycle PushSummary × Registry}
    (active : result.2.active = s.registry.active)
    (handed : Handed a (s.registry.scope a) ({ s.account with delivered := [] }.deliver more)
      (fun user way => bytesDelivered user way s.account.delivered +
        (s.carriers.erase c).total (Carrier.carries a user way)) result)
    (feeds : Registry.Feeds a s.registry result.2 (feedFor (start.scope a).name more))
    (returnsAt : Nat) :
    ({ s with registry := result.2, account := s.account.deliver more }.settlePush c role returnsAt
      result.1).Booked a start := by
  have apart := Apart.push known more active returnsAt
  obtain ⟨registry, account⟩ := @scope_settlePush c
    { s with registry := result.2, account := s.account.deliver more } role returnsAt result.1
  obtain ⟨books, flight⟩ := handed
  refine h.of_apart apart ?_ ?_ ?_
  · rw [registry, account, push?_settlePush]
    refine h.conserved.of_accounted (books.of_carried fun user way => ?_)
    rw [Progress.carries_eq]
    omega
  · intro drained found
    rw [push?_settlePush] at found
    rw [← h.conserved.name_eq]
    refine flight drained ?_
    cases progress : result.1 with
    | calling cycle =>
      rw [progress] at found
      exact congrArg Progress.calling (Option.some.inj found)
    | finished result =>
      rw [progress] at found
      cases found
  · rw [registry, account, TrafficAccount.deliver, feedFor_append]
    exact h.fed.trans feeds

theorem move (h : s.Booked a start) (move : Move a c s t) : t.Booked a start := by
  have apart := move.apart
  cases move with
  | @wake kind loop state wakeup found there may =>
    have idle := push?_of_get? found
    obtain ⟨registry, account⟩ := @scope_wake c s kind loop wakeup
    exact h.of_idle apart idle (push?_wake _ idle) account (registry ▸ .refl)
  | sleep found there rearming nothing =>
    have idle := push?_of_get? found
    exact h.of_idle apart idle idle rfl .refl
  | enter found => exact h.of_idle apart (push?_of_get? found) (push?_put _) rfl .refl
  | beginPull found held returnsAt =>
    obtain ⟨registry, account⟩ := scope_beginPull returnsAt
    exact h.of_idle apart (push?_of_get? found) (push?_settlePull _ _) account (registry ▸ .refl)
  | resumePull found returned plane returnsAt =>
    obtain ⟨registry, account⟩ := scope_resumePull _ plane returnsAt
    refine h.of_idle apart (push?_of_get? found) (push?_settlePull _ _) account ?_
    rw [registry]
    exact (Coordinator.evolves_resumePull plane _).imp fun _ _ work => work.1
  | beginPush found held now returnsAt =>
    refine h.settlePush (role?_of_get? found) (Coordinator.evolves_beginPush now).active_eq ?_
      (Coordinator.feeds_beginPush h.conserved.keyed now) returnsAt
    have apart := (h.conserved_apart c).accounted
    rw [push?_of_get? found] at apart
    exact .beginPush (apart.of_carried fun _ _ => by rw [Carrier.push?, Option.elim_none]; omega) now
  | @resumePush role cycle due found returned peers now returnsAt =>
    have flight (drained : List TrafficEntry) (same : cycle = .reporting a drained) :
        drained ≠ [] ∧ IsBatch (start.scope a).name drained :=
      h.flight c drained ((push?_of_get? found).trans (congrArg some same))
    refine h.settlePush (role?_of_get? found) (Coordinator.evolves_resumePush peers now cycle).active_eq
      ?_ (Coordinator.feeds_resumePush peers now fun drained same => (flight drained same).2) returnsAt
    have apart := (h.conserved_apart c).accounted
    rw [push?_of_get? found] at apart
    refine .resumePush (apart.of_carried fun _ _ => ?_) (h.conserved.name_eq ▸ flight) peers now
    rw [Carrier.push?, Option.elim_some]
    omega
  | @resumeStop role cycle found stopped =>
    refine h.of_idle apart (push?_of_get? found) ((push?_put _).trans ?_) rfl .refl
    cases cycle <;> rfl

theorem step (h : s.Booked a start) (step : Step a s t) : t.Booked a start := by
  cases step with
  | @operate operation open_ =>
    refine ⟨h.active, ?_, h.flight, ?_⟩
    · show Conserved _ ((s.registry.modify a _).scope a) _ _
      rw [Registry.scope_modify, if_pos rfl]
      exact h.conserved.perform open_
    · have fed := h.fed.trans (.modify operation)
      rwa [Operation.escalation?_of_isReserved open_, Option.toList_none, List.append_nil] at fed
  | elsewhere active scope =>
    refine ⟨active.trans h.active, scope ▸ h.conserved, h.flight, ?_⟩
    have fed := h.fed.trans (.of_scope_eq scope)
    rwa [List.append_nil] at fed
  | pass forward => exact ⟨h.active, h.conserved, h.flight, h.fed⟩
  | move move => exact h.move move

theorem begin (h : s.Booked a start) (fresh : s.carriers.get? s.nextCarrier = none)
    {stage : Simulation.Stage} (idle : Carrier.push? ⟨role, stage⟩ = none) :
    (s.begin role stage).Booked a start := by
  refine ⟨h.active, h.conserved.of_carried fun user way => ?_, ?_, h.fed⟩
  · show (s.carriers.insert s.nextCarrier ⟨role, stage⟩).total _ = _
    rw [Table.total_insert, Table.erase_of_get? fresh, Carrier.carries, idle, Option.elim_none]
    exact Nat.zero_add _
  · intro c drained found
    have found := (congrArg (·.bind Carrier.push?) (Table.get?_insert _ _ _ _)).symm.trans found
    split at found
    · rw [Option.bind_some, idle] at found
      cases found
    · exact h.flight c drained found

theorem coordinator (h : s.Booked a start) {coordinator : Coordinator}
    (scope : coordinator.scope = s.coordinator.scope) : { s with coordinator }.Booked a start :=
  ⟨by rw [scope, h.active], h.conserved, h.flight, h.fed⟩

theorem ask (h : s.Booked a start) (manned : s.Manned) (request : ServiceRequest) :
    (s.ask request).Booked a start := by
  have both : (s.ask request).Booked a start ∧ (s.ask request).IsFresh := by
    refine ask_induction (motive := fun t => t.Booked a start ∧ t.IsFresh) ?_ ?_ ?_ request
    · exact ⟨h, manned.isFresh⟩
    · exact fun coordinator scope _ => ⟨h.coordinator scope, manned.isFresh⟩
    · rintro t role stage ⟨booked, fresh⟩ idle
      exact ⟨booked.begin (fresh _ (Nat.le_refl _)).1 idle, fresh.begin⟩
  exact both.1

theorem run (h : s.Booked a start) (manned : s.Manned) (run : Run a s t) : t.Booked a start := by
  induction run with
  | refl => exact h
  | tail until_ last ih =>
    rcases last with step | ⟨request, rfl⟩
    · exact ih.step step
    · exact ih.ask (manned.run until_) request

end Booked

end Service

end Tollgate
