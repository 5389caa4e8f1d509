import Mathlib.Data.List.Perm.Subperm
import Tollgate.Proofs.ServiceTraffic

/-!
# Reports are calls

With a reporter, nothing is delivered but by a call: each report that was delivered is a call of its
own among those that a coordinator has made. `Service.Logged` counts the calls of every kind, so
that two reports of the same traffic are two calls. A call that has not returned yet counts as well,
since it may still deliver.
-/

namespace Tollgate

/-- The calls that hand reports over. -/
def reportCalls (delivered : List (Timestamp × List UserTraffic)) : List Call :=
  delivered.map fun report => .report report.2

theorem reportCalls_append (first second : List (Timestamp × List UserTraffic)) :
    reportCalls (first ++ second) = reportCalls first ++ reportCalls second :=
  List.map_append

/-- How many times a push is at a call: once or not at all. -/
def PushCycle.timesAt (call : Call) (cycle : PushCycle) : Nat := [cycle.call].count call

/-- A push delivers nothing but what its call hands over, and that once. -/
theorem PushCycle.count_delivers_le (a : Nat) (peers : Collaborators) (now : Timestamp)
    (cycle : PushCycle) (call : Call) :
    (reportCalls (cycle.delivers a peers now)).count call ≤ cycle.timesAt call := by
  by_cases own : cycle.activation = a
  · cases cycle with
    | reporting b drained =>
      obtain rfl : b = a := own
      cases taken : peers.report with
      | ok =>
        rw [delivers_of_ok taken]
        exact Nat.le_refl _
      | error e =>
        rw [delivers_of_error taken]
        exact Nat.zero_le _
    | syncing b online summary =>
      rw [delivers_syncing]
      exact Nat.zero_le _
  · rw [delivers_of_ne own]
    exact Nat.zero_le _

namespace Service

variable {a c : Nat} {s t : Service} {role : Simulation.Role}

/-- How many pushes are at a call. -/
def awaiting (s : Service) (call : Call) : Nat :=
  s.carriers.total fun carrier => carrier.push?.elim 0 (PushCycle.timesAt call)

/-- Of each call that handed a report over, and of each call that a push is at, there is one of its
own among the calls that were made. -/
structure Logged (s : Service) : Prop where
  hasReporter : s.coordinator.hasReporter = true
  count_le : ∀ call,
    (reportCalls s.account.delivered).count call + s.awaiting call ≤ s.calls.count call

theorem calls_wake {kind : CycleKind} {loop : Nat} {wakeup : Wakeup} :
    (s.wake c kind loop wakeup).calls = s.calls := by
  unfold Service.wake
  dsimp only
  split
  · rfl
  · split <;> rfl

theorem calls_finish (kind : CycleKind) : (s.finish c role kind).calls = s.calls := by
  cases role <;> rfl

theorem calls_settlePull {calls : List Call} (before : s.calls = calls) (returnsAt : Nat)
    (progress : Progress PullCycle Unit) :
    calls <+: (s.settlePull c role returnsAt progress).calls := by
  subst before
  cases progress with
  | calling cycle => exact List.prefix_append _ _
  | finished result => exact ⟨[], (List.append_nil _).trans (calls_finish .pull).symm⟩

theorem calls_settlePush (returnsAt : Nat) (progress : Progress PushCycle PushSummary) :
    (s.settlePush c role returnsAt progress).calls =
      s.calls ++ (progress.cycle?.map PushCycle.call).toList := by
  cases progress with
  | calling cycle => rfl
  | finished result =>
    show (s.finish c role .push).calls = _
    rw [calls_finish]
    exact (List.append_nil _).symm

theorem count_call (cycle : Option PushCycle) (call : Call) :
    (cycle.map PushCycle.call).toList.count call = cycle.elim 0 (PushCycle.timesAt call) := by
  cases cycle <;> rfl

namespace Logged

/-- A carrier goes on with something else than a push. -/
theorem of_idle (h : s.Logged) (apart : Apart c s t) (idle : t.push? c = none)
    (account : t.account = s.account) (calls : s.calls <+: t.calls) : t.Logged where
  hasReporter := apart.reporter.trans h.hasReporter
  count_le call := by
    have same : Apart c s s := .refl
    have before := h.count_le call
    have more := calls.sublist.count_le call
    rw [awaiting, same.total_eq] at before
    rw [awaiting, apart.total_eq, idle, account, Option.elim_none]
    omega

/-- A push comes further. -/
theorem settlePush (h : s.Logged) (known : s.role? c = some role)
    {more : List (Timestamp × List UserTraffic)}
    {result : Progress PushCycle PushSummary × Registry}
    (active : result.2.active = s.registry.active)
    (count_le : ∀ call,
      (reportCalls more).count call ≤ (s.push? c).elim 0 (PushCycle.timesAt call))
    (returnsAt : Nat) :
    ({ s with registry := result.2, account := s.account.deliver more }.settlePush c role returnsAt
      result.1).Logged := by
  have apart := Apart.push known more active returnsAt
  have same : Apart c s s := .refl
  refine ⟨apart.reporter.trans h.hasReporter, fun call => ?_⟩
  have before := h.count_le call
  have taken := count_le call
  rw [awaiting, same.total_eq] at before
  rw [awaiting, apart.total_eq, push?_settlePush, calls_settlePush, (scope_settlePush _ _).2,
    List.count_append, count_call, TrafficAccount.deliver, reportCalls_append, List.count_append]
  dsimp only
  omega

theorem move (h : s.Logged) (move : Move a c s t) : t.Logged := by
  have apart := move.apart
  cases move with
  | @wake kind loop state wakeup found there may =>
    have idle := push?_of_get? found
    refine h.of_idle apart (push?_wake _ idle) scope_wake.2 ?_
    exact ⟨[], (List.append_nil _).trans calls_wake.symm⟩
  | sleep found there rearming nothing =>
    exact h.of_idle apart (push?_of_get? found) rfl (List.prefix_refl _)
  | enter found => exact h.of_idle apart (push?_put _) rfl (List.prefix_refl _)
  | beginPull found held returnsAt =>
    refine h.of_idle apart (push?_settlePull _ _) (scope_beginPull _).2 ?_
    refine calls_settlePull ?_ _ _
    rfl
  | resumePull found returned plane returnsAt =>
    refine h.of_idle apart (push?_settlePull _ _) (scope_resumePull _ _ _).2 ?_
    refine calls_settlePull ?_ _ _
    rfl
  | beginPush found held now returnsAt =>
    refine h.settlePush (role?_of_get? found) (Coordinator.evolves_beginPush now).active_eq ?_
      returnsAt
    -- With a reporter, nothing is delivered before its call returns.
    have nothing : s.coordinator.deliversAtOnce s.registry a now = [] :=
      if_neg fun without => nomatch without.1.symm.trans h.hasReporter
    rw [nothing]
    exact fun call => Nat.zero_le _
  | @resumePush role cycle due found returned peers now returnsAt =>
    refine h.settlePush (role?_of_get? found)
      (Coordinator.evolves_resumePush peers now cycle).active_eq ?_ returnsAt
    rw [push?_of_get? found]
    exact cycle.count_delivers_le a peers now
  | @resumeStop role cycle found stopped =>
    refine h.of_idle apart ((push?_put _).trans ?_) rfl (List.prefix_refl _)
    cases cycle <;> rfl

theorem step (h : s.Logged) (step : Step a s t) : t.Logged := by
  cases step with
  | operate open_ => exact ⟨h.hasReporter, h.count_le⟩
  | elsewhere active scope => exact ⟨h.hasReporter, h.count_le⟩
  | pass forward => exact ⟨h.hasReporter, h.count_le⟩
  | move move => exact h.move move

theorem coordinator (h : s.Logged) {coordinator : Coordinator}
    (reporter : coordinator.hasReporter = s.coordinator.hasReporter) :
    { s with coordinator }.Logged :=
  ⟨reporter.trans h.hasReporter, h.count_le⟩

theorem begin (h : s.Logged) {stage : Simulation.Stage}
    (idle : Carrier.push? ⟨role, stage⟩ = none) : (s.begin role stage).Logged where
  hasReporter := h.hasReporter
  count_le call := by
    have before := h.count_le call
    have begun : (s.begin role stage).awaiting call =
        (s.carriers.erase s.nextCarrier).total fun carrier =>
          carrier.push?.elim 0 (PushCycle.timesAt call) := by
      refine (Table.total_insert _ _ _ _).trans ?_
      rw [idle, Option.elim_none, Nat.zero_add]
    rw [awaiting, Table.total_eq _ s.nextCarrier] at before
    rw [begun]
    show (reportCalls s.account.delivered).count call + _ ≤ s.calls.count call
    omega

theorem ask (h : s.Logged) (request : ServiceRequest) : (s.ask request).Logged := by
  refine ask_induction h ?_ ?_ request
  · exact fun coordinator _ reporter => h.coordinator reporter
  · exact fun t role stage logged idle => logged.begin idle

theorem quiet (h : s.Logged) (quiet : Quiet a s t) : t.Logged := by
  induction quiet with
  | refl => exact h
  | tail _ last ih => exact ih.step last

theorem run (h : s.Logged) (run : Run a s t) : t.Logged := by
  induction run with
  | refl => exact h
  | tail _ last ih =>
    rcases last with step | ⟨request, rfl⟩
    · exact ih.step step
    · exact ih.ask request

end Logged

end Service

end Tollgate
