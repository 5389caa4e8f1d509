import Tollgate.Proofs.CycleOrigins
import Tollgate.Proofs.Throttle

/-!
# Teardown is final

Little of what reaches a scope asks whether it is still open: buckets are handed out, traffic is
counted and put back, windows end and rules are replaced on a scope that was torn down as on any
other. None of it makes a limit record or opens a connection (`Scope.IsVoid.perform`), and what
could do so finds the scope closed.

Leases and cycles stay with the activation under which they began. So a name that is activated again
has nothing to fear from what is left of the time before.
-/

namespace Tollgate

namespace Scope

/-- Closed, and without a limit record or an open connection of any user. -/
structure IsVoid (scope : Scope) : Prop where
  closed : scope.isOpen = false
  recordless : ∀ key, scope.speed.record? key = none
  idle : ∀ key session, scope.connections.session? key = some session → session.IsIdle

theorem isVoid_teardown (scope : Scope) : scope.teardown.IsVoid where
  closed := rfl
  recordless _ := rfl
  idle _ _ found := by cases found

variable {scope after : Scope}

/-- What keeps the counts of open connections keeps that there are none. -/
theorem idle_of_keeps (idle : ∀ key session, scope.connections.session? key = some session →
      session.IsIdle) (keeps : scope.connections.Keeps after.connections) :
    ∀ key session, after.connections.session? key = some session → session.IsIdle := by
  intro key session found
  rcases keeps.session_cases key session found with ⟨old, found', same⟩ | ⟨isIdle, -, -⟩
  · exact same.isIdle (idle key old found')
  · exact isIdle

/-- Nothing but putting a user of a roster in place could bring a void scope back to life. -/
theorem IsVoid.perform (h : scope.IsVoid) {operation : Operation}
    (spared : operation.isInsert = false) : (scope.perform operation).IsVoid := by
  have recordless (key : UserKey) : (scope.perform operation).speed.record? key = none :=
    record?_perform_of_none (h.recordless key) fun _ => ⟨h.closed, spared⟩
  have kept (still : operation.movesConnections = false) :=
    idle_of_keeps h.idle (keeps_perform still)
  cases operation with
  | connect user ip =>
    rw [Scope.perform, connect_of_closed h.closed]
    exact h
  | release user ip session =>
    obtain ⟨speed, after, -⟩ := scope.release_frame user ip session
    rw [Scope.perform, after] at recordless ⊢
    refine ⟨h.closed, recordless, ?_⟩
    rcases scope.release_cases user ip session with ⟨found, known, -, opened, -⟩ | ⟨same, -⟩
    · exact absurd ((h.idle _ found known).device_eq ip) opened
    · rw [same]
      exact h.idle
  | insertUser entry => cases spared
  | applyRosterDiff diff =>
    rw [Scope.perform, applyRosterDiff, h.closed]
    exact h
  | escalate now entries =>
    obtain ⟨escalator, speed, after⟩ := scope.escalate_frame now entries
    rw [Scope.perform, after] at recordless ⊢
    exact ⟨h.closed, recordless, h.idle⟩
  | teardown => exact isVoid_teardown scope
  | _ => exact ⟨h.closed, recordless, kept rfl⟩

/-- What a pull has fetched does not bring a void scope back to life: a roster that differs is
refused, and one that does not has nothing to put in place. -/
theorem IsVoid.applyFetched (h : scope.IsVoid) (coordinator : Coordinator) (fetched : Fetched) :
    (coordinator.applyFetched scope fetched).2.2.IsVoid := by
  have node : (coordinator.applyNode scope fetched.node).2.IsVoid := by
    cases fetched.node with
    | none => exact h
    | some info => exact ⟨h.closed, h.recordless, h.idle⟩
  have roster : ((coordinator.applyNode scope fetched.node).1.applyRoster
      (coordinator.applyNode scope fetched.node).2 fetched.roster).2.2.IsVoid := by
    cases fetched.roster with
    | none => exact node
    | some roster =>
      cases same : (RosterDiff.between (coordinator.applyNode scope fetched.node).1.roster
          roster).isEmpty with
      | false =>
        rw [Coordinator.applyRoster_of_refused same node.closed]
        exact node
      | true =>
        rw [Coordinator.applyRoster_of_taken (Or.inl same), Coordinator.pieces_of_isEmpty same]
        exact node
  unfold Coordinator.applyFetched
  dsimp only
  split
  next refused => rwa [refused] at roster
  next taken =>
    rw [taken] at roster
    cases fetched.rules with
    | none => exact roster
    | some rules => exact ⟨roster.closed, roster.recordless, roster.idle⟩

/-! ### What a void scope answers -/

theorem IsVoid.connect (h : scope.IsVoid) (user : UInt64) (ip : IpAddr) :
    scope.connect user ip = (.error (.unknownScope scope.name), scope) :=
  connect_of_closed h.closed user ip

theorem IsVoid.applyRosterDiff (h : scope.IsVoid) (diff : RosterDiff) :
    scope.applyRosterDiff diff = (.error (.unknownScope scope.name), scope) := by
  rw [Scope.applyRosterDiff, h.closed]
  rfl

theorem IsVoid.users (h : scope.IsVoid) : scope.stats.users = 0 := by
  have none : scope.speed.records = .empty := Table.ext_get? h.recordless
  show scope.speed.records.size = 0
  rw [none, Table.size_empty]

theorem IsVoid.openCounts (h : scope.IsVoid) : scope.connections.openCounts = [] := by
  unfold ConnectionLimiter.openCounts
  rw [List.filter_eq_nil_iff]
  intro count member
  obtain ⟨⟨key, session⟩, listed, rfl⟩ := List.mem_map.1 member
  have found : scope.connections.session? key = some session := Table.mem_toList_iff.1 listed
  simp [(h.idle key session found).connections_eq]

theorem IsVoid.onlineUsers (h : scope.IsVoid) : scope.stats.onlineUsers = 0 := by
  show scope.connections.openCounts.length = 0
  rw [h.openCounts, List.length_nil]

theorem IsVoid.connections (h : scope.IsVoid) : scope.stats.connections = 0 := by
  show scope.connections.openCounts.foldr (· + ·) 0 = 0
  rw [h.openCounts, List.foldr_nil]

end Scope

theorem Registry.acquire_of_void {registry : Registry} {a : Nat} (h : (registry.scope a).IsVoid)
    (user : UInt64) (ip : IpAddr) :
    (registry.acquire a user ip).1 = .error (.unknownScope (registry.scope a).name) := by
  simp only [Registry.acquire, Registry.run, h.connect]

/-! ### After a teardown -/

namespace Node

/-- An activation that was torn down, with no change of its roster under way. -/
structure IsTornDown (node : Node) (a : Nat) : Prop where
  known : a < node.registry.nextActivation
  isVoid : (node.scope a).IsVoid
  settled : ¬ node.IsChanging a

end Node

namespace Event

/-- Whether an event tears an activation down. -/
def TearsDown (node : Node) (a : Nat) : Event → Prop
  | .deactivate name => node.registry.active.get? name = some a
  | .operate b .teardown => b = a
  | _ => False

/-- Users of a roster are put in place under the gate of the scope only, so nobody closes the scope
in the middle of a change. -/
def KeepsGate (node : Node) (event : Event) : Prop :=
  ∀ a operation, event = .operate a operation → operation.isInsert = true →
    (node.scope a).isOpen = true

end Event

namespace Node

variable {node next : Node} {event : Event} {a : Nat}

/-- A roster is being taken over where it was before, or by a scope that is open. -/
theorem Step.isChanging_or_isOpen (step : node.Step event next) (changing : next.IsChanging a) :
    node.IsChanging a ∨ (node.scope a).isOpen = true := by
  obtain ⟨c, change, flight, here⟩ := changing
  have same (pulls : next.pulls = node.pulls) : node.IsChanging a := ⟨c, change, pulls ▸ flight, here⟩
  have settled {c' : Nat} {result : Progress PullCycle Unit × Coordinator × Registry}
      (flight : (node.settlePull c' result).pulls.get? c = some (.changing change)) :
      node.IsChanging a := by
    rw [pulls_settlePull] at flight
    split at flight
    · obtain ⟨cycle, -, fetching⟩ := Option.map_eq_some_iff.1 flight
      cases fetching
    · exact ⟨c, change, flight, here⟩
  have goesOn {c' : Nat} {before later : RosterChange} {pulls : Table Nat PullStage}
      (flight' : node.pulls.get? c' = some (.changing before))
      (stays : later.activation = before.activation)
      (placed : pulls = node.pulls.insert c' (.changing later))
      (found : pulls.get? c = some (.changing change)) : node.IsChanging a := by
    rw [placed, Table.get?_insert] at found
    split at found
    next own =>
      subst own
      obtain rfl := PullStage.changing.inj (Option.some.inj found)
      exact ⟨c', before, flight', stays.symm.trans here⟩
    next => exact ⟨c, change, found, here⟩
  cases step with
  | acquire known user ip => exact Or.inl (same (acquire_frame _ user ip).2)
  | beginPull found free => exact Or.inl (settled flight)
  | resumePull found flight' plane => exact Or.inl (settled flight)
  | @beginChange c' coordinator b info roster rules plane found flight' answered isOpen =>
    have found' := (Table.get?_insert _ _ _ _).symm.trans flight
    split at found'
    next own =>
      obtain rfl := PullStage.changing.inj (Option.some.inj found')
      exact Or.inr (here ▸ isOpen)
    next => exact Or.inl ⟨c, change, found', here⟩
  | @goOnChanging c' coordinator before found flight' =>
    unfold Node.goOnChanging at flight
    split at flight
    · refine Or.inl (goesOn flight' ?_ rfl flight)
      rfl
    · refine Or.inl (goesOn flight' ?_ rfl flight)
      rfl
    · exact Or.inl (settled flight)
  | beginPush found free now => exact Or.inl (same (settlePush_frame _ _).2)
  | resumePush found flight' peers now => exact Or.inl (same (settlePush_frame _ _).2)
  | _ => exact Or.inl (same rfl)

namespace IsTornDown

/-- A teardown empties the scope. -/
theorem of_tearsDown (step : node.Step event next) (tears : event.TearsDown node a)
    (known : a < node.registry.nextActivation) : next.IsTornDown a := by
  have known' := Nat.lt_of_lt_of_le known step.nextActivation_le
  cases step with
  | @deactivate name settled =>
    have active : node.registry.active.get? name = some a := tears
    refine ⟨known', ?_, settled a active⟩
    show ((node.registry.deactivate name).2.scope a).IsVoid
    rw [Registry.scope_deactivate, if_pos active]
    exact Scope.isVoid_teardown _
  | @operate b operation known settled =>
    cases operation with
    | teardown =>
      have here : b = a := tears
      subst here
      refine ⟨known', ?_, settled rfl⟩
      show ((node.registry.modify b (·.perform .teardown)).scope b).IsVoid
      rw [Registry.scope_modify, if_pos rfl]
      exact Scope.isVoid_teardown _
    | _ => cases tears
  | _ => cases tears

/-- What works on a void scope without putting a user of a roster in place leaves it void. -/
theorem isVoid_of_evolves (h : node.IsTornDown a) {after : Scope}
    (evolves : (node.scope a).Evolves (·.isInsert = false) after) : after.IsVoid := by
  obtain ⟨operations, rfl, spared⟩ := evolves
  exact Scope.performAll_induction (motive := Scope.IsVoid) h.isVoid
    fun _ operation member holds => holds.perform (spared operation member)

/-- A pull that resumes does not bring a void scope back to life. -/
theorem isVoid_resumePull (h : node.IsTornDown a) (coordinator : Coordinator)
    (plane : Collaborators) (cycle : PullCycle) :
    ((coordinator.resumePull node.registry plane cycle).2.2.scope a).IsVoid := by
  have isVoid : (node.registry.scope a).IsVoid := h.isVoid
  cases cycle with
  | fetchingNode b =>
    simp only [Coordinator.resumePull]
    cases plane.node <;> exact isVoid
  | fetchingRoster b info =>
    simp only [Coordinator.resumePull]
    cases plane.roster <;> exact isVoid
  | fetchingRules b info roster =>
    simp only [Coordinator.resumePull]
    cases plane.rules with
    | error e => exact isVoid
    | ok rules =>
      dsimp only
      rw [Registry.scope_setScope]
      split
      next same =>
        subst same
        exact isVoid.applyFetched coordinator _
      next => exact isVoid

theorem step (h : node.IsTornDown a) (step : node.Step event next) (gate : event.KeepsGate node) :
    next.IsTornDown a := by
  have settled : ¬ next.IsChanging a := by
    intro changing
    rcases step.isChanging_or_isOpen changing with before | isOpen
    · exact h.settled before
    · rw [h.isVoid.closed] at isOpen
      cases isOpen
  refine ⟨Nat.lt_of_lt_of_le h.known step.nextActivation_le, ?_, settled⟩
  have spares (works : ∀ operation, event.mayPerform node a operation → operation.isInsert = false) :
      (next.scope a).IsVoid := by
    obtain ⟨operations, after, fits⟩ := step.scope_evolves h.known
    refine h.isVoid_of_evolves ⟨operations, after, fun operation member => ?_⟩
    rcases fits operation member with may | rfl
    · exact works operation may
    · rfl
  have pushing (operation : Operation) (work : operation.isPushWork = true) :
      operation.isInsert = false := by
    cases operation with
    | insertUser entry => cases work
    | _ => rfl
  cases step with
  | activate name config => exact spares fun _ may => by cases may
  | deactivate settled => exact spares fun _ may => by cases may
  | coordinate free created => exact spares fun _ may => by cases may
  | beginPull found free => exact spares fun _ may => by cases may
  | acquire known user ip =>
    refine spares ?_
    rintro operation ⟨-, rfl⟩
    rfl
  | drop held =>
    refine spares ?_
    rintro operation ⟨-, rfl⟩
    rfl
  | operate known settled =>
    refine spares ?_
    rintro operation ⟨rfl, rfl⟩
    by_contra insert
    rw [Bool.not_eq_false] at insert
    have isOpen := gate _ operation rfl insert
    rw [h.isVoid.closed] at isOpen
    cases isOpen
  | @resumePull c coordinator cycle found flight plane =>
    show ((node.settlePull c _).registry.scope a).IsVoid
    rw [registry_settlePull]
    exact h.isVoid_resumePull coordinator plane cycle
  | @beginChange c coordinator b info roster rules plane found flight answered isOpen =>
    have elsewhere : b ≠ a := by
      rintro rfl
      rw [h.isVoid.closed] at isOpen
      cases isOpen
    refine spares ?_
    rintro operation ⟨-, here⟩
    rw [flight] at here
    exact absurd (Option.some.inj here) elsewhere
  | @goOnChanging c coordinator change found flight =>
    refine spares ?_
    rintro operation ⟨-, here⟩
    rw [flight] at here
    exact absurd ⟨c, change, flight, Option.some.inj here⟩ h.settled
  | beginPush found free now => exact spares pushing
  | resumePush found flight peers now => exact spares pushing

end IsTornDown

/-- A run of a node with the origins of its cycles. -/
def CycleRun : Node × CycleOrigins → Node × CycleOrigins → Prop :=
  Relation.ReflTransGen fun before after =>
    ∃ event, before.1.Step event after.1 ∧ event.KeepsGate before.1 ∧
      after.2 = before.2.after before.1 event

theorem CycleRun.agrees {start after : Node × CycleOrigins} (run : CycleRun start after)
    (h : start.1.Agrees start.2) : after.1.Agrees after.2 := by
  induction run with
  | refl => exact h
  | tail _ last ih =>
    obtain ⟨event, step, -, noted⟩ := last
    rw [noted]
    exact ih.step step

theorem CycleRun.run {start after : Node × CycleOrigins} (run : CycleRun start after) :
    Run (fun _ _ _ => True) start.1 after.1 := by
  induction run with
  | refl => exact .refl
  | tail _ last ih =>
    obtain ⟨event, step, -, -⟩ := last
    exact ih.tail ⟨event, step, trivial⟩

theorem CycleRun.isTornDown {start after : Node × CycleOrigins} (run : CycleRun start after)
    (h : start.1.IsTornDown a) :
    after.1.IsTornDown a ∧ (after.1.scope a).name = (start.1.scope a).name := by
  induction run with
  | refl => exact ⟨h, rfl⟩
  | tail _ last ih =>
    obtain ⟨event, step, gate, -⟩ := last
    obtain ⟨h', same⟩ := ih
    obtain ⟨operations, after, -⟩ := step.scope_evolves h'.known
    exact ⟨h'.step step gate, by rw [after, Scope.name_performAll, same]⟩

/-- The name of an activation that is over goes to other activations only. -/
theorem CycleRun.active_ne {start after : Node × CycleOrigins} (run : CycleRun start after)
    {name : String} (freed : start.1.registry.active.get? name ≠ some a)
    (known : a < start.1.registry.nextActivation) :
    after.1.registry.active.get? name ≠ some a ∧ a < after.1.registry.nextActivation := by
  induction run with
  | refl => exact ⟨freed, known⟩
  | @tail middle after _ last ih =>
    obtain ⟨event, step, -, -⟩ := last
    obtain ⟨freed', known'⟩ := ih
    refine ⟨?_, Nat.lt_of_lt_of_le known' step.nextActivation_le⟩
    intro active
    generalize middle.1 = node at step freed' known'
    generalize after.1 = next at step active
    have lasts (still : event.isLifecycle = false) : False := by
      rw [(step.evolves still).active_eq] at active
      exact freed' active
    cases step with
    | activate name' config =>
      have given := (Registry.active_activate name' config name).symm.trans active
      split at given
      next =>
        cases found : node.registry.active.get? name with
        | some b =>
          rw [found, Option.getD_some] at given
          exact freed' (found.trans given)
        | none =>
          rw [found, Option.getD_none, Option.some.injEq] at given
          omega
      next => exact freed' given
    | @deactivate name' settled =>
      have given := (Registry.active_deactivate name' name).symm.trans active
      split at given
      · cases given
      · exact freed' given
    | _ => exact lasts rfl

end Node

/-- Once an activation is torn down, whatever happens at the node: connections, leases and changes
of the roster are refused with the name of the scope and leave no trace, and there is no limit
record, no user online and no open connection. A deactivated name never leads to the activation
again, and what works through it, or through a cycle that began under it, leaves all other
activations as they are. -/
theorem teardown_is_final {a : Nat} {node torn after : Node} {origins origins' : CycleOrigins}
    {event : Event} (before : Node.CycleRun ({}, {}) (node, origins)) (step : node.Step event torn)
    (tears : event.TearsDown node a)
    (later : Node.CycleRun (torn, origins.after node event) (after, origins')) :
    ((∀ user ip, (after.scope a).connect user ip =
        (.error (.unknownScope (node.scope a).name), after.scope a)) ∧
      (∀ user ip, (after.registry.acquire a user ip).1 =
        .error (.unknownScope (node.scope a).name)) ∧
      (∀ diff, (after.scope a).applyRosterDiff diff =
        (.error (.unknownScope (node.scope a).name), after.scope a)) ∧
      (after.scope a).stats.users = 0 ∧ (after.scope a).stats.onlineUsers = 0 ∧
      (after.scope a).stats.connections = 0) ∧
    (∀ name, event = .deactivate name → after.registry.active.get? name ≠ some a) ∧
    ∀ through next, after.Step through next → through.origin? after origins' = some a →
      ∀ b, b ≠ a → next.scope b = after.scope b := by
  have known : a < node.registry.nextActivation := by
    cases step with
    | deactivate settled => exact Node.active_lt_of_run before.run tears
    | @operate b operation known settled =>
      cases operation with
      | teardown =>
        have here : b = a := tears
        exact here ▸ known
      | _ => cases tears
    | _ => cases tears
  have tornDown := Node.IsTornDown.of_tearsDown step tears known
  have agrees : node.Agrees origins :=
    before.agrees ⟨fun _ _ found => (by cases found), fun _ _ found => by cases found⟩
  have agrees' : after.Agrees origins' := later.agrees (agrees.step step)
  obtain ⟨h, same⟩ := later.isTornDown tornDown
  have name : (after.scope a).name = (node.scope a).name := by
    obtain ⟨operations, evolved, -⟩ := step.scope_evolves known
    rw [same, evolved, Scope.name_performAll]
  refine ⟨⟨?_, ?_, ?_, h.isVoid.users, h.isVoid.onlineUsers, h.isVoid.connections⟩, ?_, ?_⟩
  · intro user ip
    rw [h.isVoid.connect, name]
  · intro user ip
    rw [Registry.acquire_of_void h.isVoid user ip]
    exact congrArg _ (congrArg _ name)
  · intro diff
    rw [h.isVoid.applyRosterDiff, name]
  · rintro name rfl
    have freed : torn.registry.active.get? name ≠ some a := by
      cases step with
      | deactivate settled =>
        have free := @Registry.active_deactivate node.registry name name
        rw [if_pos rfl] at free
        rw [free]
        rintro ⟨⟩
    exact (later.active_ne freed tornDown.known).1
  · intro through next step' origin b other
    exact step'.scope_of_origin agrees' origin other

/-- A scope is deactivated and activated again while a pull is in flight. The pull goes on to its end
and sets the caps of the activation that is over, not those of the new one. -/
theorem teardown_is_final_resumed :
    ∃ (after next : Node) (coordinator : Coordinator),
      coordinator.scope = "a" ∧ after.registry.active.get? "a" = some 1 ∧
      (after.registry.acquire 0 7 (.v4 1)).1 = .error (.unknownScope "a") ∧
      after.coordinators.get? 0 = some coordinator ∧ after.Step (.resumePull 0 {}) next ∧
      (next.scope 0).limits.speedLimit = 100 ∧ (next.scope 1).limits.speedLimit = 0 := by
  let info : NodeInfo := { limits := { speedLimit := 100 }, pullIntervalSecs := 0, pushIntervalSecs := 0 }
  let plane : Collaborators := { node := .ok (some info) }
  let made : Coordinator :=
    { scope := "a"
      config := {}
      pullTask := { name := "roster-pull", intervalMs := 60000 }
      pushTask := { name := "traffic-push", intervalMs := 60000 } }
  let fetching := { made with phase := .fetching }
  let active : Node := { registry := (({} : Registry).activate "a" {}).2 }
  let start : Node := { active with coordinators := active.coordinators.insert 0 made }
  let first := start.settlePull 0 (.calling (.fetchingNode 0), fetching, start.registry)
  let second := first.settlePull 0
    (.calling (.fetchingRoster 0 (some info)), fetching, first.registry)
  let third := second.settlePull 0
    (.calling (.fetchingRules 0 (some info) none), fetching, second.registry)
  let torn : Node := { third with registry := (third.registry.deactivate "a").2 }
  let after : Node := { torn with registry := (torn.registry.activate "a" {}).2 }
  let next := after.settlePull 0
    (fetching.resumePull after.registry {} (.fetchingRules 0 (some info) none))
  let begun := ({} : CycleOrigins).after start (.beginPull 0)
  have creates : active.Step (.coordinate 0 "a" {} false false) start := .coordinate rfl (by cbv)
  have begins : start.Step (.beginPull 0) first := by
    have here : start.registry.find made.scope = .ok 0 := by decide
    have began : made.beginPull start.registry = (.calling (.fetchingNode 0), fetching) := by
      rw [Coordinator.beginPull, here]
    have begins := @Node.Step.beginPull start 0 made rfl rfl
    rwa [began] at begins
  have hears : first.Step (.resumePull 0 plane) second :=
    @Node.Step.resumePull first 0 fetching (.fetchingNode 0) rfl rfl plane
  have lists : second.Step (.resumePull 0 plane) third :=
    @Node.Step.resumePull second 0 fetching (.fetchingRoster 0 (some info)) rfl rfl plane
  have ends : third.Step (.deactivate "a") torn := by
    refine .deactivate ?_
    rintro a - ⟨c, change, flight, -⟩
    have alone : third.pulls =
        Table.empty.insert 0 (.fetching (.fetchingRules 0 (some info) none)) := rfl
    rw [alone, Table.get?_insert] at flight
    split at flight
    · cases flight
    · cases flight
  have before : Node.CycleRun ({}, {}) (third, begun) := by
    refine .tail (b := (second, begun)) (.tail (b := (first, begun)) (.tail (b := (start, {}))
      (.tail (b := (active, {})) (.tail .refl ⟨_, .activate "a" {}, ?_, rfl⟩)
      ⟨_, creates, ?_, rfl⟩) ⟨_, begins, ?_, rfl⟩) ⟨_, hears, ?_, rfl⟩) ⟨_, lists, ?_, rfl⟩
    all_goals exact fun _ _ other => by cases other
  have later : Node.CycleRun (torn, begun) (after, begun) :=
    .single ⟨_, .activate "a" {}, fun _ _ other => (by cases other), rfl⟩
  have resumes : after.Step (.resumePull 0 {}) next :=
    @Node.Step.resumePull after 0 fetching (.fetchingRules 0 (some info) none) rfl rfl {}
  have tears : (Event.deactivate "a").TearsDown third 0 := by
    show third.registry.active.get? "a" = some 0
    decide
  obtain ⟨⟨-, refused, -⟩, -, others⟩ := teardown_is_final before ends tears later
  have origin : (Event.resumePull 0 {}).origin? after begun = some 0 := by
    show begun.pulls 0 = some 0
    decide
  refine ⟨after, next, fetching, rfl, by decide, ?_, rfl, resumes, ?_, ?_⟩
  · have name : (third.scope 0).name = "a" := by decide
    rw [refused, name]
  · decide
  · rw [others _ next resumes origin 1 (by decide)]
    decide

end Tollgate
