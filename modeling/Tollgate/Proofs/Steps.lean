import Tollgate.Proofs.Node

/-!
# What a step can do to a scope

A step takes every scope of a node on by a list of operations, of a kind that the event allows
(`Step.evolves`): cycles only by what belongs to their work, leases only by the one connection that
they open or close. Scopes come and go by activation and deactivation and by nothing else.

A pull that takes a roster over at once does what it does user by user with nothing in between
(`run_beginChange`).
-/

namespace Tollgate

namespace Operation

/-- What a pull does to a scope. -/
def isPullWork : Operation → Bool
  | .setLimits _ | .setDynamicLimit _ | .removeUser _ | .insertUser _ | .applyRosterDiff _
  | .replaceRules _ => true
  | _ => false

/-- What a push does to a scope. -/
def isPushWork : Operation → Bool
  | .drainTraffic | .creditTraffic _ | .escalate .. | .endWindow | .mergeOnline _
  | .discardWindow => true
  | _ => false

end Operation

namespace Event

/-- Whether a scope comes or goes. -/
def isLifecycle : Event → Bool
  | .activate .. | .deactivate _ => true
  | _ => false

/-- Whether a lease comes or goes. -/
def movesLeases : Event → Bool
  | .acquire .. | .drop _ => true
  | _ => false

end Event

/-- The operations that an event may perform on an activation of a node. -/
def Event.mayPerform (node : Node) (a : Nat) : Event → Operation → Prop
  | .acquire b user ip, operation => b = a ∧ operation = .connect user ip
  | .drop lease, operation =>
    lease.activation = a ∧ operation = .release lease.user lease.ip (some lease.session)
  | .operate b performed, operation => b = a ∧ operation = performed
  | .resumePull c _, operation | .beginChange c _, operation | .goOnChanging c, operation =>
    operation.isPullWork ∧ (node.pulls.get? c).map (·.activation) = some a
  | .beginPush .., operation | .resumePush .., operation => operation.isPushWork
  | _, _ => False

theorem Operation.movesConnections_of_isPullWork {operation : Operation}
    (work : operation.isPullWork = true) : operation.movesConnections = false := by
  cases operation <;> first | rfl | cases work

theorem Operation.movesConnections_of_isPushWork {operation : Operation}
    (work : operation.isPushWork = true) : operation.movesConnections = false := by
  cases operation <;> first | rfl | cases work

/-- Cycles neither open nor close a connection; that takes a lease, or the operation itself. -/
theorem Event.movesConnections_of_mayPerform {node : Node} {a : Nat} {event : Event}
    {operation : Operation} (h : event.mayPerform node a operation)
    (kept : event.movesLeases = false)
    (direct : ∀ b performed, event = .operate b performed → performed.movesConnections = false) :
    operation.movesConnections = false := by
  cases event with
  | activate name config => cases h
  | deactivate name => cases h
  | acquire b user ip => cases kept
  | drop lease => cases kept
  | operate b performed =>
    obtain ⟨-, rfl⟩ := h
    exact direct b operation rfl
  | coordinate c scope config hasRecorder hasReporter => cases h
  | beginPull c => cases h
  | resumePull c plane => exact Operation.movesConnections_of_isPullWork h.1
  | beginChange c plane => exact Operation.movesConnections_of_isPullWork h.1
  | goOnChanging c => exact Operation.movesConnections_of_isPullWork h.1
  | beginPush c now => exact Operation.movesConnections_of_isPushWork h
  | resumePush c peers now => exact Operation.movesConnections_of_isPushWork h

namespace Registry

/-- Every scope of a registry goes on by operations that are allowed for it, and none is activated
or deactivated. -/
structure Evolves (allowed : Nat → Operation → Prop) (before after : Registry) : Prop where
  scope : ∀ a, Scope.Evolves (allowed a) (before.scope a) (after.scope a)
  nextActivation_eq : after.nextActivation = before.nextActivation
  active_eq : after.active = before.active

variable {allowed : Nat → Operation → Prop} {registry : Registry}

theorem Evolves.refl : Evolves allowed registry registry := ⟨fun _ => .refl, rfl, rfl⟩

theorem Evolves.trans {first second third : Registry} (h : Evolves allowed first second)
    (h' : Evolves allowed second third) : Evolves allowed first third where
  scope a := (h.scope a).trans (h'.scope a)
  nextActivation_eq := h'.nextActivation_eq.trans h.nextActivation_eq
  active_eq := h'.active_eq.trans h.active_eq

theorem Evolves.imp {allowed' : Nat → Operation → Prop} {after : Registry}
    (h : Evolves allowed registry after)
    (weaker : ∀ a operation, allowed a operation → allowed' a operation) :
    Evolves allowed' registry after := by
  refine ⟨fun a => ?_, h.nextActivation_eq, h.active_eq⟩
  obtain ⟨operations, after, fits⟩ := h.scope a
  exact ⟨operations, after, fun operation member => weaker a operation (fits operation member)⟩

theorem evolves_setScope {b : Nat} {scope : Scope}
    (h : Scope.Evolves (allowed b) (registry.scope b) scope) :
    Evolves allowed registry (registry.setScope b scope) := by
  refine ⟨fun a => ?_, rfl, rfl⟩
  rw [scope_setScope]
  split
  next same => exact same ▸ h
  next => exact .refl

theorem evolves_modify {b : Nat} {operation : Operation} (fits : allowed b operation) :
    Evolves allowed registry (registry.modify b (·.perform operation)) :=
  evolves_setScope (Scope.evolves_perform fits)

end Registry

namespace Coordinator

variable {coordinator : Coordinator} {scope : Scope} {registry : Registry}

/-! ### Pulls -/

/-- What is said about a node leaves the coordinator with its roster and its scope. -/
theorem applyNode_keeps (info : Option NodeInfo) :
    (coordinator.applyNode scope info).1.roster = coordinator.roster ∧
      (coordinator.applyNode scope info).1.scope = coordinator.scope := by
  cases info with
  | none => exact ⟨rfl, rfl⟩
  | some info => exact ⟨rfl, rfl⟩

theorem evolves_applyNode (info : Option NodeInfo) :
    scope.Evolves (·.isPullWork) (coordinator.applyNode scope info).2 := by
  cases info with
  | none => exact .refl
  | some info =>
    have limits := @Scope.evolves_perform scope (·.isPullWork) (.setLimits info.limits) rfl
    exact limits.trans (@Scope.evolves_perform _ _ (.setDynamicLimit info.dynamicLimit) rfl)

theorem pieces_of_isEmpty {diff : RosterDiff} (h : diff.isEmpty = true) : diff.pieces = [] := by
  obtain ⟨added, removed⟩ := Bool.and_eq_true_iff.1 h
  simp [RosterDiff.pieces, List.isEmpty_iff.1 added, List.isEmpty_iff.1 removed]

theorem isPullWork_of_mem_pieces {diff : RosterDiff} {operation : Operation}
    (member : operation ∈ diff.pieces) : operation.isPullWork = true := by
  rcases List.mem_append.1 member with removed | added
  · obtain ⟨user, -, rfl⟩ := List.mem_map.1 removed
    rfl
  · obtain ⟨entry, -, rfl⟩ := List.mem_map.1 added
    rfl

/-- An open scope takes a roster over piece by piece; where nothing changed, so does a closed one.
-/
theorem applyRoster_of_taken {roster : List RosterUser}
    (taken : (RosterDiff.between coordinator.roster roster).isEmpty = true ∨ scope.isOpen = true) :
    coordinator.applyRoster scope (some roster) =
      (.ok (), { coordinator with roster },
        scope.performAll (RosterDiff.between coordinator.roster roster).pieces) := by
  unfold applyRoster
  cases same : (RosterDiff.between coordinator.roster roster).isEmpty with
  | true => simp [same, pieces_of_isEmpty same]
  | false =>
    have isOpen : scope.isOpen = true := by simpa [same] using taken
    simp [same, Scope.applyRosterDiff, isOpen, Scope.changeRoster_eq_performAll]

theorem applyRoster_of_refused {roster : List RosterUser}
    (changed : (RosterDiff.between coordinator.roster roster).isEmpty = false)
    (closed : scope.isOpen = false) :
    coordinator.applyRoster scope (some roster) = (.error scope.closed, coordinator, scope) := by
  simp [applyRoster, changed, Scope.applyRosterDiff, closed]

theorem evolves_applyRoster (roster : Option (List RosterUser)) :
    scope.Evolves (·.isPullWork) (coordinator.applyRoster scope roster).2.2 := by
  cases roster with
  | none => exact .refl
  | some roster =>
    by_cases taken : (RosterDiff.between coordinator.roster roster).isEmpty = true ∨
        scope.isOpen = true
    · rw [applyRoster_of_taken taken]
      exact ⟨_, rfl, fun _ member => isPullWork_of_mem_pieces member⟩
    · simp only [not_or, Bool.not_eq_true] at taken
      rw [applyRoster_of_refused taken.1 taken.2]
      exact .refl

theorem evolves_applyRules (rules : Option RuleSet) :
    scope.Evolves (·.isPullWork) (applyRules scope rules) := by
  cases rules with
  | none => exact .refl
  | some rules => exact @Scope.evolves_perform scope _ (.replaceRules rules) rfl

theorem evolves_applyFetched (fetched : Fetched) :
    scope.Evolves (·.isPullWork) (coordinator.applyFetched scope fetched).2.2 := by
  have node := @evolves_applyNode coordinator scope fetched.node
  have roster := node.trans (@evolves_applyRoster (coordinator.applyNode scope fetched.node).1 _
    fetched.roster)
  unfold applyFetched
  dsimp only
  split
  next refused => rwa [refused] at roster
  next taken =>
    rw [taken] at roster
    exact roster.trans (evolves_applyRules fetched.rules)

/-- A pull works on the activation that it stays with. -/
theorem evolves_resumePull (plane : Collaborators) (cycle : PullCycle) :
    Registry.Evolves (fun a operation => operation.isPullWork = true ∧ cycle.activation = a)
      registry (coordinator.resumePull registry plane cycle).2.2 := by
  cases cycle with
  | fetchingNode activation =>
    simp only [resumePull]
    cases plane.node <;> exact .refl
  | fetchingRoster activation info =>
    simp only [resumePull]
    cases plane.roster <;> exact .refl
  | fetchingRules activation info roster =>
    simp only [resumePull]
    cases plane.rules with
    | error e => exact .refl
    | ok rules =>
      refine Registry.evolves_setScope ?_
      obtain ⟨operations, after, fits⟩ := @evolves_applyFetched coordinator
        (registry.scope activation) { node := info, roster, rules }
      exact ⟨operations, after, fun operation member => ⟨fits operation member, rfl⟩⟩

/-! ### Pushes -/

/-- What a push does to any scope. -/
abbrev PushWork (_ : Nat) (operation : Operation) : Prop := operation.isPushWork = true

theorem evolves_closeWindow (a : Nat) (summary : PushSummary) :
    Registry.Evolves PushWork registry (coordinator.closeWindow registry a summary).2 := by
  unfold closeWindow
  dsimp only
  split
  · split
    · exact .refl
    · exact Registry.evolves_setScope (@Scope.evolves_perform _ _ .discardWindow rfl)
  · exact Registry.evolves_setScope (@Scope.evolves_perform _ _ .endWindow rfl)

theorem evolves_deliver (a : Nat) (now : Timestamp) (drained : List TrafficEntry) :
    Registry.Evolves PushWork registry (deliver registry a now drained).2 :=
  Registry.evolves_setScope (@Scope.evolves_perform _ _ (.escalate now drained) rfl)

theorem evolves_beginPush (now : Timestamp) :
    Registry.Evolves PushWork registry (coordinator.beginPush registry now).2 := by
  unfold beginPush
  split
  · exact .refl
  next a _ =>
    have drained : Registry.Evolves PushWork registry (registry.run a Scope.drainTraffic).2 :=
      Registry.evolves_setScope (@Scope.evolves_perform _ _ .drainTraffic rfl)
    dsimp only
    split
    · exact drained.trans (evolves_closeWindow a _)
    · split
      · exact drained
      · exact (drained.trans (evolves_deliver a now _)).trans (evolves_closeWindow a _)

theorem evolves_resumePush (peers : Collaborators) (now : Timestamp) (cycle : PushCycle) :
    Registry.Evolves PushWork registry (coordinator.resumePush registry peers now cycle).2 := by
  cases cycle with
  | reporting a drained =>
    simp only [resumePush]
    cases peers.report with
    | ok => exact (evolves_deliver a now drained).trans (evolves_closeWindow a _)
    | error e =>
      have credited := @Registry.evolves_modify PushWork registry a (.creditTraffic drained) rfl
      exact credited.trans (evolves_closeWindow a _)
  | syncing a online summary =>
    simp only [resumePush]
    cases peers.sync online with
    | ok merged => exact @Registry.evolves_modify PushWork registry a (.mergeOnline merged) rfl
    | error e => exact @Registry.evolves_modify PushWork registry a .discardWindow rfl

end Coordinator

namespace Registry

variable {registry : Registry}

theorem find_eq_ok_iff {name : String} {a : Nat} :
    registry.find name = .ok a ↔ registry.active.get? name = some a := by
  unfold find
  cases registry.active.get? name with
  | none => simp
  | some b => simp

theorem find_of_unknown {name : String} (unknown : registry.active.get? name = none) :
    registry.find name = .error (.unknownScope name) := by
  rw [find, unknown]

theorem acquire_registry (a : Nat) (user : UInt64) (ip : IpAddr) :
    (registry.acquire a user ip).2 = registry.modify a (·.perform (.connect user ip)) := by
  unfold acquire run
  dsimp only
  split <;> rfl

theorem activate_of_known {name : String} {a : Nat} (known : registry.active.get? name = some a)
    (config : ScopeConfig) :
    registry.activate name config = (.error (.scopeExists name), registry) := by
  rw [activate, if_pos (by simp [Table.contains, known])]

theorem activate_of_unknown {name : String} (unknown : registry.active.get? name = none)
    (config : ScopeConfig) :
    registry.activate name config = (.ok registry.nextActivation,
      { registry.setScope registry.nextActivation (Scope.activate name config) with
        active := registry.active.insert name registry.nextActivation
        nextActivation := registry.nextActivation + 1 }) := by
  rw [activate, if_neg (by simp [Table.contains, unknown])]

theorem scope_activate (name : String) (config : ScopeConfig) (a : Nat) :
    (registry.activate name config).2.scope a = registry.scope a ∨
      (a = registry.nextActivation ∧
        (registry.activate name config).2.scope a = Scope.activate name config) := by
  unfold activate
  split
  · exact Or.inl rfl
  · by_cases fresh : registry.nextActivation = a
    · have placed := @scope_setScope registry registry.nextActivation a (.activate name config)
      rw [if_pos fresh] at placed
      exact Or.inr ⟨fresh.symm, placed⟩
    · have placed := @scope_setScope registry registry.nextActivation a (.activate name config)
      rw [if_neg fresh] at placed
      exact Or.inl placed

theorem scope_activate_of_lt {a : Nat} (begun : a < registry.nextActivation) (name : String)
    (config : ScopeConfig) : (registry.activate name config).2.scope a = registry.scope a := by
  rcases @scope_activate registry name config a with same | ⟨rfl, -⟩
  · exact same
  · exact absurd begun (Nat.lt_irrefl _)

theorem setScope_setScope (a : Nat) (first second : Scope) :
    (registry.setScope a first).setScope a second = registry.setScope a second := by
  simp only [setScope, Table.insert_insert]

theorem modify_setScope (a : Nat) (scope : Scope) (f : Scope → Scope) :
    (registry.setScope a scope).modify a f = registry.setScope a (f scope) := by
  rw [modify, setScope_setScope, scope_setScope, if_pos rfl]

theorem modify_modify (a : Nat) (f g : Scope → Scope) :
    (registry.modify a f).modify a g = registry.modify a fun scope => g (f scope) := by
  rw [modify.eq_def registry, modify_setScope, modify]

/-- A scope that is deactivated is torn down, and its name is free. -/
theorem deactivate_eq {name : String} {a : Nat} (found : registry.active.get? name = some a) :
    (registry.deactivate name).2 =
      { registry.modify a (·.perform .teardown) with active := registry.active.erase name } := by
  unfold deactivate
  rw [find_eq_ok_iff.2 found]
  rfl

theorem deactivate_of_unknown {name : String} (unknown : registry.active.get? name = none) :
    (registry.deactivate name).2 = registry := by
  simp [deactivate, find, unknown]

theorem scope_deactivate (name : String) (a : Nat) :
    (registry.deactivate name).2.scope a =
      if registry.active.get? name = some a then (registry.scope a).perform .teardown
      else registry.scope a := by
  cases found : registry.active.get? name with
  | none => rw [deactivate_of_unknown found]; rfl
  | some b =>
    rw [deactivate_eq found]
    simp only [Option.some.injEq]
    exact @scope_modify registry b a (·.perform .teardown)

theorem le_nextActivation_activate (name : String) (config : ScopeConfig) :
    registry.nextActivation ≤ (registry.activate name config).2.nextActivation := by
  unfold activate
  split
  · exact Nat.le_refl _
  · exact Nat.le_succ _

/-- A name that is free gets the next activation, and other names keep theirs. -/
theorem active_activate (name : String) (config : ScopeConfig) (name' : String) :
    (registry.activate name config).2.active.get? name' =
      if name = name' then some ((registry.active.get? name').getD registry.nextActivation)
      else registry.active.get? name' := by
  cases found : registry.active.get? name with
  | some a =>
    rw [activate_of_known found]
    split
    next same => simp [← same, found]
    next => rfl
  | none =>
    rw [activate_of_unknown found]
    refine (Table.get?_insert _ _ _ _).trans ?_
    split
    next same => simp [← same, found]
    next => rfl

theorem active_deactivate (name name' : String) :
    (registry.deactivate name).2.active.get? name' =
      if name = name' then none else registry.active.get? name' := by
  cases found : registry.active.get? name with
  | none =>
    rw [deactivate_of_unknown found]
    split
    next same => rw [← same, found]
    next => rfl
  | some a =>
    rw [deactivate_eq found]
    exact Table.get?_erase _ _ _

theorem nextActivation_deactivate (name : String) :
    (registry.deactivate name).2.nextActivation = registry.nextActivation := by
  cases found : registry.active.get? name with
  | none => rw [deactivate_of_unknown found]
  | some a => rw [deactivate_eq found]; rfl

end Registry

namespace Node

variable {node next : Node} {event : Event}

@[simp] theorem registry_settlePull (c : Nat)
    (result : Progress PullCycle Unit × Coordinator × Registry) :
    (node.settlePull c result).registry = result.2.2 := by
  obtain ⟨progress, coordinator, registry⟩ := result
  cases progress <;> rfl

@[simp] theorem registry_settlePush (c : Nat)
    (result : Progress PushCycle PushSummary × Registry) :
    (node.settlePush c result).registry = result.2 := by
  obtain ⟨progress, registry⟩ := result
  cases progress <;> rfl

@[simp] theorem leases_settlePull (c : Nat)
    (result : Progress PullCycle Unit × Coordinator × Registry) :
    (node.settlePull c result).leases = node.leases := by
  obtain ⟨progress, coordinator, registry⟩ := result
  cases progress <;> rfl

@[simp] theorem leases_settlePush (c : Nat)
    (result : Progress PushCycle PushSummary × Registry) :
    (node.settlePush c result).leases = node.leases := by
  obtain ⟨progress, registry⟩ := result
  cases progress <;> rfl

theorem registry_acquire (a : Nat) (user : UInt64) (ip : IpAddr) :
    (node.acquire a user ip).registry =
      node.registry.modify a (·.perform (.connect user ip)) := by
  rw [← Registry.acquire_registry]
  unfold acquire
  split
  next answered => rw [answered]
  next answered => rw [answered]

/-- Every step but the coming and going of a scope takes every scope on by operations that the event
allows. -/
theorem Step.evolves (step : node.Step event next) (lasting : event.isLifecycle = false) :
    Registry.Evolves (fun a => event.mayPerform node a) node.registry next.registry := by
  cases step with
  | activate name config => cases lasting
  | deactivate settled => cases lasting
  | acquire known user ip =>
    rw [registry_acquire]
    exact Registry.evolves_modify ⟨rfl, rfl⟩
  | @drop lease held => exact @Registry.evolves_modify _ _ _ (.release ..) ⟨rfl, rfl⟩
  | operate known settled => exact Registry.evolves_modify ⟨rfl, rfl⟩
  | coordinate free created => exact .refl
  | beginPull found free =>
    rw [registry_settlePull]
    exact .refl
  | @resumePull c coordinator cycle found flight plane =>
    rw [registry_settlePull]
    refine (Coordinator.evolves_resumePull plane cycle).imp ?_
    rintro a operation ⟨work, rfl⟩
    exact ⟨work, by rw [flight]; rfl⟩
  | @beginChange c coordinator a info roster rules plane found flight answered isOpen =>
    refine Registry.evolves_setScope ?_
    obtain ⟨operations, after, fits⟩ :=
      @Coordinator.evolves_applyNode coordinator (node.scope a) info
    exact ⟨operations, after, fun operation member => ⟨fits operation member, by rw [flight]; rfl⟩⟩
  | @goOnChanging c coordinator change found flight =>
    have here : (node.pulls.get? c).map (·.activation) = some change.activation := by
      rw [flight]
      rfl
    unfold Node.goOnChanging
    split
    · exact Registry.evolves_modify ⟨rfl, here⟩
    · exact Registry.evolves_modify ⟨rfl, here⟩
    · rw [registry_settlePull]
      refine Registry.evolves_setScope ?_
      obtain ⟨operations, after, fits⟩ :=
        @Coordinator.evolves_applyRules (node.registry.scope change.activation) change.rules
      exact ⟨operations, after, fun operation member => ⟨fits operation member, here⟩⟩
  | beginPush found free now =>
    rw [registry_settlePush]
    exact Coordinator.evolves_beginPush now
  | resumePush found flight peers now =>
    rw [registry_settlePush]
    exact Coordinator.evolves_resumePush peers now _

/-- The numbers of activations are given in order. -/
theorem Step.nextActivation_le (step : node.Step event next) :
    node.registry.nextActivation ≤ next.registry.nextActivation := by
  have lasts (lasting : event.isLifecycle = false) :
      node.registry.nextActivation ≤ next.registry.nextActivation :=
    Nat.le_of_eq (step.evolves lasting).nextActivation_eq.symm
  cases step with
  | activate name config => exact Registry.le_nextActivation_activate name config
  | deactivate settled => exact Nat.le_of_eq (Registry.nextActivation_deactivate _).symm
  | _ => exact lasts rfl

/-- Whatever happens, an activation goes on by operations that the event allows, or it is torn
down. -/
theorem Step.scope_evolves (step : node.Step event next) {a : Nat}
    (known : a < node.registry.nextActivation) :
    (node.scope a).Evolves
      (fun operation => event.mayPerform node a operation ∨ operation = .teardown)
      (next.scope a) := by
  have lasts (lasting : event.isLifecycle = false) :
      (node.scope a).Evolves
        (fun operation => event.mayPerform node a operation ∨ operation = .teardown)
        (next.scope a) := by
    obtain ⟨operations, after, fits⟩ := (step.evolves lasting).scope a
    exact ⟨operations, after, fun operation member => Or.inl (fits operation member)⟩
  cases step with
  | activate name config =>
    rcases Registry.scope_activate name config a with same | ⟨fresh, -⟩
    · exact ⟨[], same, fun _ member => nomatch member⟩
    · omega
  | @deactivate name settled =>
    have after := @Registry.scope_deactivate node.registry name a
    split at after
    · exact ⟨[.teardown], after, fun _ member => Or.inr (List.mem_singleton.1 member)⟩
    · exact ⟨[], after, fun _ member => nomatch member⟩
  | _ => exact lasts rfl

/-- When a name is activated, each scope stays as it is or begins. -/
theorem Step.scope_activate {name : String} {config : ScopeConfig}
    (step : node.Step (.activate name config) next) (a : Nat) :
    next.scope a = node.scope a ∨ next.scope a = Scope.activate name config := by
  cases step with
  | activate => exact (Registry.scope_activate name config a).imp_right And.right

/-- When a name is deactivated, each scope stays as it is or ends. -/
theorem Step.scope_deactivate {name : String} (step : node.Step (.deactivate name) next) (a : Nat) :
    next.scope a = node.scope a ∨ next.scope a = (node.scope a).perform .teardown := by
  cases step with
  | deactivate =>
    have after := @Registry.scope_deactivate node.registry name a
    split at after
    · exact Or.inr after
    · exact Or.inl after

/-- A name stays with its activation until that is deactivated. -/
theorem Step.active_of_lasting (step : node.Step event next) {name : String} {a : Nat}
    (active : node.registry.active.get? name = some a)
    (lasting : ∀ name, event = .deactivate name → node.registry.active.get? name ≠ some a) :
    next.registry.active.get? name = some a := by
  have lasts (still : event.isLifecycle = false) : next.registry.active.get? name = some a := by
    rw [(step.evolves still).active_eq]
    exact active
  cases step with
  | activate name' config =>
    refine (Registry.active_activate name' config name).trans ?_
    split
    · rw [active, Option.getD_some]
    · exact active
  | @deactivate name' settled =>
    refine (Registry.active_deactivate name' name).trans ?_
    split
    next same => exact absurd active (same ▸ lasting name' rfl)
    next => exact active
  | _ => exact lasts rfl

/-- The activations of names have been given. -/
theorem active_lt_of_run {allowed : Node → Event → Node → Prop} (run : Run allowed {} node)
    {name : String} {a : Nat} (active : node.registry.active.get? name = some a) :
    a < node.registry.nextActivation := by
  induction run with
  | refl => cases active
  | @tail before after _ last ih =>
    obtain ⟨event, step, -⟩ := last
    have lasts (still : event.isLifecycle = false) : a < after.registry.nextActivation := by
      rw [(step.evolves still).nextActivation_eq]
      exact ih ((step.evolves still).active_eq ▸ active)
    have le := step.nextActivation_le
    cases step with
    | activate name' config =>
      have given := (Registry.active_activate name' config name).symm.trans active
      split at given
      next same =>
        cases found : before.registry.active.get? name with
        | some b =>
          rw [found, Option.getD_some] at given
          exact Nat.lt_of_lt_of_le (ih (found.trans given)) le
        | none =>
          rw [found, Option.getD_none] at given
          cases given
          have free : before.registry.active.contains name' = false := by
            simp [Table.contains, same, found]
          show before.registry.nextActivation <
            (before.registry.activate name' config).2.nextActivation
          simp [Registry.activate, free]
      next => exact Nat.lt_of_lt_of_le (ih given) le
    | @deactivate name' settled =>
      have given := (Registry.active_deactivate name' name).symm.trans active
      split at given
      · cases given
      · exact Nat.lt_of_lt_of_le (ih given) le
    | _ => exact lasts rfl

/-- Leases come when they are granted and go when they are dropped. -/
theorem Step.leases_eq (step : node.Step event next) (kept : event.movesLeases = false) :
    next.leases = node.leases := by
  cases step with
  | acquire known user ip => cases kept
  | drop held => cases kept
  | beginPull found free => exact leases_settlePull _ _
  | resumePull found flight plane => exact leases_settlePull _ _
  | goOnChanging found flight =>
    unfold Node.goOnChanging
    split
    · rfl
    · rfl
    · exact leases_settlePull _ _
  | beginPush found free now => exact leases_settlePush _ _
  | resumePush found flight peers now => exact leases_settlePush _ _
  | _ => rfl

/-- Who asks for a lease gets none and changes nothing, or gets one on the session that counts it.
-/
theorem acquire_cases (a : Nat) (user : UInt64) (ip : IpAddr) :
    ((node.acquire a user ip).leases = node.leases ∧
        ∀ b, (node.acquire a user ip).scope b = node.scope b) ∨
      ((node.acquire a user ip).leases =
          ⟨a, user, ip,
            ((node.scope a).connections.sessionOrNew ((node.scope a).key user)).id⟩ :: node.leases ∧
        ∀ b, (node.acquire a user ip).scope b =
          if a = b then
            { node.scope b with
              connections := (node.scope b).connections.admitted ((node.scope b).key user) ip
              speed := (node.scope b).speed.ensureUser ((node.scope b).key user) }
          else node.scope b) := by
  have placed (b : Nat) : (node.acquire a user ip).scope b =
      if a = b then (node.scope b).perform (.connect user ip) else node.scope b := by
    rw [scope, registry_acquire]
    exact Registry.scope_modify _ _ _
  have stays (same : (node.scope a).perform (.connect user ip) = node.scope a) (b : Nat) :
      (node.acquire a user ip).scope b = node.scope b := by
    rw [placed]
    split
    next here => rw [← here, same]
    next => rfl
  cases isOpen : (node.scope a).isOpen with
  | false =>
    have answer := Scope.connect_of_closed isOpen user ip
    refine Or.inl ⟨?_, stays (by rw [Scope.perform, answer])⟩
    simp only [Node.acquire, Registry.acquire, Registry.run, scope] at answer ⊢
    rw [answer]
  | true =>
    have answer := Scope.connect_of_open isOpen user ip
    split at answer
    next refusal refused =>
      refine Or.inl ⟨?_, stays (by rw [Scope.perform, answer])⟩
      simp only [Node.acquire, Registry.acquire, Registry.run, scope] at answer ⊢
      rw [answer]
    next granted =>
      refine Or.inr ⟨?_, fun b => ?_⟩
      · simp only [Node.acquire, Registry.acquire, Registry.run, scope] at answer ⊢
        rw [answer]
      · rw [placed]
        split
        next here =>
          subst here
          rw [Scope.perform, answer]
        next => rfl

/-! ### Pulls at once and in pieces -/

/-- The node with a roster change under way. -/
def withChange (node : Node) (c : Nat) (change : RosterChange) : Node :=
  { node with pulls := node.pulls.insert c (.changing change) }

/-- The node with a roster change at its end. -/
def withChanged (node : Node) (c : Nat) (coordinator : Coordinator) (change : RosterChange) : Node :=
  { node with
    registry := node.registry.modify change.activation fun scope =>
      Coordinator.applyRules
        (scope.performAll (RosterDiff.pieces ⟨change.added, change.removed⟩)) change.rules
    coordinators := node.coordinators.insert c
      { coordinator with roster := change.roster, phase := .idle }
    pulls := node.pulls.erase c }

/-- A roster change that nothing else comes in between goes on to its end. -/
theorem run_withChange {c : Nat} {coordinator : Coordinator}
    (found : node.coordinators.get? c = some coordinator) (change : RosterChange) :
    Run (fun _ event _ => event = .goOnChanging c) (node.withChange c change)
      (node.withChanged c coordinator change) := by
  have goes (node : Node) (found : node.coordinators.get? c = some coordinator)
      (change : RosterChange) : ∃ event,
      Step (node.withChange c change) event
        ((node.withChange c change).goOnChanging c coordinator change) ∧
          event = .goOnChanging c :=
    ⟨_, .goOnChanging found (Table.get?_insert_self _ _ _), rfl⟩
  obtain ⟨a, removed, added, roster, rules⟩ := change
  induction removed generalizing node with
  | cons user rest ih =>
    have piece : (node.withChange c ⟨a, user :: rest, added, roster, rules⟩).goOnChanging c
          coordinator ⟨a, user :: rest, added, roster, rules⟩ =
        withChange { node with
          registry := node.registry.modify a (·.perform (.removeUser user.id)) } c
          ⟨a, rest, added, roster, rules⟩ := by
      simp only [goOnChanging, withChange, Table.insert_insert]
    have whole : node.withChanged c coordinator ⟨a, user :: rest, added, roster, rules⟩ =
        withChanged { node with
          registry := node.registry.modify a (·.perform (.removeUser user.id)) } c coordinator
          ⟨a, rest, added, roster, rules⟩ := by
      simp only [withChanged, Registry.modify_modify]
      rfl
    refine .head (goes node found _) ?_
    rw [piece, whole]
    exact ih found
  | nil =>
    induction added generalizing node with
    | cons user rest ih =>
      have piece : (node.withChange c ⟨a, [], user :: rest, roster, rules⟩).goOnChanging c
            coordinator ⟨a, [], user :: rest, roster, rules⟩ =
          withChange { node with
            registry := node.registry.modify a (·.perform (.insertUser user)) } c
            ⟨a, [], rest, roster, rules⟩ := by
        simp only [goOnChanging, withChange, Table.insert_insert]
      have whole : node.withChanged c coordinator ⟨a, [], user :: rest, roster, rules⟩ =
          withChanged { node with
            registry := node.registry.modify a (·.perform (.insertUser user)) } c coordinator
            ⟨a, [], rest, roster, rules⟩ := by
        simp only [withChanged, Registry.modify_modify]
        rfl
      refine .head (goes node found _) ?_
      rw [piece, whole]
      exact ih found
    | nil =>
      have ends : (node.withChange c ⟨a, [], [], roster, rules⟩).goOnChanging c coordinator
            ⟨a, [], [], roster, rules⟩ =
          node.withChanged c coordinator ⟨a, [], [], roster, rules⟩ := by
        simp only [goOnChanging, withChange, withChanged, settlePull, Coordinator.endPull,
          Table.erase_insert]
        rfl
      rw [← ends]
      exact .single (goes node found _)

/-- A pull that takes everything over at once does what it does in pieces, without a break. -/
theorem run_beginChange {c a : Nat} {coordinator : Coordinator} {info : Option NodeInfo}
    {roster : List RosterUser} {rules : Option RuleSet} {plane : Collaborators}
    (answered : plane.rules = .ok rules) (isOpen : (node.scope a).isOpen = true) :
    Run (fun _ event _ => event = .goOnChanging c)
      (node.beginChange c coordinator a info roster rules)
      (node.settlePull c (coordinator.resumePull node.registry plane
        (.fetchingRules a info (some roster)))) := by
  obtain ⟨same, -⟩ := @Coordinator.applyNode_keeps coordinator (node.scope a) info
  have stillOpen : (coordinator.applyNode (node.scope a) info).2.isOpen = true := by
    cases info with
    | none => exact isOpen
    | some info => exact isOpen
  generalize applied : coordinator.applyNode (node.scope a) info = outcome at same stillOpen
  obtain ⟨after, scope⟩ := outcome
  let diff := RosterDiff.between coordinator.roster roster
  let begun : Node :=
    { node with
      registry := node.registry.setScope a scope
      coordinators := node.coordinators.insert c after }
  have start : node.beginChange c coordinator a info roster rules =
      begun.withChange c ⟨a, diff.removed, diff.added, roster, rules⟩ := by
    simp only [beginChange, applied]
    rfl
  have finish : node.settlePull c (coordinator.resumePull node.registry plane
        (.fetchingRules a info (some roster))) =
      begun.withChanged c after ⟨a, diff.removed, diff.added, roster, rules⟩ := by
    have taken : after.applyRoster scope (some roster) =
        (.ok (), { after with roster }, scope.performAll diff.pieces) := by
      have taken := @Coordinator.applyRoster_of_taken after scope roster (Or.inr stillOpen)
      rwa [same] at taken
    have applied' : coordinator.applyNode (node.registry.scope a) info = (after, scope) := applied
    simp only [Coordinator.resumePull, answered, Coordinator.applyFetched, applied', taken,
      settlePull, withChanged, begun, Registry.modify_setScope, Table.insert_insert,
      Coordinator.endPull]
  rw [start, finish]
  exact run_withChange (Table.get?_insert_self _ _ _) _

end Node

end Tollgate
