import Tollgate.Proofs.RosterAgreement

/-!
# Cycles stay with their activation

A cycle finds the activation of its scope when it begins, and works on that one to its end, whatever
becomes of the name in the meantime. `CycleOrigins` notes, next to a run, which activation was in
force when each cycle began; the numbers that the cycles carry agree with it at every step
(`Node.Agrees.step`). So what works through one activation leaves all others as they are
(`Node.Step.scope_of_origin`).
-/

namespace Tollgate

/-- The rest of a cycle that is at a call. -/
def Progress.cycle? {κ ρ : Type} : Progress κ ρ → Option κ
  | .calling cycle => some cycle
  | .finished _ => none

namespace Coordinator

variable {coordinator : Coordinator} {registry : Registry}

theorem activation_beginPull {cycle : PullCycle}
    (goesOn : (coordinator.beginPull registry).1.cycle? = some cycle) :
    registry.active.get? coordinator.scope = some cycle.activation := by
  unfold beginPull at goesOn
  cases found : registry.find coordinator.scope with
  | error e =>
    rw [found] at goesOn
    cases goesOn
  | ok a =>
    rw [found] at goesOn
    obtain rfl := Option.some.inj goesOn
    exact Registry.find_eq_ok_iff.1 found

theorem activation_resumePull {plane : Collaborators} {cycle later : PullCycle}
    (goesOn : (coordinator.resumePull registry plane cycle).1.cycle? = some later) :
    later.activation = cycle.activation := by
  cases cycle with
  | fetchingNode a =>
    simp only [resumePull] at goesOn
    cases answered : plane.node with
    | error e =>
      rw [answered] at goesOn
      cases goesOn
    | ok info =>
      rw [answered] at goesOn
      obtain rfl := Option.some.inj goesOn
      rfl
  | fetchingRoster a info =>
    simp only [resumePull] at goesOn
    cases answered : plane.roster with
    | error e =>
      rw [answered] at goesOn
      cases goesOn
    | ok roster =>
      rw [answered] at goesOn
      obtain rfl := Option.some.inj goesOn
      rfl
  | fetchingRules a info roster =>
    simp only [resumePull] at goesOn
    cases answered : plane.rules with
    | error e =>
      rw [answered] at goesOn
      cases goesOn
    | ok rules =>
      rw [answered] at goesOn
      cases goesOn

/-- The end of a window is the business of one activation. -/
theorem closeWindow_stays (a : Nat) (summary : PushSummary) :
    (∀ cycle, (coordinator.closeWindow registry a summary).1.cycle? = some cycle →
        cycle.activation = a) ∧
      ∀ b, b ≠ a → (coordinator.closeWindow registry a summary).2.scope b = registry.scope b := by
  have placed (scope : Scope) (b : Nat) (other : b ≠ a) :
      (registry.setScope a scope).scope b = registry.scope b := by
    rw [Registry.scope_setScope, if_neg (Ne.symm other)]
  unfold closeWindow
  dsimp only
  split
  · split
    · refine ⟨?_, fun _ _ => rfl⟩
      intro cycle goesOn
      obtain rfl := Option.some.inj goesOn
      rfl
    · exact ⟨fun _ goesOn => (by cases goesOn), placed _⟩
  · exact ⟨fun _ goesOn => (by cases goesOn), placed _⟩

theorem scope_deliver (a : Nat) (now : Timestamp) (drained : List TrafficEntry) {b : Nat}
    (other : b ≠ a) : (deliver registry a now drained).2.scope b = registry.scope b := by
  unfold deliver Registry.run
  exact (Registry.scope_setScope _ _ _).trans (if_neg (Ne.symm other))

/-- A push that begins works on the activation in force and stays with it. -/
theorem beginPush_stays (now : Timestamp) :
    (∀ cycle, (coordinator.beginPush registry now).1.cycle? = some cycle →
        registry.active.get? coordinator.scope = some cycle.activation) ∧
      ∀ b, registry.active.get? coordinator.scope ≠ some b →
        (coordinator.beginPush registry now).2.scope b = registry.scope b := by
  cases active : registry.active.get? coordinator.scope with
  | none =>
    have unknown : registry.find coordinator.scope = .error (.unknownScope coordinator.scope) := by
      rw [Registry.find, active]
    rw [beginPush, unknown]
    exact ⟨fun _ goesOn => (by cases goesOn), fun _ _ => rfl⟩
  | some a =>
    rw [beginPush, Registry.find_eq_ok_iff.2 active]
    dsimp only
    have drained (b : Nat) (other : b ≠ a) :
        (registry.run a Scope.drainTraffic).2.scope b = registry.scope b :=
      (Registry.scope_setScope _ _ _).trans (if_neg (Ne.symm other))
    have apart {b : Nat} (other : some a ≠ some b) : b ≠ a := fun same => other (same ▸ rfl)
    split
    · obtain ⟨stays, others⟩ :=
        @closeWindow_stays coordinator (registry.run a Scope.drainTraffic).2 a {}
      refine ⟨fun cycle goesOn => by rw [stays cycle goesOn], ?_⟩
      intro b other
      rw [others b (apart other), drained b (apart other)]
    · split
      · refine ⟨?_, fun b other => drained b (apart other)⟩
        intro cycle goesOn
        obtain rfl := Option.some.inj goesOn
        rfl
      · obtain ⟨stays, others⟩ := @closeWindow_stays coordinator
          (deliver (registry.run a Scope.drainTraffic).2 a now
            (registry.run a Scope.drainTraffic).1).2 a _
        refine ⟨fun cycle goesOn => by rw [stays cycle goesOn], ?_⟩
        intro b other
        rw [others b (apart other), scope_deliver a now _ (apart other), drained b (apart other)]

/-- A push that goes on works on the activation that it stays with. -/
theorem resumePush_stays (peers : Collaborators) (now : Timestamp) (cycle : PushCycle) :
    (∀ later, (coordinator.resumePush registry peers now cycle).1.cycle? = some later →
        later.activation = cycle.activation) ∧
      ∀ b, b ≠ cycle.activation →
        (coordinator.resumePush registry peers now cycle).2.scope b = registry.scope b := by
  have modified (f : Scope → Scope) (a b : Nat) (other : b ≠ a) :
      (registry.modify a f).scope b = registry.scope b := by
    rw [Registry.scope_modify, if_neg (Ne.symm other)]
  cases cycle with
  | reporting a drained =>
    simp only [resumePush, PushCycle.activation]
    cases peers.report with
    | ok =>
      obtain ⟨stays, others⟩ :=
        @closeWindow_stays coordinator (deliver registry a now drained).2 a _
      refine ⟨stays, fun b other => ?_⟩
      rw [others b other, scope_deliver a now drained other]
    | error e =>
      obtain ⟨stays, others⟩ := @closeWindow_stays coordinator
        (registry.modify a (·.creditTraffic drained)) a { reportFailed := true }
      refine ⟨stays, fun b other => ?_⟩
      rw [others b other, modified _ a b other]
  | syncing a online summary =>
    simp only [resumePush, PushCycle.activation]
    cases peers.sync online with
    | ok merged => exact ⟨fun _ goesOn => (by cases goesOn), modified _ a⟩
    | error e => exact ⟨fun _ goesOn => (by cases goesOn), modified _ a⟩

end Coordinator

/-- For each coordinator the activation that was in force when its latest cycle of either kind
began. -/
structure CycleOrigins where
  pulls : Nat → Option Nat := fun _ => none
  pushes : Nat → Option Nat := fun _ => none

/-- The activation in force for the scope of a coordinator. -/
def Node.activeFor (node : Node) (c : Nat) : Option Nat :=
  (node.coordinators.get? c).bind fun coordinator => node.registry.active.get? coordinator.scope

/-- The origins after an event. -/
def CycleOrigins.after (origins : CycleOrigins) (node : Node) : Event → CycleOrigins
  | .beginPull c => { origins with pulls := Function.update origins.pulls c (node.activeFor c) }
  | .beginPush c _ => { origins with pushes := Function.update origins.pushes c (node.activeFor c) }
  | _ => origins

/-- The activation under which that began through which an event works: the one of the lease or of
the state that is held, or the one in force when the cycle began. -/
def Event.origin? (node : Node) (origins : CycleOrigins) : Event → Option Nat
  | .acquire a _ _ | .operate a _ => some a
  | .drop lease => some lease.activation
  | .beginPull c | .beginPush c _ => node.activeFor c
  | .resumePull c _ | .beginChange c _ | .goOnChanging c => origins.pulls c
  | .resumePush c _ _ => origins.pushes c
  | _ => none

namespace Node

variable {node next : Node} {event : Event} {origins : CycleOrigins}

theorem pulls_settlePull (c c' : Nat) (result : Progress PullCycle Unit × Coordinator × Registry) :
    (node.settlePull c result).pulls.get? c' =
      if c = c' then result.1.cycle?.map .fetching else node.pulls.get? c' := by
  obtain ⟨progress, coordinator, registry⟩ := result
  cases progress with
  | calling cycle => exact Table.get?_insert _ _ _ _
  | finished result => exact Table.get?_erase _ _ _

theorem pushes_settlePush (c c' : Nat) (result : Progress PushCycle PushSummary × Registry) :
    (node.settlePush c result).pushes.get? c' =
      if c = c' then result.1.cycle? else node.pushes.get? c' := by
  obtain ⟨progress, registry⟩ := result
  cases progress with
  | calling cycle => exact Table.get?_insert _ _ _ _
  | finished result => exact Table.get?_erase _ _ _

/-- The cycles in flight carry the activations under which they began. -/
structure Agrees (node : Node) (origins : CycleOrigins) : Prop where
  pulls : ∀ c stage, node.pulls.get? c = some stage → origins.pulls c = some stage.activation
  pushes : ∀ c cycle, node.pushes.get? c = some cycle → origins.pushes c = some cycle.activation

theorem activeFor_of_found {c : Nat} {coordinator : Coordinator}
    (found : node.coordinators.get? c = some coordinator) :
    node.activeFor c = node.registry.active.get? coordinator.scope := by
  rw [activeFor, found, Option.bind_some]

/-- Pulls and pushes of a node that are those of another. -/
theorem Agrees.of_same (h : node.Agrees origins) (pulls : next.pulls = node.pulls)
    (pushes : next.pushes = node.pushes) : next.Agrees origins where
  pulls := pulls ▸ h.pulls
  pushes := pushes ▸ h.pushes

/-- A pull goes on, and stays with its activation. -/
theorem Agrees.insertPull (h : node.Agrees origins) {c : Nat} {stage later : PullStage}
    (flight : node.pulls.get? c = some stage) (stays : later.activation = stage.activation)
    {registry : Registry} {coordinators : Table Nat Coordinator} :
    Agrees { node with registry, coordinators, pulls := node.pulls.insert c later } origins where
  pulls c' stage' found := by
    have found' := (Table.get?_insert _ _ _ _).symm.trans found
    split at found'
    next same =>
      subst same
      obtain rfl := Option.some.inj found'
      rw [stays]
      exact h.pulls c stage flight
    next => exact h.pulls c' stage' found'
  pushes := h.pushes

theorem Agrees.settlePull (h : node.Agrees origins) {c : Nat}
    {result : Progress PullCycle Unit × Coordinator × Registry} {origin : Option Nat}
    (stays : ∀ cycle, result.1.cycle? = some cycle → origin = some cycle.activation) :
    (node.settlePull c result).Agrees
      { origins with pulls := Function.update origins.pulls c origin } where
  pulls c' stage found := by
    rw [pulls_settlePull] at found
    dsimp only
    split at found
    next same =>
      subst same
      obtain ⟨cycle, goesOn, rfl⟩ := Option.map_eq_some_iff.1 found
      rw [Function.update_self]
      exact stays cycle goesOn
    next other =>
      rw [Function.update_of_ne (Ne.symm other)]
      exact h.pulls c' stage found
  pushes c' cycle found := by
    obtain ⟨progress, coordinator, registry⟩ := result
    cases progress with
    | calling cycle => exact h.pushes c' _ found
    | finished result => exact h.pushes c' _ found

theorem Agrees.settlePush (h : node.Agrees origins) {c : Nat}
    {result : Progress PushCycle PushSummary × Registry} {origin : Option Nat}
    (stays : ∀ cycle, result.1.cycle? = some cycle → origin = some cycle.activation) :
    (node.settlePush c result).Agrees
      { origins with pushes := Function.update origins.pushes c origin } where
  pulls c' stage found := by
    rw [(settlePush_frame c result).2] at found
    exact h.pulls c' stage found
  pushes c' cycle found := by
    rw [pushes_settlePush] at found
    dsimp only
    split at found
    next same =>
      subst same
      rw [Function.update_self]
      exact stays cycle found
    next other =>
      rw [Function.update_of_ne (Ne.symm other)]
      exact h.pushes c' cycle found

theorem Agrees.step (h : node.Agrees origins) (step : node.Step event next) :
    next.Agrees (origins.after node event) := by
  cases step with
  | acquire known user ip =>
    refine h.of_same (acquire_frame _ user ip).2 ?_
    unfold Node.acquire
    split <;> rfl
  | @beginPull c coordinator found free =>
    refine h.settlePull ?_
    intro cycle goesOn
    rw [activeFor_of_found found]
    exact Coordinator.activation_beginPull goesOn
  | @resumePull c coordinator cycle found flight plane =>
    have settled := @Agrees.settlePull node origins h c
      (coordinator.resumePull node.registry plane cycle) (origins.pulls c) ?_
    · rwa [Function.update_eq_self] at settled
    · intro later goesOn
      rw [Coordinator.activation_resumePull goesOn]
      exact h.pulls c _ flight
  | @beginChange c coordinator a info roster rules plane found flight answered isOpen =>
    refine h.insertPull flight ?_
    rfl
  | @goOnChanging c coordinator change found flight =>
    unfold Node.goOnChanging
    split
    · refine h.insertPull flight ?_
      rfl
    · refine h.insertPull flight ?_
      rfl
    · have settled := @Agrees.settlePull node origins h c
        (({ coordinator with roster := change.roster }.endPull (.ok ())).1,
          ({ coordinator with roster := change.roster }.endPull (.ok ())).2,
          node.registry.modify change.activation (Coordinator.applyRules · change.rules))
        (origins.pulls c) ?_
      · rwa [Function.update_eq_self] at settled
      · intro later goesOn
        cases goesOn
  | @beginPush c coordinator found free now =>
    refine h.settlePush ?_
    rw [activeFor_of_found found]
    exact (Coordinator.beginPush_stays now).1
  | @resumePush c coordinator cycle found flight peers now =>
    have settled := @Agrees.settlePush node origins h c
      (coordinator.resumePush node.registry peers now cycle) (origins.pushes c) ?_
    · rwa [Function.update_eq_self] at settled
    · intro later goesOn
      rw [(Coordinator.resumePush_stays peers now cycle).1 later goesOn]
      exact h.pushes c cycle flight
  | _ => exact h.of_same rfl rfl

/-- What works through one activation leaves all others as they are. -/
theorem Step.scope_of_origin (step : node.Step event next) (agrees : node.Agrees origins) {a b : Nat}
    (origin : event.origin? node origins = some a) (other : b ≠ a) :
    next.scope b = node.scope b := by
  have modified (f : Scope → Scope) (a' : Nat) (same : a' = a) :
      (node.registry.modify a' f).scope b = node.registry.scope b := by
    rw [Registry.scope_modify, if_neg]
    rintro rfl
    exact other same
  -- A pull may do its work on its own activation only.
  have pulled {c : Nat} {stage : PullStage} (flight : node.pulls.get? c = some stage)
      (begun : origins.pulls c = some a) (still : event.isLifecycle = false)
      (works : ∀ operation, event.mayPerform node b operation →
        (node.pulls.get? c).map (·.activation) = some b) : next.scope b = node.scope b := by
    obtain ⟨operations, after, fits⟩ := (step.evolves still).scope b
    cases operations with
    | nil => exact after
    | cons operation rest =>
      have here := works operation (fits operation List.mem_cons_self)
      rw [flight, Option.map_some, Option.some.injEq] at here
      rw [agrees.pulls c stage flight, Option.some.injEq] at begun
      exact absurd (here.symm.trans begun) other
  cases step with
  | activate name config => cases origin
  | deactivate settled => cases origin
  | coordinate free created => cases origin
  | @acquire a' known user ip =>
    show (node.acquire a' user ip).registry.scope b = _
    rw [registry_acquire]
    exact modified _ a' (Option.some.inj origin)
  | @drop lease held => exact modified _ lease.activation (Option.some.inj origin)
  | @operate a' operation known settled => exact modified _ a' (Option.some.inj origin)
  | @beginPull c coordinator found free =>
    show (node.settlePull c _).registry.scope b = _
    rw [registry_settlePull]
    rfl
  | resumePull found flight plane => exact pulled flight origin rfl fun _ may => may.2
  | beginChange found flight answered isOpen => exact pulled flight origin rfl fun _ may => may.2
  | goOnChanging found flight => exact pulled flight origin rfl fun _ may => may.2
  | @beginPush c coordinator found free now =>
    show (node.settlePush c _).registry.scope b = _
    rw [registry_settlePush]
    refine (Coordinator.beginPush_stays now).2 b ?_
    intro active
    have begun : node.activeFor c = some a := origin
    rw [activeFor_of_found found, active, Option.some.injEq] at begun
    exact other begun
  | @resumePush c coordinator cycle found flight peers now =>
    show (node.settlePush c _).registry.scope b = _
    rw [registry_settlePush]
    refine (Coordinator.resumePush_stays peers now cycle).2 b ?_
    intro here
    have begun : origins.pushes c = some a := origin
    rw [agrees.pushes c cycle flight, Option.some.injEq] at begun
    exact other (here.trans begun)

end Node

end Tollgate
