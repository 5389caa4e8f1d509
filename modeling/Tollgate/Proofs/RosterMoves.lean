import Tollgate.Proofs.Steps

/-!
# Rosters as a coordinator changes them

A coordinator compares a roster that it fetched with the one that it remembers, and then takes users
away and puts users in, all at once or with other steps in between. Seen from the scope that is the
same: `RosterView` is what is left of a change, the roster that it leads to and the scope, and
`RosterView.Move` is what happens to them.

`Node.WorksOn.step` says that every step of a node is such moves, as long as the activation lasts and
nobody else changes its roster. What the moves keep holds on all runs then.
-/

namespace Tollgate

/-! ### Moves -/

/-- What is left to remove and to add, the roster that this leads to, and the scope. Where no change
is under way, nothing is left. -/
structure RosterView where
  removed : List RosterUser
  added : List RosterUser
  roster : List RosterUser
  scope : Scope

namespace RosterView

/-- The view of a scope in which no change is under way. -/
def settled (roster : List RosterUser) (scope : Scope) : RosterView := ⟨[], [], roster, scope⟩

/-- What happens to a roster and its scope. Which rosters may follow each other is left open. -/
inductive Move (may : List RosterUser → List RosterUser → Prop) : RosterView → RosterView → Prop
  /-- No caps of the roster are lost. -/
  | keep {view : RosterView} {after : Scope}
    (kept : ∀ id caps, view.scope.standing? id = some caps → after.standing? id = some caps) :
    Move may view { view with scope := after }
  /-- A change begins. -/
  | begin {old new : List RosterUser} {scope : Scope} (follows : may old new) :
    Move may (.settled old scope)
      ⟨(RosterDiff.between old new).removed, (RosterDiff.between old new).added, new, scope⟩
  /-- The next user is taken away. -/
  | remove {user : RosterUser} {removed added roster : List RosterUser} {scope : Scope} :
    Move may ⟨user :: removed, added, roster, scope⟩
      ⟨removed, added, roster, scope.removeUser user.id⟩
  /-- The next user is put in, when none is left to be taken away. -/
  | insert {user : RosterUser} {added roster : List RosterUser} {scope : Scope} :
    Move may ⟨[], user :: added, roster, scope⟩ ⟨[], added, roster, scope.insertUser user⟩

/-- Moves in a row. -/
def Moves (may : List RosterUser → List RosterUser → Prop) : RosterView → RosterView → Prop :=
  Relation.ReflTransGen (Move may)

variable {may : List RosterUser → List RosterUser → Prop} {view : RosterView} {scope : Scope}

/-- A change without a break gets to its end. -/
theorem moves_pieces (diff : RosterDiff) (roster : List RosterUser) :
    Moves may ⟨diff.removed, diff.added, roster, scope⟩
      (.settled roster (scope.performAll diff.pieces)) := by
  obtain ⟨added, removed⟩ := diff
  induction removed generalizing scope with
  | cons user rest ih => exact .head .remove ih
  | nil =>
    induction added generalizing scope with
    | cons user rest ih => exact .head .insert ih
    | nil => exact .refl

theorem moves_keep {after : Scope} (same : ∀ id, after.standing? id = view.scope.standing? id) :
    Moves may view { view with scope := after } :=
  .single (.keep fun id _ known => (same id).trans known)

end RosterView

/-! ### What a pull takes over -/

namespace Coordinator

variable {coordinator : Coordinator} {scope : Scope}
  {may : List RosterUser → List RosterUser → Prop}

@[simp] theorem standing?_applyNode (info : Option NodeInfo) (id : UInt64) :
    (coordinator.applyNode scope info).2.standing? id = scope.standing? id := by
  cases info <;> rfl

@[simp] theorem standing?_applyRules (rules : Option RuleSet) (id : UInt64) :
    (applyRules scope rules).standing? id = scope.standing? id := by
  cases rules <;> rfl

theorem moves_applyNode (info : Option NodeInfo) :
    RosterView.Moves may (.settled coordinator.roster scope)
      (.settled (coordinator.applyNode scope info).1.roster (coordinator.applyNode scope info).2) := by
  rw [(applyNode_keeps info).1]
  exact RosterView.moves_keep (standing?_applyNode info)

/-- A roster is taken over whole, or the one before stays. -/
theorem moves_applyRoster {roster : Option (List RosterUser)}
    (follows : ∀ users, roster = some users → may coordinator.roster users) :
    RosterView.Moves may (.settled coordinator.roster scope)
        (.settled (coordinator.applyRoster scope roster).2.1.roster
          (coordinator.applyRoster scope roster).2.2) ∧
      (coordinator.applyRoster scope roster).2.1.scope = coordinator.scope := by
  cases roster with
  | none => exact ⟨.refl, rfl⟩
  | some users =>
    by_cases taken : (RosterDiff.between coordinator.roster users).isEmpty = true ∨
        scope.isOpen = true
    · rw [applyRoster_of_taken taken]
      exact ⟨.head (.begin (follows users rfl)) (RosterView.moves_pieces _ _), rfl⟩
    · simp only [not_or, Bool.not_eq_true] at taken
      rw [applyRoster_of_refused taken.1 taken.2]
      exact ⟨.refl, rfl⟩

theorem moves_applyFetched {fetched : Fetched}
    (follows : ∀ users, fetched.roster = some users → may coordinator.roster users) :
    RosterView.Moves may (.settled coordinator.roster scope)
        (.settled (coordinator.applyFetched scope fetched).2.1.roster
          (coordinator.applyFetched scope fetched).2.2) ∧
      (coordinator.applyFetched scope fetched).2.1.scope = coordinator.scope := by
  obtain ⟨roster, same⟩ := @applyNode_keeps coordinator scope fetched.node
  have first := @moves_applyNode coordinator scope may fetched.node
  obtain ⟨second, same'⟩ := @moves_applyRoster (coordinator.applyNode scope fetched.node).1
    (coordinator.applyNode scope fetched.node).2 may fetched.roster
    (fun users listed => roster ▸ follows users listed)
  have both := first.trans second
  unfold applyFetched
  dsimp only
  split
  next refused =>
    rw [refused] at both same'
    exact ⟨both, same'.trans same⟩
  next taken =>
    rw [taken] at both same'
    exact ⟨both.trans (RosterView.moves_keep (standing?_applyRules fetched.rules)),
      same'.trans same⟩

end Coordinator

/-! ### Steps of a node -/

/-- Whether an event is part of a pull of a coordinator. -/
def Event.isPullOf (c : Nat) : Event → Bool
  | .beginPull c' | .resumePull c' _ | .beginChange c' _ | .goOnChanging c' => c' = c
  | _ => false

/-- Steps on which an activation lasts and nobody but one coordinator changes its roster. -/
structure SoleOwner (c a : Nat) (node : Node) (event : Event) (next : Node) : Prop where
  lasting : ∀ name, event = .deactivate name → node.registry.active.get? name ≠ some a
  direct : ∀ operation, event = .operate a operation → operation.changesRoster = false
  others : ∀ c', c' ≠ c → event.isPullOf c' = true →
    (node.scope a).Evolves (·.changesRoster = false) (next.scope a)

/-- A coordinator does not get in its own way. -/
theorem SoleOwner.of_isPullOf {c a : Nat} {node next : Node} {event : Event}
    (own : event.isPullOf c = true) : SoleOwner c a node event next where
  lasting := by
    rintro name rfl
    cases own
  direct := by
    rintro operation rfl
    cases own
  others c' other foreign := by
    cases event <;> simp_all [Event.isPullOf]

namespace Node

/-- The roster of an activation as its coordinator sees it. -/
def rosterView (node : Node) (c a : Nat) (coordinator : Coordinator) : RosterView :=
  match node.pulls.get? c with
  | some (.changing change) => ⟨change.removed, change.added, change.roster, node.scope a⟩
  | _ => .settled coordinator.roster (node.scope a)

/-- A coordinator whose scope is active under an activation, to which its pull keeps. -/
structure WorksOn (node : Node) (c a : Nat) (coordinator : Coordinator) : Prop where
  known : a < node.registry.nextActivation
  found : node.coordinators.get? c = some coordinator
  active : node.registry.active.get? coordinator.scope = some a
  here : ∀ stage, node.pulls.get? c = some stage → stage.activation = a

/-- The event answers the last fetch of a coordinator, which takes over the roster then that it was
told before. -/
def TakesOver (node : Node) (c : Nat) (event : Event) (roster : List RosterUser) : Prop :=
  ∃ (plane : Collaborators) (rules : Option RuleSet) (a : Nat) (info : Option NodeInfo),
    (event = .resumePull c plane ∨ event = .beginChange c plane) ∧ plane.rules = .ok rules ∧
      node.pulls.get? c = some (.fetching (.fetchingRules a info (some roster)))

variable {node next : Node} {event : Event} {c a : Nat} {coordinator : Coordinator}
  {may : List RosterUser → List RosterUser → Prop}

theorem rosterView_of_changing {change : RosterChange}
    (flight : node.pulls.get? c = some (.changing change)) :
    node.rosterView c a coordinator =
      ⟨change.removed, change.added, change.roster, node.scope a⟩ := by
  rw [rosterView, flight]

theorem rosterView_of_unchanging
    (unchanging : ∀ change, node.pulls.get? c ≠ some (.changing change)) :
    node.rosterView c a coordinator = .settled coordinator.roster (node.scope a) := by
  unfold rosterView
  split
  next change flight => exact absurd flight (unchanging change)
  next => rfl

theorem rosterView_of_fetching {cycle : PullCycle}
    (flight : node.pulls.get? c = some (.fetching cycle)) :
    node.rosterView c a coordinator = .settled coordinator.roster (node.scope a) := by
  rw [rosterView, flight]

theorem rosterView_of_free (free : node.pulls.get? c = none) :
    node.rosterView c a coordinator = .settled coordinator.roster (node.scope a) := by
  rw [rosterView, free]

theorem rosterView_settlePull (progress : Progress PullCycle Unit) (registry : Registry) :
    (node.settlePull c (progress, coordinator, registry)).rosterView c a coordinator =
      .settled coordinator.roster (registry.scope a) := by
  cases progress with
  | calling cycle => exact rosterView_of_fetching (Table.get?_insert_self _ _ _)
  | finished result => exact rosterView_of_free (Table.get?_erase_self _ _)

/-! ### What others do -/

theorem settlePull_of_ne {c' : Nat} (other : c' ≠ c)
    (result : Progress PullCycle Unit × Coordinator × Registry) :
    (node.settlePull c' result).coordinators.get? c = node.coordinators.get? c ∧
      (node.settlePull c' result).pulls.get? c = node.pulls.get? c := by
  obtain ⟨progress, coordinator, registry⟩ := result
  cases progress with
  | calling cycle =>
    exact ⟨Table.get?_insert_of_ne _ other _, Table.get?_insert_of_ne _ other _⟩
  | finished result =>
    exact ⟨Table.get?_insert_of_ne _ other _, Table.get?_erase_of_ne _ other⟩

theorem settlePush_frame (c' : Nat) (result : Progress PushCycle PushSummary × Registry) :
    (node.settlePush c' result).coordinators = node.coordinators ∧
      (node.settlePush c' result).pulls = node.pulls := by
  obtain ⟨progress, registry⟩ := result
  cases progress with
  | calling cycle => exact ⟨rfl, rfl⟩
  | finished result => exact ⟨rfl, rfl⟩

theorem acquire_frame (b : Nat) (user : UInt64) (ip : IpAddr) :
    (node.acquire b user ip).coordinators = node.coordinators ∧
      (node.acquire b user ip).pulls = node.pulls := by
  unfold acquire
  split
  · exact ⟨rfl, rfl⟩
  · exact ⟨rfl, rfl⟩

/-- A coordinator and its pull change by its own pulls only. -/
theorem Step.frame (step : node.Step event next) (other : event.isPullOf c = false)
    (found : node.coordinators.get? c = some coordinator) :
    next.coordinators.get? c = some coordinator ∧
      next.pulls.get? c = node.pulls.get? c := by
  cases step with
  | acquire known user ip =>
    obtain ⟨coordinators, pulls⟩ := @acquire_frame node _ user ip
    rw [coordinators, pulls]
    exact ⟨found, rfl⟩
  | @coordinate c' scope config hasRecorder hasReporter created free =>
    have apart : c' ≠ c := by
      rintro rfl
      rw [found] at free
      cases free
    exact ⟨(Table.get?_insert_of_ne _ apart _).trans found, rfl⟩
  | beginPull found' free =>
    have apart := of_decide_eq_false other
    obtain ⟨coordinators, pulls⟩ := settlePull_of_ne apart _
    exact ⟨coordinators.trans found, pulls⟩
  | resumePull found' flight plane =>
    have apart := of_decide_eq_false other
    obtain ⟨coordinators, pulls⟩ := settlePull_of_ne apart _
    exact ⟨coordinators.trans found, pulls⟩
  | beginChange found' flight answered isOpen =>
    have apart := of_decide_eq_false other
    exact ⟨(Table.get?_insert_of_ne _ apart _).trans found, Table.get?_insert_of_ne _ apart _⟩
  | goOnChanging found' flight =>
    have apart := of_decide_eq_false other
    unfold Node.goOnChanging
    split
    · exact ⟨found, Table.get?_insert_of_ne _ apart _⟩
    · exact ⟨found, Table.get?_insert_of_ne _ apart _⟩
    · obtain ⟨coordinators, pulls⟩ := settlePull_of_ne apart _
      exact ⟨coordinators.trans found, pulls⟩
  | beginPush found' free now =>
    obtain ⟨coordinators, pulls⟩ := settlePush_frame _ _
    rw [coordinators, pulls]
    exact ⟨found, rfl⟩
  | resumePush found' flight peers now =>
    obtain ⟨coordinators, pulls⟩ := settlePush_frame _ _
    rw [coordinators, pulls]
    exact ⟨found, rfl⟩
  | _ => exact ⟨found, rfl⟩

/-- Whatever is not a change of the roster leaves the caps of the roster as they are. -/
theorem standing?_of_evolves {after : Scope}
    (evolves : (node.scope a).Evolves (·.changesRoster = false) after) (id : UInt64)
    (caps : UInt64 × UInt32) (known : (node.scope a).standing? id = some caps) :
    after.standing? id = some caps := by
  obtain ⟨operations, rfl, still⟩ := evolves
  exact Scope.performAll_induction (motive := fun s => s.standing? id = some caps) known
    fun _ operation member known => Scope.standing?_perform (still operation member) known

/-- Steps that are no part of the coordinator's pull do not change the roster of its scope. -/
theorem Step.roster_kept (step : node.Step event next) (allowed : SoleOwner c a node event next)
    (other : event.isPullOf c = false) (known : a < node.registry.nextActivation) :
    (node.scope a).Evolves (·.changesRoster = false) (next.scope a) := by
  have foreign (still : event.isLifecycle = false)
      (works : ∀ operation, event.mayPerform node a operation → operation.changesRoster = false) :
      (node.scope a).Evolves (·.changesRoster = false) (next.scope a) := by
    obtain ⟨operations, after, fits⟩ := (step.evolves still).scope a
    exact ⟨operations, after, fun operation member => works operation (fits operation member)⟩
  have pushing (operation : Operation) (work : operation.isPushWork = true) :
      operation.changesRoster = false := by
    cases operation <;> first | rfl | cases work
  cases step with
  | activate name config =>
    rcases Registry.scope_activate name config a with same | ⟨fresh, -⟩
    · exact ⟨[], same, fun _ member => nomatch member⟩
    · omega
  | @deactivate name settled =>
    have after := @Registry.scope_deactivate node.registry name a
    rw [if_neg (allowed.lasting name rfl)] at after
    exact ⟨[], after, fun _ member => nomatch member⟩
  | acquire known user ip =>
    refine foreign rfl ?_
    rintro operation ⟨-, rfl⟩
    rfl
  | drop held =>
    refine foreign rfl ?_
    rintro operation ⟨-, rfl⟩
    rfl
  | operate known settled =>
    refine foreign rfl ?_
    rintro operation ⟨rfl, rfl⟩
    exact allowed.direct operation rfl
  | coordinate free created => exact foreign rfl fun _ may => nomatch may
  | @beginPull c' _ found free =>
    exact allowed.others c' (of_decide_eq_false other) (decide_eq_true rfl)
  | @resumePull c' _ cycle found flight plane =>
    exact allowed.others c' (of_decide_eq_false other) (decide_eq_true rfl)
  | @beginChange c' _ _ _ _ _ _ found flight answered isOpen =>
    exact allowed.others c' (of_decide_eq_false other) (decide_eq_true rfl)
  | @goOnChanging c' _ change found flight =>
    exact allowed.others c' (of_decide_eq_false other) (decide_eq_true rfl)
  | beginPush found free now => exact foreign rfl pushing
  | resumePush found flight peers now => exact foreign rfl pushing

/-- What others do is no change of the roster. -/
theorem WorksOn.of_others (h : node.WorksOn c a coordinator) (step : node.Step event next)
    (allowed : SoleOwner c a node event next) (other : event.isPullOf c = false) :
    next.WorksOn c a coordinator ∧
      RosterView.Moves may (node.rosterView c a coordinator) (next.rosterView c a coordinator) := by
  obtain ⟨found, pulls⟩ := step.frame other h.found
  have kept := standing?_of_evolves (step.roster_kept allowed other h.known)
  refine ⟨⟨Nat.lt_of_lt_of_le h.known step.nextActivation_le, found,
    step.active_of_lasting h.active allowed.lasting, ?_⟩, ?_⟩
  · rw [pulls]
    exact h.here
  · rw [rosterView, rosterView, pulls]
    split
    · exact .single (.keep kept)
    · exact .single (.keep kept)

/-! ### What the coordinator's own pulls do -/

/-- A pull that has come so far. -/
theorem worksOn_settlePull {progress : Progress PullCycle Unit} {registry : Registry}
    (known : a < registry.nextActivation) (active : registry.active.get? coordinator.scope = some a)
    (flight : ∀ cycle, progress = .calling cycle → cycle.activation = a) :
    (node.settlePull c (progress, coordinator, registry)).WorksOn c a coordinator := by
  cases progress with
  | calling cycle =>
    refine ⟨known, Table.get?_insert_self _ _ _, active, fun stage at' => ?_⟩
    obtain rfl : PullStage.fetching cycle = stage :=
      Option.some.inj ((Table.get?_insert_self _ _ _).symm.trans at')
    exact flight cycle rfl
  | finished result =>
    refine ⟨known, Table.get?_insert_self _ _ _, active, fun stage at' => ?_⟩
    cases (Table.get?_erase_self _ _).symm.trans at'

/-- A pull that has come so far, with the moves that got it there. -/
theorem exists_settlePull {view : RosterView} {progress : Progress PullCycle Unit}
    {registry : Registry} (known : a < registry.nextActivation)
    (active : registry.active.get? coordinator.scope = some a)
    (flight : ∀ cycle, progress = .calling cycle → cycle.activation = a)
    (moves : RosterView.Moves may view (.settled coordinator.roster (registry.scope a))) :
    ∃ later, (node.settlePull c (progress, coordinator, registry)).WorksOn c a later ∧
      RosterView.Moves may view
        ((node.settlePull c (progress, coordinator, registry)).rosterView c a later) := by
  refine ⟨coordinator, worksOn_settlePull known active flight, ?_⟩
  rw [rosterView_settlePull]
  exact moves

/-- A pull that is over. -/
theorem exists_settled {view : RosterView} {result : Except Error Unit} {registry : Registry}
    (known : a < registry.nextActivation) (active : registry.active.get? coordinator.scope = some a)
    (moves : RosterView.Moves may view (.settled coordinator.roster (registry.scope a))) :
    ∃ later, (node.settlePull c (.finished result, coordinator, registry)).WorksOn c a later ∧
      RosterView.Moves may view
        ((node.settlePull c (.finished result, coordinator, registry)).rosterView c a later) := by
  refine exists_settlePull known active ?_ moves
  rintro _ ⟨⟩

theorem WorksOn.beginPull (h : node.WorksOn c a coordinator) (free : node.pulls.get? c = none) :
    ∃ later, (node.settlePull c ((coordinator.beginPull node.registry).1,
        (coordinator.beginPull node.registry).2, node.registry)).WorksOn c a later ∧
      RosterView.Moves may (node.rosterView c a coordinator)
        ((node.settlePull c ((coordinator.beginPull node.registry).1,
          (coordinator.beginPull node.registry).2, node.registry)).rosterView c a later) := by
  have begun : coordinator.beginPull node.registry =
      (.calling (.fetchingNode a), { coordinator with phase := .fetching }) := by
    simp [Coordinator.beginPull, Registry.find_eq_ok_iff.2 h.active]
  rw [begun, rosterView_of_free free]
  refine exists_settlePull h.known h.active ?_ .refl
  rintro _ ⟨⟩
  rfl

theorem WorksOn.resumePull (h : node.WorksOn c a coordinator) {cycle : PullCycle}
    (flight : node.pulls.get? c = some (.fetching cycle)) {plane : Collaborators}
    (follows : ∀ rules b info roster, plane.rules = .ok rules →
      cycle = .fetchingRules b info (some roster) → may coordinator.roster roster) :
    ∃ later, (node.settlePull c
        (coordinator.resumePull node.registry plane cycle)).WorksOn c a later ∧
      RosterView.Moves may (node.rosterView c a coordinator)
        ((node.settlePull c
          (coordinator.resumePull node.registry plane cycle)).rosterView c a later) := by
  have here : cycle.activation = a := h.here _ flight
  rw [rosterView_of_fetching flight]
  have failed (e : Error) := @exists_settled node c a { coordinator with phase := .idle } may
    (.settled coordinator.roster (node.scope a)) (.error e) node.registry h.known h.active .refl
  cases cycle with
  | fetchingNode activation =>
    simp only [Coordinator.resumePull]
    cases plane.node with
    | error e => exact failed e
    | ok info =>
      refine exists_settlePull h.known h.active ?_ .refl
      rintro _ ⟨⟩
      exact here
  | fetchingRoster activation info =>
    simp only [Coordinator.resumePull]
    cases plane.roster with
    | error e => exact failed e
    | ok roster =>
      refine exists_settlePull h.known h.active ?_ .refl
      rintro _ ⟨⟩
      exact here
  | fetchingRules activation info roster =>
    obtain rfl : activation = a := here
    simp only [Coordinator.resumePull]
    cases answered : plane.rules with
    | error e => exact failed e
    | ok rules =>
      obtain ⟨moves, same⟩ := @Coordinator.moves_applyFetched coordinator (node.scope activation)
        may { node := info, roster, rules } fun users listed =>
          follows rules activation info users answered
            (congrArg (PullCycle.fetchingRules activation info) listed)
      generalize applied : coordinator.applyFetched (node.scope activation)
        { node := info, roster, rules } = outcome at moves same
      obtain ⟨result, later, scope⟩ := outcome
      have applied' : coordinator.applyFetched (node.registry.scope activation)
        { node := info, roster, rules } = (result, later, scope) := applied
      dsimp only
      rw [applied']
      refine @exists_settled node c activation { later with phase := .idle } may _ result _ h.known
        ?_ ?_
      · show node.registry.active.get? later.scope = some activation
        rw [same]
        exact h.active
      · rw [Registry.scope_setScope, if_pos rfl]
        exact moves

theorem WorksOn.beginChange (h : node.WorksOn c a coordinator) {b : Nat} {info : Option NodeInfo}
    {roster : List RosterUser} {rules : Option RuleSet}
    (flight : node.pulls.get? c = some (.fetching (.fetchingRules b info (some roster))))
    (follows : may coordinator.roster roster) :
    ∃ later, (node.beginChange c coordinator b info roster rules).WorksOn c a later ∧
      RosterView.Moves may (node.rosterView c a coordinator)
        ((node.beginChange c coordinator b info roster rules).rosterView c a later) := by
  obtain rfl : b = a := h.here _ flight
  obtain ⟨same_roster, same_scope⟩ := @Coordinator.applyNode_keeps coordinator (node.scope b) info
  refine ⟨(coordinator.applyNode (node.scope b) info).1, ⟨h.known,
    Table.get?_insert_self _ _ _, ?_, ?_⟩, ?_⟩
  · rw [same_scope]
    exact h.active
  · intro stage at'
    obtain rfl := Option.some.inj ((Table.get?_insert_self _ _ _).symm.trans at')
    rfl
  · have placed : (node.beginChange c coordinator b info roster rules).scope b =
        (coordinator.applyNode (node.scope b) info).2 := by
      show (node.registry.setScope b _).scope b = _
      rw [Registry.scope_setScope, if_pos rfl]
      rfl
    rw [rosterView_of_fetching flight,
      rosterView_of_changing (Table.get?_insert_self _ _ _), placed]
    refine (Coordinator.moves_applyNode info).tail ?_
    rw [same_roster]
    exact .begin follows

theorem WorksOn.goOnChanging (h : node.WorksOn c a coordinator) {change : RosterChange}
    (flight : node.pulls.get? c = some (.changing change)) :
    ∃ later, (node.goOnChanging c coordinator change).WorksOn c a later ∧
      RosterView.Moves may (node.rosterView c a coordinator)
        ((node.goOnChanging c coordinator change).rosterView c a later) := by
  obtain ⟨activation, removed, added, roster, rules⟩ := change
  obtain rfl : activation = a := h.here _ flight
  have modified (f : Scope → Scope) :
      (node.registry.modify activation f).scope activation = f (node.scope activation) := by
    rw [Registry.scope_modify, if_pos rfl]
    rfl
  -- a change that is not at its end yet
  have goesOn {f : Scope → Scope} {removed' added' : List RosterUser}
      (move : RosterView.Move may ⟨removed, added, roster, node.scope activation⟩
        ⟨removed', added', roster, f (node.scope activation)⟩) :
      let after : Node := { node with
        registry := node.registry.modify activation f
        pulls := node.pulls.insert c (.changing ⟨activation, removed', added', roster, rules⟩) }
      after.WorksOn c activation coordinator ∧
        RosterView.Moves may (node.rosterView c activation coordinator)
          (after.rosterView c activation coordinator) := by
    refine ⟨⟨h.known, h.found, h.active, fun stage at' => ?_⟩, ?_⟩
    · obtain rfl := Option.some.inj ((Table.get?_insert_self _ _ _).symm.trans at')
      rfl
    · rw [rosterView_of_changing flight, rosterView_of_changing (Table.get?_insert_self _ _ _), scope,
        scope, modified]
      exact .single move
  cases removed with
  | cons user rest => exact ⟨coordinator, goesOn .remove⟩
  | nil =>
    cases added with
    | cons user rest => exact ⟨coordinator, goesOn .insert⟩
    | nil =>
      rw [rosterView_of_changing flight]
      refine @exists_settled node c activation { coordinator with roster, phase := .idle } may _
        (.ok ()) _ h.known h.active ?_
      rw [modified]
      exact RosterView.moves_keep (Coordinator.standing?_applyRules rules)

/-- Every step is moves of the roster. A change begins where the coordinator takes over a roster that
it has fetched. -/
theorem WorksOn.step (h : node.WorksOn c a coordinator) (step : node.Step event next)
    (allowed : SoleOwner c a node event next)
    (follows : ∀ roster, node.TakesOver c event roster → may coordinator.roster roster) :
    ∃ later, next.WorksOn c a later ∧
      RosterView.Moves may (node.rosterView c a coordinator) (next.rosterView c a later) := by
  by_cases own : event.isPullOf c = true
  · cases step with
    | @beginPull c' coordinator' found free =>
      obtain rfl := of_decide_eq_true own
      obtain rfl := Option.some.inj (h.found.symm.trans found)
      exact h.beginPull free
    | @resumePull c' coordinator' cycle found flight plane =>
      obtain rfl := of_decide_eq_true own
      obtain rfl := Option.some.inj (h.found.symm.trans found)
      refine h.resumePull flight ?_
      rintro rules b info roster answered rfl
      exact follows roster ⟨plane, rules, b, info, Or.inl rfl, answered, flight⟩
    | @beginChange c' coordinator' b info roster rules plane found flight answered isOpen =>
      obtain rfl := of_decide_eq_true own
      obtain rfl := Option.some.inj (h.found.symm.trans found)
      exact h.beginChange flight
        (follows roster ⟨plane, rules, b, info, Or.inr rfl, answered, flight⟩)
    | @goOnChanging c' coordinator' change found flight =>
      obtain rfl := of_decide_eq_true own
      obtain rfl := Option.some.inj (h.found.symm.trans found)
      exact h.goOnChanging flight
    | _ => cases own
  · exact ⟨coordinator, h.of_others step allowed (Bool.not_eq_true _ ▸ own)⟩

end Node

end Tollgate
