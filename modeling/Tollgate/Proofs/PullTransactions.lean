import Tollgate.Proofs.PullSettings

/-!
# Pulls are transactions

A pull that fails at one of its fetches leaves no trace: the node is then what it would be without
the pull, with all that the data path has done in the meantime. `PullHistory` keeps that other node
next to a run, and while a pull fetches, the two differ by no more than the pull itself
(`Node.withPull`). A pull of which no call fails supplies its parts on top of those before.
-/

namespace Tollgate

/-! ### What a pull is told -/

/-- What a pull at one of its fetches has been told so far. -/
def PullCycle.told : PullCycle → Fetched
  | .fetchingNode _ => ⟨none, none, none⟩
  | .fetchingRoster _ node => ⟨node, none, none⟩
  | .fetchingRules _ node roster => ⟨node, roster, none⟩

/-- What has been told when the call of a pull returns, or the error of the call. -/
def Fetched.hear (told : Fetched) (plane : Collaborators) : Call → Except Error Fetched
  | .node => plane.node.map fun node => { told with node }
  | .roster => plane.roster.map fun roster => { told with roster }
  | .rules => plane.rules.map fun rules => { told with rules }
  | _ => .ok told

namespace Coordinator

variable {coordinator : Coordinator} {registry : Registry} {plane : Collaborators}
  {cycle : PullCycle}

/-- A pull ends at a call that fails. -/
theorem resumePull_of_failed {e : Error} (failed : cycle.told.hear plane cycle.call = .error e) :
    coordinator.resumePull registry plane cycle =
      (.finished (.error e), { coordinator with phase := .idle }, registry) := by
  cases cycle with
  | fetchingNode a =>
    cases answered : plane.node with
    | error e' =>
      simp only [Fetched.hear, PullCycle.call, answered, Except.map, Except.error.injEq] at failed
      simp only [resumePull, answered, endPull, failed]
    | ok info => simp [Fetched.hear, PullCycle.call, answered, Except.map] at failed
  | fetchingRoster a info =>
    cases answered : plane.roster with
    | error e' =>
      simp only [Fetched.hear, PullCycle.call, answered, Except.map, Except.error.injEq] at failed
      simp only [resumePull, answered, endPull, failed]
    | ok roster => simp [Fetched.hear, PullCycle.call, answered, Except.map] at failed
  | fetchingRules a info roster =>
    cases answered : plane.rules with
    | error e' =>
      simp only [Fetched.hear, PullCycle.call, answered, Except.map, Except.error.injEq] at failed
      simp only [resumePull, answered, endPull, failed]
    | ok rules => simp [Fetched.hear, PullCycle.call, answered, Except.map] at failed

/-- A pull that has more to fetch goes on to the next call. -/
theorem resumePull_of_heard {told : Fetched} (heard : cycle.told.hear plane cycle.call = .ok told)
    (more : cycle.call ≠ .rules) :
    ∃ later : PullCycle, later.told = told ∧ later.activation = cycle.activation ∧
      coordinator.resumePull registry plane cycle = (.calling later, coordinator, registry) := by
  cases cycle with
  | fetchingNode a =>
    cases answered : plane.node with
    | error e => simp [Fetched.hear, PullCycle.call, answered, Except.map] at heard
    | ok info =>
      simp only [Fetched.hear, PullCycle.call, answered, Except.map, Except.ok.injEq] at heard
      exact ⟨.fetchingRoster a info, heard, rfl, by simp only [resumePull, answered]⟩
  | fetchingRoster a info =>
    cases answered : plane.roster with
    | error e => simp [Fetched.hear, PullCycle.call, answered, Except.map] at heard
    | ok roster =>
      simp only [Fetched.hear, PullCycle.call, answered, Except.map, Except.ok.injEq] at heard
      exact ⟨.fetchingRules a info roster, heard, rfl, by simp only [resumePull, answered]⟩
  | fetchingRules a info roster => exact absurd rfl more

/-- A pull that has fetched everything takes it over. -/
theorem resumePull_of_told {told : Fetched} (heard : cycle.told.hear plane cycle.call = .ok told)
    (last : cycle.call = .rules) (isOpen : (registry.scope cycle.activation).isOpen = true) :
    ∃ after scope', coordinator.applyFetched (registry.scope cycle.activation) told =
        (.ok (), after, scope') ∧
      coordinator.resumePull registry plane cycle =
        (.finished (.ok ()), { after with phase := .idle },
          registry.setScope cycle.activation scope') := by
  cases cycle with
  | fetchingNode a => cases last
  | fetchingRoster a info => cases last
  | fetchingRules a info roster =>
    cases answered : plane.rules with
    | error e => simp [Fetched.hear, PullCycle.call, answered, Except.map] at heard
    | ok rules =>
      simp only [Fetched.hear, PullCycle.call, PullCycle.told, answered, Except.map,
        Except.ok.injEq] at heard
      subst heard
      obtain ⟨after, scope', applied, -⟩ := @settings_applyFetched coordinator _ isOpen
        { node := info, roster, rules }
      refine ⟨after, scope', applied, ?_⟩
      have applied' : coordinator.applyFetched (registry.scope a) { node := info, roster, rules } =
        (.ok (), after, scope') := applied
      simp only [resumePull, answered, applied', endPull]
      rfl

end Coordinator

/-! ### The node without a pull -/

namespace Event

/-- Whether the event belongs to the data path. -/
def isDataPath : Event → Bool
  | .acquire .. | .drop _ => true
  | .operate _ operation => operation.isDataPath
  | _ => false

end Event

namespace Node

variable {node next : Node} {event : Event}

/-- The node after an event of the data path. -/
def dataPath (node : Node) : Event → Node
  | .acquire a user ip => node.acquire a user ip
  | .drop lease => node.drop lease
  | .operate a operation => node.operate a operation
  | _ => node

theorem Step.eq_dataPath (step : node.Step event next) (ofPath : event.isDataPath = true) :
    next = node.dataPath event := by
  cases step with
  | acquire known user ip => rfl
  | drop held => rfl
  | operate known settled => rfl
  | _ => cases ofPath

/-- The data path knows nothing of coordinators and their pulls. -/
theorem dataPath_withPull (c : Nat) (now : Coordinator) (cycle : PullCycle) (event : Event) :
    (node.withPull c now cycle).dataPath event = (node.dataPath event).withPull c now cycle := by
  cases event with
  | acquire a user ip =>
    have same : (node.withPull c now cycle).registry = node.registry := rfl
    simp only [dataPath, acquire, same]
    split
    · rfl
    · rfl
  | _ => rfl

/-- The data path touches neither coordinators nor pulls, and sets nothing in any scope. -/
theorem dataPath_frame (ofPath : event.isDataPath = true) :
    (node.dataPath event).coordinators = node.coordinators ∧
      (node.dataPath event).pulls = node.pulls ∧
      (node.dataPath event).registry.active = node.registry.active ∧
      ∀ a, (node.scope a).SameSettings ((node.dataPath event).scope a) := by
  have placed {operation : Operation} (ofPath : operation.isDataPath = true) (a b : Nat) :
      (node.registry.scope a).SameSettings
        ((node.registry.modify b (·.perform operation)).scope a) := by
    rw [Registry.scope_modify]
    split
    · exact Scope.sameSettings_perform ofPath
    · exact .refl
  cases event with
  | acquire b user ip =>
    obtain ⟨coordinators, pulls⟩ := @acquire_frame node b user ip
    have registry := @registry_acquire node b user ip
    refine ⟨coordinators, pulls, ?_, fun a => ?_⟩
    · show (node.acquire b user ip).registry.active = _
      rw [registry]
      rfl
    · show (node.scope a).SameSettings ((node.acquire b user ip).registry.scope a)
      rw [registry]
      exact placed rfl a b
  | drop lease =>
    exact ⟨rfl, rfl, rfl, fun a => @placed (.release ..) rfl a lease.activation⟩
  | operate b operation => exact ⟨rfl, rfl, rfl, fun a => placed ofPath a b⟩
  | _ => cases ofPath

end Node

/-- What has become of the pulls of a coordinator. -/
structure PullHistory where
  /-- The node without the latest pull: as it was when that began, with what the data path has done
  since. -/
  without : Node
  /-- What the latest pull has been told. -/
  told : Fetched := ⟨none, none, none⟩
  /-- What was told to each pull of which no call failed. -/
  taken : List Fetched := []

namespace PullHistory

/-- The history after a call of the latest pull has returned. -/
def hear (history : PullHistory) (plane : Collaborators) (call : Call) : PullHistory :=
  match history.told.hear plane call with
  | .error _ => history
  | .ok told =>
    { history with
      told
      taken := if call = .rules then history.taken ++ [told] else history.taken }

/-- The history after an event. -/
def after (history : PullHistory) (node : Node) : Event → PullHistory
  | .beginPull _ => { history with without := node, told := ⟨none, none, none⟩ }
  | .resumePull c plane | .beginChange c plane =>
    match node.pulls.get? c with
    | some (.fetching cycle) => history.hear plane cycle.call
    | _ => history
  | event => { history with without := history.without.dataPath event }

end PullHistory

/-- A run of the pulls of a coordinator and of the data path, with the history of the pulls. -/
def Node.PullRun (c : Nat) : Node × PullHistory → Node × PullHistory → Prop :=
  Relation.ReflTransGen fun before after =>
    ∃ event : Event, (event.isPullOf c = true ∨ event.isDataPath = true) ∧
      before.1.Step event after.1 ∧ after.2 = before.2.after before.1 event

namespace Node

/-- How a coordinator stands after pulls of an activation: its settings and those of the scope are
the latest that were supplied, but for a change under way, and without the pull at one of its
fetches the node is the one that the history has. -/
structure PullsTaken (c a : Nat) (initial : PullSettings) (config : CoordinatorConfig) (node : Node)
    (history : PullHistory) (now : Coordinator) : Prop where
  found : node.coordinators.get? c = some now
  config_eq : now.config = config
  active : node.registry.active.get? now.scope = some a
  isOpen : (node.scope a).isOpen = true
  idle : node.pulls.get? c = none → now.phase = .idle
  settled : (∀ change, node.pulls.get? c ≠ some (.changing change)) →
    PullSettings.of now (node.scope a) = initial.supplied config history.taken
  fetching : ∀ cycle, node.pulls.get? c = some (.fetching cycle) →
    cycle.activation = a ∧ history.told = cycle.told ∧
      ∃ before : Coordinator, before.phase = .idle ∧ now = { before with phase := .fetching } ∧
        history.without.coordinators.get? c = some before ∧
        history.without.pulls.get? c = none ∧ node = history.without.withPull c before cycle
  changing : ∀ change, node.pulls.get? c = some (.changing change) →
    change.activation = a ∧
      (PullSettings.of now (node.scope a)).takeRest (some change.roster) change.rules =
        initial.supplied config history.taken

namespace PullsTaken

variable {c a : Nat} {initial : PullSettings} {config : CoordinatorConfig} {node next : Node}
  {history : PullHistory} {now : Coordinator} {event : Event}

theorem settings_of_fetching (h : node.PullsTaken c a initial config history now)
    {cycle : PullCycle} (flight : node.pulls.get? c = some (.fetching cycle)) :
    PullSettings.of now (node.scope a) = initial.supplied config history.taken := by
  refine h.settled fun change flight' => ?_
  rw [flight] at flight'
  cases flight'

/-- The data path goes on beside the pulls. -/
theorem ofPath (h : node.PullsTaken c a initial config history now)
    (ofPath : event.isDataPath = true) :
    (node.dataPath event).PullsTaken c a initial config
      { history with without := history.without.dataPath event } now := by
  obtain ⟨coordinators, pulls, active, same⟩ := @dataPath_frame node event ofPath
  obtain ⟨coordinators', pulls', -, -⟩ := @dataPath_frame history.without event ofPath
  constructor
  case found =>
    rw [coordinators]
    exact h.found
  case config_eq => exact h.config_eq
  case active =>
    rw [active]
    exact h.active
  case isOpen => exact (same a).isOpen_eq.trans h.isOpen
  case idle =>
    rw [pulls]
    exact h.idle
  case settled =>
    rw [pulls, (same a).of_eq]
    exact h.settled
  case fetching =>
    intro cycle flight
    rw [pulls] at flight
    obtain ⟨here, told, before, idle, now_eq, found, free, eq⟩ := h.fetching cycle flight
    refine ⟨here, told, before, idle, now_eq, ?_, ?_, ?_⟩
    · rw [coordinators']
      exact found
    · rw [pulls']
      exact free
    · rw [eq, dataPath_withPull]
  case changing =>
    intro change flight
    rw [pulls] at flight
    rw [(same a).of_eq]
    exact h.changing change flight

/-- A pull begins on the node as it is. -/
theorem withPull (h : node.PullsTaken c a initial config history now)
    (free : node.pulls.get? c = none) :
    (node.withPull c now (.fetchingNode a)).PullsTaken c a initial config
      { history with without := node, told := ⟨none, none, none⟩ }
      { now with phase := .fetching } := by
  have flight : (node.withPull c now (.fetchingNode a)).pulls.get? c =
      some (.fetching (.fetchingNode a)) := pull_withPull
  constructor
  case found => exact coordinator_withPull
  case config_eq => exact h.config_eq
  case active => exact h.active
  case isOpen => exact h.isOpen
  case idle =>
    intro free'
    rw [flight] at free'
    cases free'
  case settled =>
    intro _
    refine h.settled fun change flight' => ?_
    rw [free] at flight'
    cases flight'
  case fetching =>
    intro cycle flight'
    rw [flight] at flight'
    obtain rfl := PullStage.fetching.inj (Option.some.inj flight')
    exact ⟨rfl, rfl, now, h.idle free, rfl, h.found, free, rfl⟩
  case changing =>
    intro change flight'
    rw [flight] at flight'
    cases flight'

/-- A pull that fails at one of its fetches leaves the node that there would be without it. -/
theorem settle_of_failed (h : node.PullsTaken c a initial config history now) {cycle : PullCycle}
    (flight : node.pulls.get? c = some (.fetching cycle)) {plane : Collaborators} {e : Error}
    (failed : history.told.hear plane cycle.call = .error e) :
    node.settlePull c (now.resumePull node.registry plane cycle) = history.without := by
  obtain ⟨-, told, before, idle, now_eq, found, free, eq⟩ := h.fetching cycle flight
  rw [told] at failed
  rw [Coordinator.resumePull_of_failed failed]
  have before_eq : { now with phase := .idle } = before := by
    rw [now_eq, ← idle]
  rw [before_eq, eq]
  simp only [Node.withPull, settlePull, Table.insert_insert, Table.erase_insert]
  rw [Table.insert_of_get? found, Table.erase_of_get? free]

/-- Without the pull the node has the same settings, with no pull under way. -/
theorem without (h : node.PullsTaken c a initial config history now) {cycle : PullCycle}
    (flight : node.pulls.get? c = some (.fetching cycle)) :
    history.without.PullsTaken c a initial config history { now with phase := .idle } := by
  obtain ⟨-, -, before, idle, now_eq, found, free, eq⟩ := h.fetching cycle flight
  have before_eq : { now with phase := .idle } = before := by
    rw [now_eq, ← idle]
  have settled := h.settings_of_fetching flight
  rw [before_eq]
  constructor
  case found => exact found
  case config_eq =>
    rw [← before_eq]
    exact h.config_eq
  case active =>
    have active := h.active
    rw [eq, now_eq] at active
    exact active
  case isOpen =>
    have isOpen := h.isOpen
    rw [eq] at isOpen
    exact isOpen
  case idle => exact fun _ => idle
  case settled =>
    rw [eq, now_eq] at settled
    exact fun _ => settled
  case fetching =>
    intro cycle' flight'
    rw [free] at flight'
    cases flight'
  case changing =>
    intro change flight'
    rw [free] at flight'
    cases flight'

/-- A pull at its end, with the settings that it leaves. -/
theorem finish (h : node.PullsTaken c a initial config history now) {after : Coordinator}
    {scope' : Scope} {history' : PullHistory} (config_eq : after.config = now.config)
    (scope_eq : after.scope = now.scope) (isOpen : scope'.isOpen = true)
    (settings : PullSettings.of after scope' = initial.supplied config history'.taken) :
    (node.settlePull c (.finished (.ok ()), { after with phase := .idle },
      node.registry.setScope a scope')).PullsTaken c a initial config history'
        { after with phase := .idle } := by
  have placed : (node.registry.setScope a scope').scope a = scope' := by
    rw [Registry.scope_setScope, if_pos rfl]
  have gone : (node.pulls.erase c).get? c = none := Table.get?_erase_self _ _
  constructor
  case found => exact Table.get?_insert_self _ _ _
  case config_eq => exact config_eq.trans h.config_eq
  case active =>
    show node.registry.active.get? after.scope = some a
    rw [scope_eq]
    exact h.active
  case isOpen =>
    show ((node.registry.setScope a scope').scope a).isOpen = true
    rw [placed]
    exact isOpen
  case idle => exact fun _ => rfl
  case settled =>
    intro _
    show PullSettings.of _ ((node.registry.setScope a scope').scope a) = _
    rw [placed]
    exact settings
  case fetching =>
    intro cycle flight
    cases gone.symm.trans flight
  case changing =>
    intro change flight
    cases gone.symm.trans flight

/-- A roster that is being taken over, with the settings that there will be at its end. -/
theorem changeTo (h : node.PullsTaken c a initial config history now) {after : Coordinator}
    {scope' : Scope} {history' : PullHistory} {change : RosterChange}
    (config_eq : after.config = now.config) (scope_eq : after.scope = now.scope)
    (isOpen : scope'.isOpen = true) (here : change.activation = a)
    (settings : (PullSettings.of after scope').takeRest (some change.roster) change.rules =
      initial.supplied config history'.taken) :
    PullsTaken c a initial config
      { node with
        registry := node.registry.setScope a scope'
        coordinators := node.coordinators.insert c after
        pulls := node.pulls.insert c (.changing change) } history' after := by
  have placed : (node.registry.setScope a scope').scope a = scope' := by
    rw [Registry.scope_setScope, if_pos rfl]
  have flight : (node.pulls.insert c (.changing change)).get? c = some (.changing change) :=
    Table.get?_insert_self _ _ _
  constructor
  case found => exact Table.get?_insert_self _ _ _
  case config_eq => exact config_eq.trans h.config_eq
  case active =>
    show node.registry.active.get? after.scope = some a
    rw [scope_eq]
    exact h.active
  case isOpen =>
    show ((node.registry.setScope a scope').scope a).isOpen = true
    rw [placed]
    exact isOpen
  case idle =>
    intro free
    cases flight.symm.trans free
  case settled => exact fun unchanging => absurd flight (unchanging change)
  case fetching =>
    intro cycle flight'
    cases flight.symm.trans flight'
  case changing =>
    intro change' flight'
    obtain rfl := PullStage.changing.inj (Option.some.inj (flight.symm.trans flight'))
    refine ⟨here, ?_⟩
    show (PullSettings.of after ((node.registry.setScope a scope').scope a)).takeRest _ _ = _
    rw [placed]
    exact settings

/-- A pull goes on to its next fetch. -/
theorem goOn (h : node.PullsTaken c a initial config history now) {cycle later : PullCycle}
    (flight : node.pulls.get? c = some (.fetching cycle)) {told : Fetched}
    (heard : later.told = told) (here : later.activation = cycle.activation) :
    (node.settlePull c (.calling later, now, node.registry)).PullsTaken c a initial config
      { history with told } now := by
  obtain ⟨here', -, before, idle, now_eq, found, free, eq⟩ := h.fetching cycle flight
  have settled := h.settings_of_fetching flight
  have flight' : (node.settlePull c (.calling later, now, node.registry)).pulls.get? c =
      some (.fetching later) := Table.get?_insert_self _ _ _
  constructor
  case found => exact Table.get?_insert_self _ _ _
  case config_eq => exact h.config_eq
  case active => exact h.active
  case isOpen => exact h.isOpen
  case idle =>
    intro free'
    cases flight'.symm.trans free'
  case settled => exact fun _ => settled
  case fetching =>
    intro cycle' flight''
    obtain rfl := PullStage.fetching.inj (Option.some.inj (flight'.symm.trans flight''))
    refine ⟨here.trans here', heard.symm, before, idle, now_eq, found, free, ?_⟩
    rw [eq, now_eq]
    simp only [settlePull, Node.withPull, Table.insert_insert]
  case changing =>
    intro change flight''
    cases flight'.symm.trans flight''

/-- A pull goes on when its call returns. -/
theorem resumePull (h : node.PullsTaken c a initial config history now) {cycle : PullCycle}
    (flight : node.pulls.get? c = some (.fetching cycle)) (plane : Collaborators) :
    ∃ now', (node.settlePull c (now.resumePull node.registry plane cycle)).PullsTaken c a initial
      config (history.hear plane cycle.call) now' := by
  obtain ⟨here, told_eq, -⟩ := h.fetching cycle flight
  unfold PullHistory.hear
  cases heard : history.told.hear plane cycle.call with
  | error e =>
    rw [h.settle_of_failed flight heard]
    exact ⟨_, h.without flight⟩
  | ok told =>
    rw [told_eq] at heard
    by_cases last : cycle.call = .rules
    · rw [← here] at h
      have settled := h.settings_of_fetching flight
      have isOpen := h.isOpen
      obtain ⟨after, scope', applied, resumed⟩ :=
        @Coordinator.resumePull_of_told now node.registry plane cycle told heard last isOpen
      obtain ⟨after', scope'', applied', settings, config_eq, scope_eq, isOpen'⟩ :=
        @Coordinator.settings_applyFetched now _ isOpen told
      obtain ⟨rfl, rfl⟩ : after = after' ∧ scope' = scope'' := by
        have same := applied.symm.trans applied'
        simpa using same
      rw [resumed, ← here]
      refine ⟨_, h.finish config_eq scope_eq isOpen' ?_⟩
      rw [settings, settled, h.config_eq]
      dsimp only
      rw [if_pos last, PullSettings.supplied_concat]
    · obtain ⟨later, told', here', resumed⟩ :=
        @Coordinator.resumePull_of_heard now node.registry plane cycle told heard last
      rw [resumed]
      dsimp only
      rw [if_neg last]
      exact ⟨now, h.goOn flight told' here'⟩

/-- A pull that has been told everything sets out to take a roster over. -/
theorem beginChange (h : node.PullsTaken c a initial config history now) {b : Nat}
    {info : Option NodeInfo} {roster : List RosterUser} {rules : Option RuleSet}
    {plane : Collaborators}
    (flight : node.pulls.get? c = some (.fetching (.fetchingRules b info (some roster))))
    (answered : plane.rules = .ok rules) :
    ∃ now', (node.beginChange c now b info roster rules).PullsTaken c a initial config
      (history.hear plane .rules) now' := by
  obtain ⟨here, told_eq, -⟩ := h.fetching _ flight
  have settled := h.settings_of_fetching flight
  have heard : history.told.hear plane .rules = .ok ⟨info, some roster, rules⟩ := by
    rw [told_eq]
    simp only [Fetched.hear, PullCycle.told, answered, Except.map]
  have here' : b = a := here
  subst here'
  have settings := @Coordinator.settings_applyNode now (node.scope b) info
  have isOpen := (@Coordinator.isOpen_applyNode now (node.scope b) info).trans h.isOpen
  have scope_eq := (@Coordinator.applyNode_keeps now (node.scope b) info).2
  have config_eq := @Coordinator.config_applyNode now (node.scope b) info
  unfold PullHistory.hear Node.beginChange
  rw [heard]
  generalize now.applyNode (node.scope b) info = outcome at settings isOpen scope_eq config_eq ⊢
  obtain ⟨after, scope'⟩ := outcome
  refine ⟨after, h.changeTo config_eq scope_eq isOpen rfl ?_⟩
  dsimp only at settings ⊢
  rw [settings, settled, h.config_eq, if_pos rfl, PullSettings.supplied_concat]

/-- A roster is taken over by one user more, or the pull ends. -/
theorem goOnChanging (h : node.PullsTaken c a initial config history now) {change : RosterChange}
    (flight : node.pulls.get? c = some (.changing change)) :
    ∃ now', (node.goOnChanging c now change).PullsTaken c a initial config history now' := by
  obtain ⟨here, settings⟩ := h.changing change flight
  have coordinators : node.coordinators.insert c now = node.coordinators :=
    Table.insert_of_get? h.found
  have piece (operation : Operation) (later : RosterChange)
      (same : (node.scope a).SameSettings ((node.scope a).perform operation))
      (here' : later.activation = a) (roster_eq : later.roster = change.roster)
      (rules_eq : later.rules = change.rules) :
      PullsTaken c a initial config
        { node with
          registry := node.registry.modify a (·.perform operation)
          pulls := node.pulls.insert c (.changing later) } history now := by
    have changed := @changeTo c a initial config node history now h now
      ((node.scope a).perform operation) history later rfl rfl
      (same.isOpen_eq.trans h.isOpen) here'
      (by rw [same.of_eq, roster_eq, rules_eq, settings])
    rw [coordinators] at changed
    exact changed
  unfold Node.goOnChanging
  rw [here]
  split
  next user rest _ => exact ⟨now, piece (.removeUser user.id) _ ⟨rfl, rfl, rfl, rfl⟩ rfl rfl rfl⟩
  next user rest _ _ => exact ⟨now, piece (.insertUser user) _ ⟨rfl, rfl, rfl, rfl⟩ rfl rfl rfl⟩
  next =>
    have isOpen := (@Coordinator.isOpen_applyRules (node.scope a) change.rules).trans h.isOpen
    have finished := @finish c a initial config node history now h
      { now with roster := change.roster } (Coordinator.applyRules (node.scope a) change.rules)
      history rfl rfl isOpen ?_
    · exact ⟨_, finished⟩
    · rw [Coordinator.settings_applyRules, ← settings]
      rfl

/-- What belongs to the pulls of the coordinator or to the data path keeps to the history. -/
theorem step (h : node.PullsTaken c a initial config history now)
    (allowed : event.isPullOf c = true ∨ event.isDataPath = true) (step : node.Step event next) :
    ∃ now', next.PullsTaken c a initial config (history.after node event) now' := by
  rcases allowed with own | ofPath
  · cases step with
    | @beginPull c' coordinator found free =>
      obtain rfl := of_decide_eq_true own
      obtain rfl := Option.some.inj (found.symm.trans h.found)
      have begun : coordinator.beginPull node.registry =
          (.calling (.fetchingNode a), { coordinator with phase := .fetching }) := by
        rw [Coordinator.beginPull, Registry.find_eq_ok_iff.2 h.active]
      rw [begun]
      exact ⟨_, h.withPull free⟩
    | @resumePull c' coordinator cycle found flight plane =>
      obtain rfl := of_decide_eq_true own
      obtain rfl := Option.some.inj (found.symm.trans h.found)
      have heard : history.after node (.resumePull c' plane) = history.hear plane cycle.call := by
        simp only [PullHistory.after, flight]
      rw [heard]
      exact h.resumePull flight plane
    | @beginChange c' coordinator b info roster rules plane found flight answered isOpen =>
      obtain rfl := of_decide_eq_true own
      obtain rfl := Option.some.inj (found.symm.trans h.found)
      have heard : history.after node (.beginChange c' plane) = history.hear plane .rules := by
        simp only [PullHistory.after, flight, PullCycle.call]
      rw [heard]
      exact h.beginChange flight answered
    | @goOnChanging c' coordinator change found flight =>
      obtain rfl := of_decide_eq_true own
      obtain rfl := Option.some.inj (found.symm.trans h.found)
      exact h.goOnChanging flight
    | _ => cases own
  · obtain rfl := step.eq_dataPath ofPath
    have noted : history.after node event =
        { history with without := history.without.dataPath event } := by
      cases event with
      | acquire a user ip => rfl
      | drop lease => rfl
      | operate a operation => rfl
      | _ => cases ofPath
    rw [noted]
    exact ⟨now, h.ofPath ofPath⟩

theorem run {start after : Node × PullHistory} {first : Coordinator}
    (h : start.1.PullsTaken c a initial config start.2 first) (run : PullRun c start after) :
    ∃ now, after.1.PullsTaken c a initial config after.2 now := by
  induction run with
  | refl => exact ⟨first, h⟩
  | tail _ last ih =>
    obtain ⟨event, allowed, step, noted⟩ := last
    obtain ⟨now, h'⟩ := ih
    rw [noted]
    exact h'.step allowed step

end PullsTaken

end Node

/-- From an idle coordinator of an open scope on, in every sequence of its pulls with any work of the
data path between and during them: a call that fails ends the pull, and leaves the node that there
would be without the pull, with the coordinator idle and no call in flight. While no roster is being
taken over, each setting of the scope and of the coordinator is the one that the latest pull without
a failed call supplied that supplied it at all, or the initial one. -/
theorem pulls_are_transactions {c a : Nat} {start node : Node} {first : Coordinator}
    {history : PullHistory} (found : start.coordinators.get? c = some first)
    (idle : first.phase = .idle) (free : start.pulls.get? c = none)
    (active : start.registry.active.get? first.scope = some a)
    (isOpen : (start.scope a).isOpen = true)
    (run : Node.PullRun c (start, { without := start }) (node, history)) :
    ∃ now, node.coordinators.get? c = some now ∧
      (∀ cycle plane e, node.pulls.get? c = some (.fetching cycle) →
        history.told.hear plane cycle.call = .error e →
          (now.resumePull node.registry plane cycle).1 = .finished (.error e) ∧
          node.Step (.resumePull c plane) history.without ∧
          (∀ next, node.Step (.resumePull c plane) next → next = history.without) ∧
          history.without.pulls.get? c = none ∧
          ∃ settled, history.without.coordinators.get? c = some settled ∧ settled.phase = .idle) ∧
      ((∀ change, node.pulls.get? c ≠ some (.changing change)) →
        PullSettings.of now (node.scope a) =
          (PullSettings.of first (start.scope a)).supplied first.config history.taken) := by
  have initially : start.PullsTaken c a (PullSettings.of first (start.scope a)) first.config
      { without := start } first := by
    refine ⟨found, rfl, active, isOpen, fun _ => idle, fun _ => rfl, ?_, ?_⟩
    · intro cycle flight
      cases free.symm.trans flight
    · intro change flight
      cases free.symm.trans flight
  obtain ⟨now, h⟩ := initially.run run
  refine ⟨now, h.found, ?_, h.settled⟩
  intro cycle plane e flight failed
  obtain ⟨-, told, before, idle', -, found', free', -⟩ := h.fetching cycle flight
  have settles := h.settle_of_failed flight failed
  refine ⟨?_, ?_, ?_, free', before, found', idle'⟩
  · rw [told] at failed
    rw [Coordinator.resumePull_of_failed failed]
  · rw [← settles]
    exact .resumePull h.found flight plane
  · intro next step
    rw [← settles]
    cases step with
    | resumePull found'' flight' =>
      obtain rfl := Option.some.inj (found''.symm.trans h.found)
      obtain rfl := PullStage.fetching.inj (Option.some.inj (flight'.symm.trans flight))
      rfl

/-- A pull supplies caps and an interval that is raised to the shortest one. The next pull, with other
caps, fails at its second call and leaves the node as it was. -/
theorem pulls_are_transactions_failed :
    ∃ (start node : Node) (history : PullHistory) (now : Coordinator) (plane : Collaborators),
      Node.PullRun 0 (start, { without := start }) (node, history) ∧
      history.told = ⟨some ⟨⟨200, 0, 0⟩, 9, 9, none⟩, none, none⟩ ∧
      plane.roster = .error (.unknownScope "a") ∧
      node.Step (.resumePull 0 plane) history.without ∧ node.coordinators.get? 0 = some now ∧
      now.pullTask.intervalMs = 5000 ∧ now.pushTask.intervalMs = 60000 ∧
      (node.scope 0).limits.speedLimit = 100 ∧ (node.scope 0).connectionsOf 7 = 1 := by
  let info : NodeInfo :=
    { limits := { speedLimit := 100 }, pullIntervalSecs := 3, pushIntervalSecs := 0 }
  let info' : NodeInfo :=
    { limits := { speedLimit := 200 }, pullIntervalSecs := 9, pushIntervalSecs := 9 }
  let plane : Collaborators := { node := .ok (some info) }
  let failing : Collaborators :=
    { node := .ok (some info'), roster := .error (.unknownScope "a") }
  let first : Coordinator :=
    { scope := "a"
      config := {}
      pullTask := { name := "roster-pull", intervalMs := 60000 }
      pushTask := { name := "traffic-push", intervalMs := 60000 } }
  let second : Coordinator :=
    { first with pullTask := { name := "roster-pull", intervalMs := 5000, hasPermit := true } }
  let start : Node :=
    { registry := (({} : Registry).activate "a" {}).2
      coordinators := Table.empty.insert 0 first }
  let fetched := start.withPull 0 first (.fetchingRules 0 (some info) none)
  let pulled := fetched.settlePull 0
    ({ first with phase := .fetching }.resumePull fetched.registry plane
      (.fetchingRules 0 (some info) none))
  let connected := pulled.acquire 0 7 (.v4 1)
  let node := connected.withPull 0 second (.fetchingRoster 0 (some info'))
  let history : PullHistory :=
    { without := connected, told := ⟨some info', none, none⟩, taken := [⟨some info, none, none⟩] }
  have active : start.registry.active.get? first.scope = some 0 := by decide
  have begins : start.Step (.beginPull 0) (start.withPull 0 first (.fetchingNode 0)) :=
    Node.begins_withPull rfl rfl (Registry.find_eq_ok_iff.2 active)
  have hears : (start.withPull 0 first (.fetchingNode 0)).Step (.resumePull 0 plane)
      (start.withPull 0 first (.fetchingRoster 0 (some info))) := Node.resumes_withPull rfl
  have lists : (start.withPull 0 first (.fetchingRoster 0 (some info))).Step (.resumePull 0 plane)
      fetched := Node.resumes_withPull rfl
  have applies : fetched.Step (.resumePull 0 plane) pulled :=
    @Node.Step.resumePull fetched 0 _ _ Node.coordinator_withPull Node.pull_withPull plane
  have connects : pulled.Step (.acquire 0 7 (.v4 1)) connected := .acquire (by decide) 7 (.v4 1)
  have raised : Coordinator.clampInterval {} 3 = some 5000000000 := by decide
  have sets : first.setIntervals info = second := by
    rw [Coordinator.setIntervals]
    dsimp only [info, first, second]
    rw [raised]
    rfl
  have remembers : connected.coordinators.get? 0 = some second :=
    (Table.get?_insert_self _ _ _).trans (congrArg some sets)
  have again : connected.Step (.beginPull 0) (connected.withPull 0 second (.fetchingNode 0)) :=
    Node.begins_withPull remembers rfl (by decide)
  have tells : (connected.withPull 0 second (.fetchingNode 0)).Step (.resumePull 0 failing) node :=
    Node.resumes_withPull rfl
  have run : Node.PullRun 0 (start, { without := start }) (node, history) := by
    let told : PullHistory := { without := start, told := ⟨some info, none, none⟩ }
    let taken : PullHistory := { told with taken := [⟨some info, none, none⟩] }
    have fetches : Node.PullRun 0 (start, { without := start }) (fetched, told) := by
      exact .tail (b := (_, told)) (.tail (b := (_, { without := start })) (.tail .refl
        ⟨_, Or.inl rfl, begins, rfl⟩) ⟨_, Or.inl rfl, hears, rfl⟩) ⟨_, Or.inl rfl, lists, rfl⟩
    have takes : Node.PullRun 0 (fetched, told)
        (connected, { taken with without := start.acquire 0 7 (.v4 1) }) := by
      exact .tail (b := (pulled, taken)) (.tail .refl ⟨_, Or.inl rfl, applies, rfl⟩)
        ⟨_, Or.inr rfl, connects, rfl⟩
    exact .tail (b := (_, { without := connected, taken := taken.taken }))
      ((fetches.trans takes).tail ⟨_, Or.inl rfl, again, rfl⟩) ⟨_, Or.inl rfl, tells, rfl⟩
  obtain ⟨now, found, fails, settings⟩ :=
    @pulls_are_transactions 0 0 start node first history rfl rfl rfl active (by decide) run
  obtain ⟨-, leaves, -⟩ := fails (.fetchingRoster 0 (some info')) failing (.unknownScope "a") rfl rfl
  have settings := settings fun change changing => by cases changing
  refine ⟨start, node, history, now, failing, run, rfl, rfl, leaves, found, ?_, ?_, ?_, ?_⟩
  · exact (congrArg PullSettings.pullMs settings).trans (by decide)
  · exact (congrArg PullSettings.pushMs settings).trans (by decide)
  · have limits : (node.scope 0).limits = { speedLimit := 100 } :=
      (congrArg PullSettings.limits settings).trans (by decide)
    rw [limits]
  · decide

end Tollgate
