import Mathlib.Logic.Relation
import Tollgate.Coordination.PullCycle
import Tollgate.Coordination.PushCycle
import Tollgate.Proofs.Operation

/-!
# Nodes in steps

A node at work: the registry with its scopes, the leases that are held, and coordinators with at
most one pull and one push in flight each. One step is one thing that happens without anything in
between, so a run is any interleaving of the data path, the roster, the cycles of all coordinators
and the coming and going of scopes. The answers of collaborators and the clock are part of the step
and may be anything.

A pull that has fetched everything takes it over at once (`resumePull`), or it takes the roster over
user by user with other steps in between (`beginChange`, `goOnChanging`). While it does, nobody
tears its scope down.
-/

namespace Tollgate

/-- The activation that a pull cycle stays with. -/
def PullCycle.activation : PullCycle → Nat
  | .fetchingNode activation => activation
  | .fetchingRoster activation _ => activation
  | .fetchingRules activation _ _ => activation

/-- The activation that a push cycle stays with. -/
def PushCycle.activation : PushCycle → Nat
  | .reporting activation _ => activation
  | .syncing activation _ _ => activation

/-- A roster that is being taken over, user by user. -/
structure RosterChange where
  activation : Nat
  removed : List RosterUser
  added : List RosterUser
  roster : List RosterUser
  rules : Option RuleSet

/-- How far a pull in flight has got. -/
inductive PullStage where
  | fetching (cycle : PullCycle)
  | changing (change : RosterChange)

/-- The activation that a pull in flight stays with. -/
def PullStage.activation : PullStage → Nat
  | .fetching cycle => cycle.activation
  | .changing change => change.activation

/-- A node at work. -/
structure Node where
  registry : Registry := {}
  leases : List Lease := []
  coordinators : Table Nat Coordinator := .empty
  pulls : Table Nat PullStage := .empty
  pushes : Table Nat PushCycle := .empty

/-- What can happen to a node. Coordinators go by numbers. -/
inductive Event where
  | activate (name : String) (config : ScopeConfig)
  | deactivate (name : String)
  | acquire (activation : Nat) (user : UInt64) (ip : IpAddr)
  | drop (lease : Lease)
  | operate (activation : Nat) (operation : Operation)
  | coordinate (c : Nat) (scope : String) (config : CoordinatorConfig)
      (hasRecorder hasReporter : Bool)
  | beginPull (c : Nat)
  | resumePull (c : Nat) (plane : Collaborators)
  | beginChange (c : Nat) (plane : Collaborators)
  | goOnChanging (c : Nat)
  | beginPush (c : Nat) (now : Timestamp)
  | resumePush (c : Nat) (peers : Collaborators) (now : Timestamp)

namespace Node

variable (node : Node)

/-- The state of an activation. -/
def scope (activation : Nat) : Scope := node.registry.scope activation

/-- Whether a roster is being taken over by an activation. -/
def IsChanging (activation : Nat) : Prop :=
  ∃ c change, node.pulls.get? c = some (.changing change) ∧ change.activation = activation

/-- Asks for a lease. -/
def acquire (activation : Nat) (user : UInt64) (ip : IpAddr) : Node :=
  match node.registry.acquire activation user ip with
  | (.ok (some lease), registry) => { node with registry, leases := lease :: node.leases }
  | (_, registry) => { node with registry }

/-- Drops a lease. -/
def drop (lease : Lease) : Node :=
  { node with registry := node.registry.drop lease, leases := node.leases.erase lease }

/-- Does something to the state of an activation. -/
def operate (activation : Nat) (operation : Operation) : Node :=
  { node with registry := node.registry.modify activation (·.perform operation) }

/-- Takes note of how far a pull of a coordinator has come. -/
def settlePull (c : Nat) : Progress PullCycle Unit × Coordinator × Registry → Node
  | (.calling cycle, coordinator, registry) =>
    { node with
      registry
      coordinators := node.coordinators.insert c coordinator
      pulls := node.pulls.insert c (.fetching cycle) }
  | (.finished _, coordinator, registry) =>
    { node with
      registry
      coordinators := node.coordinators.insert c coordinator
      pulls := node.pulls.erase c }

/-- Takes note of how far a push of a coordinator has come. -/
def settlePush (c : Nat) : Progress PushCycle PushSummary × Registry → Node
  | (.calling cycle, registry) => { node with registry, pushes := node.pushes.insert c cycle }
  | (.finished _, registry) => { node with registry, pushes := node.pushes.erase c }

/-- Takes over what was said about the node, and sets out to take over a roster user by user. -/
def beginChange (c : Nat) (coordinator : Coordinator) (activation : Nat) (info : Option NodeInfo)
    (roster : List RosterUser) (rules : Option RuleSet) : Node :=
  let (after, scope) := coordinator.applyNode (node.scope activation) info
  let diff := RosterDiff.between coordinator.roster roster
  { node with
    registry := node.registry.setScope activation scope
    coordinators := node.coordinators.insert c after
    pulls := node.pulls.insert c
      (.changing { activation, removed := diff.removed, added := diff.added, roster, rules }) }

/-- Takes a roster over by one user more. After the last one the roster is remembered and the rules
are taken over, and that ends the pull. -/
def goOnChanging (c : Nat) (coordinator : Coordinator) (change : RosterChange) : Node :=
  match change.removed, change.added with
  | user :: rest, _ =>
    { node with
      registry := node.registry.modify change.activation (·.perform (.removeUser user.id))
      pulls := node.pulls.insert c (.changing { change with removed := rest }) }
  | [], user :: rest =>
    { node with
      registry := node.registry.modify change.activation (·.perform (.insertUser user))
      pulls := node.pulls.insert c (.changing { change with added := rest }) }
  | [], [] =>
    let (progress, after) := { coordinator with roster := change.roster }.endPull (.ok ())
    node.settlePull c (progress, after,
      node.registry.modify change.activation (Coordinator.applyRules · change.rules))

/-- One thing that happens to a node. -/
inductive Step (node : Node) : Event → Node → Prop
  | activate (name : String) (config : ScopeConfig) :
    Step node (.activate name config)
      { node with registry := (node.registry.activate name config).2 }
  | deactivate {name : String}
    (settled : ∀ a, node.registry.active.get? name = some a → ¬ node.IsChanging a) :
    Step node (.deactivate name) { node with registry := (node.registry.deactivate name).2 }
  | acquire {a : Nat} (known : a < node.registry.nextActivation) (user : UInt64) (ip : IpAddr) :
    Step node (.acquire a user ip) (node.acquire a user ip)
  | drop {lease : Lease} (held : lease ∈ node.leases) : Step node (.drop lease) (node.drop lease)
  | operate {a : Nat} {operation : Operation} (known : a < node.registry.nextActivation)
    (settled : operation = .teardown → ¬ node.IsChanging a) :
    Step node (.operate a operation) (node.operate a operation)
  | coordinate {c : Nat} {scope : String} {config : CoordinatorConfig}
    {hasRecorder hasReporter : Bool} {coordinator : Coordinator}
    (free : node.coordinators.get? c = none)
    (created : Coordinator.create scope config hasRecorder hasReporter = .ok coordinator) :
    Step node (.coordinate c scope config hasRecorder hasReporter)
      { node with coordinators := node.coordinators.insert c coordinator }
  | beginPull {c : Nat} {coordinator : Coordinator}
    (found : node.coordinators.get? c = some coordinator) (free : node.pulls.get? c = none) :
    Step node (.beginPull c)
      (node.settlePull c ((coordinator.beginPull node.registry).1,
        (coordinator.beginPull node.registry).2, node.registry))
  | resumePull {c : Nat} {coordinator : Coordinator} {cycle : PullCycle}
    (found : node.coordinators.get? c = some coordinator)
    (flight : node.pulls.get? c = some (.fetching cycle)) (plane : Collaborators) :
    Step node (.resumePull c plane)
      (node.settlePull c (coordinator.resumePull node.registry plane cycle))
  | beginChange {c : Nat} {coordinator : Coordinator} {a : Nat} {info : Option NodeInfo}
    {roster : List RosterUser} {rules : Option RuleSet} {plane : Collaborators}
    (found : node.coordinators.get? c = some coordinator)
    (flight : node.pulls.get? c = some (.fetching (.fetchingRules a info (some roster))))
    (answered : plane.rules = .ok rules) (isOpen : (node.scope a).isOpen = true) :
    Step node (.beginChange c plane) (node.beginChange c coordinator a info roster rules)
  | goOnChanging {c : Nat} {coordinator : Coordinator} {change : RosterChange}
    (found : node.coordinators.get? c = some coordinator)
    (flight : node.pulls.get? c = some (.changing change)) :
    Step node (.goOnChanging c) (node.goOnChanging c coordinator change)
  | beginPush {c : Nat} {coordinator : Coordinator}
    (found : node.coordinators.get? c = some coordinator) (free : node.pushes.get? c = none)
    (now : Timestamp) :
    Step node (.beginPush c now) (node.settlePush c (coordinator.beginPush node.registry now))
  | resumePush {c : Nat} {coordinator : Coordinator} {cycle : PushCycle}
    (found : node.coordinators.get? c = some coordinator)
    (flight : node.pushes.get? c = some cycle) (peers : Collaborators) (now : Timestamp) :
    Step node (.resumePush c peers now)
      (node.settlePush c (coordinator.resumePush node.registry peers now cycle))

/-- A run of a node in which every step is of an allowed kind. What is allowed may depend on the
node before the step, on the event and on the node after it. -/
def Run (allowed : Node → Event → Node → Prop) : Node → Node → Prop :=
  Relation.ReflTransGen fun before after =>
    ∃ event, Step before event after ∧ allowed before event after

theorem Run.mono {allowed weaker : Node → Event → Node → Prop} {start last : Node}
    (weaken : ∀ before event after, allowed before event after → weaker before event after)
    (run : Run allowed start last) : Run weaker start last := by
  refine Relation.ReflTransGen.mono ?_ _ _ run
  rintro before after ⟨event, step, fits⟩
  exact ⟨event, step, weaken before event after fits⟩

end Node

end Tollgate
