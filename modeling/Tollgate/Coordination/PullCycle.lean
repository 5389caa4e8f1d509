import Tollgate.Coordination.Collaborators
import Tollgate.Coordination.Coordinator
import Tollgate.Registry

/-!
# The pull cycle

Three fetches one after the other, and then, if none of them failed, the changes. A cycle stays with
the activation of the scope that it found when it began.
-/

namespace Tollgate

/-- What the control plane had to say; where it has nothing to say, nothing changed. -/
structure Fetched where
  node : Option NodeInfo
  roster : Option (List RosterUser)
  rules : Option RuleSet
deriving DecidableEq, Repr

/-- A pull cycle at one of its fetches. -/
inductive PullCycle where
  | fetchingNode (activation : Nat)
  | fetchingRoster (activation : Nat) (node : Option NodeInfo)
  | fetchingRules (activation : Nat) (node : Option NodeInfo) (roster : Option (List RosterUser))
deriving DecidableEq, Repr

/-- The call that a cycle is at. -/
def PullCycle.call : PullCycle → Call
  | .fetchingNode _ => .node
  | .fetchingRoster .. => .roster
  | .fetchingRules .. => .rules

namespace Coordinator

/-- An interval that the control plane sets; zero sets none, and none is shorter than the
configuration allows. -/
def clampInterval (config : CoordinatorConfig) (secs : UInt64) : Option Nat :=
  if 0 < secs then some (secondsToNanos (max secs config.minIntervalSecs)) else none

/-- Takes over the intervals of a node. -/
def setIntervals (coordinator : Coordinator) (info : NodeInfo) : Coordinator :=
  let interval := clampInterval coordinator.config
  { coordinator with
    pullTask := ((interval info.pullIntervalSecs).map coordinator.pullTask.setInterval).getD
      coordinator.pullTask
    pushTask := ((interval info.pushIntervalSecs).map coordinator.pushTask.setInterval).getD
      coordinator.pushTask }

/-- Takes over what was said about the node. -/
def applyNode (coordinator : Coordinator) (scope : Scope) : Option NodeInfo → Coordinator × Scope
  | none => (coordinator, scope)
  | some info =>
    (coordinator.setIntervals info, (scope.setLimits info.limits).2.setDynamicLimit info.dynamicLimit)

/-- Takes over a roster by its difference to the one last applied. -/
def applyRoster (coordinator : Coordinator) (scope : Scope) :
    Option (List RosterUser) → Except Error Unit × Coordinator × Scope
  | none => (.ok (), coordinator, scope)
  | some roster =>
    let diff := RosterDiff.between coordinator.roster roster
    let (result, scope) := if diff.isEmpty then (.ok (), scope) else scope.applyRosterDiff diff
    match result with
    | .error e => (.error e, coordinator, scope)
    | .ok () => (.ok (), { coordinator with roster }, scope)

/-- Takes over rules. -/
def applyRules (scope : Scope) : Option RuleSet → Scope
  | none => scope
  | some rules => scope.replaceRules rules

/-- Takes over all that was fetched. A roster that the scope refuses ends it before the rules. -/
def applyFetched (coordinator : Coordinator) (scope : Scope) (fetched : Fetched) :
    Except Error Unit × Coordinator × Scope :=
  let (coordinator, scope) := coordinator.applyNode scope fetched.node
  match coordinator.applyRoster scope fetched.roster with
  | (.error e, coordinator, scope) => (.error e, coordinator, scope)
  | (.ok (), coordinator, scope) => (.ok (), coordinator, applyRules scope fetched.rules)

/-- Begins a pull cycle, on the lane. -/
def beginPull (coordinator : Coordinator) (registry : Registry) :
    Progress PullCycle Unit × Coordinator :=
  match registry.find coordinator.scope with
  | .error e => (.finished (.error e), coordinator)
  | .ok activation => (.calling (.fetchingNode activation), { coordinator with phase := .fetching })

/-- Ends a pull cycle. -/
def endPull (coordinator : Coordinator) (result : Except Error Unit) :
    Progress PullCycle Unit × Coordinator :=
  (.finished result, { coordinator with phase := .idle })

/-- Goes on with a pull cycle when its call returns. -/
def resumePull (coordinator : Coordinator) (registry : Registry) (plane : Collaborators) :
    PullCycle → Progress PullCycle Unit × Coordinator × Registry
  | .fetchingNode activation =>
    match plane.node with
    | .error e => let (p, c) := coordinator.endPull (.error e); (p, c, registry)
    | .ok node => (.calling (.fetchingRoster activation node), coordinator, registry)
  | .fetchingRoster activation node =>
    match plane.roster with
    | .error e => let (p, c) := coordinator.endPull (.error e); (p, c, registry)
    | .ok roster => (.calling (.fetchingRules activation node roster), coordinator, registry)
  | .fetchingRules activation node roster =>
    match plane.rules with
    | .error e => let (p, c) := coordinator.endPull (.error e); (p, c, registry)
    | .ok rules =>
      let (result, coordinator, scope) :=
        coordinator.applyFetched (registry.scope activation) { node, roster, rules }
      let (p, c) := coordinator.endPull result
      (p, c, registry.setScope activation scope)

end Coordinator

end Tollgate
