import Tollgate.Coordination.Collaborators
import Tollgate.Coordination.Coordinator
import Tollgate.Registry

/-!
# The push cycle

The traffic counted since the last cycle is taken out and handed to the reporter. What is delivered
counts towards escalations; what is not is put back. Then the online window ends, with the word of
the recorder if there is one.
-/

namespace Tollgate

/-- What a push cycle did. -/
structure PushSummary where
  reportedUsers : Nat := 0
  reportFailed : Bool := false
  escalated : List UInt64 := []
  syncedUsers : Option Nat := none
deriving DecidableEq, Repr, Inhabited

/-- A push cycle at one of its calls. -/
inductive PushCycle where
  | reporting (activation : Nat) (drained : List TrafficEntry)
  | syncing (activation : Nat) (online : List UserIps) (summary : PushSummary)
deriving DecidableEq, Repr

/-- The call that a cycle is at. -/
def PushCycle.call : PushCycle → Call
  | .reporting _ drained => .report (drained.map (·.2))
  | .syncing _ online _ => .sync online

namespace Coordinator

/-- Ends the online window, or calls the recorder first. -/
def closeWindow (coordinator : Coordinator) (registry : Registry) (activation : Nat)
    (summary : PushSummary) : Progress PushCycle PushSummary × Registry :=
  let scope := registry.scope activation
  if scope.recorderEnabled then
    if coordinator.hasRecorder then
      (.calling (.syncing activation scope.onlineView.toUserIps summary), registry)
    else (.finished (.ok summary), registry.setScope activation scope.discardWindow)
  else (.finished (.ok summary), registry.setScope activation scope.endWindow)

/-- Counts delivered traffic towards escalations. -/
def deliver (registry : Registry) (activation : Nat) (now : Timestamp)
    (drained : List TrafficEntry) : PushSummary × Registry :=
  let (escalated, registry) := registry.run activation (Scope.escalate now drained)
  ({ reportedUsers := drained.length, escalated }, registry)

/-- Begins a push cycle, on the lane. -/
def beginPush (coordinator : Coordinator) (registry : Registry) (now : Timestamp) :
    Progress PushCycle PushSummary × Registry :=
  match registry.find coordinator.scope with
  | .error e => (.finished (.error e), registry)
  | .ok activation =>
    let (drained, registry) := registry.run activation Scope.drainTraffic
    if drained.isEmpty then coordinator.closeWindow registry activation {}
    else if coordinator.hasReporter then (.calling (.reporting activation drained), registry)
    else
      let (summary, registry) := deliver registry activation now drained
      coordinator.closeWindow registry activation summary

/-- Goes on with a push cycle when its call returns. -/
def resumePush (coordinator : Coordinator) (registry : Registry) (peers : Collaborators)
    (now : Timestamp) : PushCycle → Progress PushCycle PushSummary × Registry
  | .reporting activation drained =>
    match peers.report with
    | .ok () =>
      let (summary, registry) := deliver registry activation now drained
      coordinator.closeWindow registry activation summary
    | .error _ =>
      coordinator.closeWindow (registry.modify activation (·.creditTraffic drained)) activation
        { reportFailed := true }
  | .syncing activation online summary =>
    match peers.sync online with
    | .ok merged =>
      (.finished (.ok { summary with syncedUsers := some merged.length }),
        registry.modify activation (·.mergeOnline merged))
    | .error _ => (.finished (.ok summary), registry.modify activation Scope.discardWindow)

end Coordinator

end Tollgate
