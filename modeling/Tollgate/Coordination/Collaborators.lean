import Tollgate.Control.Records
import Tollgate.Error

/-!
# Collaborators

Those a coordinator asks over the network: the control plane for the node, the roster and the rules,
the reporter to take traffic, and the recorder to put together who is online where. Each call may
fail. For the control plane, no answer means no change since the last time.
-/

namespace Tollgate

/-- A call to a collaborator with what it hands over. -/
inductive Call where
  | node
  | roster
  | rules
  | report (traffic : List UserTraffic)
  | sync (online : List UserIps)
deriving DecidableEq, Repr, Inhabited

/-- What collaborators answer at a moment. -/
structure Collaborators where
  node : Except Error (Option NodeInfo) := .ok none
  roster : Except Error (Option (List RosterUser)) := .ok none
  rules : Except Error (Option RuleSet) := .ok none
  report : Except Error Unit := .ok ()
  sync : List UserIps → Except Error (List UserIps) := .ok

/-- How far a cycle of calls has got: at a call with the rest of the cycle to follow, or at its
end. -/
inductive Progress (κ ρ : Type) where
  | calling (cycle : κ)
  | finished (result : Except Error ρ)

end Tollgate
