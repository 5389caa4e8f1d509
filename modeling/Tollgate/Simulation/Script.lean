import Tollgate.Coordination.Collaborators

/-!
# Scripts

What the collaborators of a simulated coordinator answer, and how long they take.
-/

namespace Tollgate

/-- The kinds of calls. -/
inductive CallKind where
  | node
  | roster
  | rules
  | report
  | sync
deriving DecidableEq, Repr, Inhabited

/-- The kind of a call. -/
def Call.kind : Call → CallKind
  | .node => .node
  | .roster => .roster
  | .rules => .rules
  | .report _ => .report
  | .sync _ => .sync

/-- How the recorder answers: with what other nodes add to the online addresses it is given, with a
list of its own, or not at all. -/
inductive SyncAnswer where
  | adding (others : List UserIps)
  | listing (entries : List UserIps)
  | failing (e : Error)
deriving Inhabited

/-- Adds the addresses of an entry to the first entry of the same user, or else the entry to the
end. -/
def UserIps.addTo (entry : UserIps) : List UserIps → List UserIps
  | [] => [entry]
  | first :: rest =>
    if first.userId = entry.userId then { first with ips := first.ips ++ entry.ips } :: rest
    else first :: entry.addTo rest

/-- What the recorder makes of the addresses it is given. -/
def SyncAnswer.reply (online : List UserIps) : SyncAnswer → Except Error (List UserIps)
  | .adding others => .ok (others.foldl (fun entries other => other.addTo entries) online)
  | .listing entries => .ok entries
  | .failing e => .error e

/-- What collaborators answer from now on. -/
structure Script where
  node : Except Error (Option NodeInfo) := .ok none
  roster : Except Error (Option (List RosterUser)) := .ok none
  rules : Except Error (Option RuleSet) := .ok none
  report : Except Error Unit := .ok ()
  sync : SyncAnswer := .adding []
  /-- The milliseconds that each call takes; of several for one kind the first counts. -/
  delays : List (CallKind × Nat) := []

namespace Script

/-- The collaborators that follow a script. -/
def collaborators (script : Script) : Collaborators where
  node := script.node
  roster := script.roster
  rules := script.rules
  report := script.report
  sync online := script.sync.reply online

/-- The milliseconds that a call takes. -/
def delay (script : Script) (kind : CallKind) : Nat := (script.delays.lookup kind).getD 0

end Script

end Tollgate
