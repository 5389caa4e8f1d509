import Tollgate.Coordination.PushCycle
import Tollgate.Simulation.Script

/-!
# Actions

What can be done to a simulated node at one moment, and what it answers. An action names the scope it
is about, or a label under which the state of a scope is held.

Calls of collaborators can set actions off. What takes time or begins an activity is no action: it
belongs to a run (`Simulation.Command`), and where a call would set it off it is refused by its name.
-/

namespace Tollgate.Simulation

/-- Where an action goes: to the state held under a label, or else to the scope active under a
name. -/
structure Target where
  scope : String
  via : Option String := none
deriving DecidableEq, Repr, Inhabited

/-- New answers of collaborators; what is not given stays. -/
structure ScriptChange where
  node : Option (Except Error (Option NodeInfo)) := none
  roster : Option (Except Error (Option (List RosterUser))) := none
  rules : Option (Except Error (Option RuleSet)) := none
  report : Option (Except Error Unit) := none
  sync : Option SyncAnswer := none

/-- An action. Coordinators, leases and held states go by names that the actions choose. -/
inductive Action where
  | activate (config : ScopeConfig) (hold : Option String)
  | deactivate
  | listScopes
  | isOpen
  | teardown
  | hold (label : String)
  | connect (user : UInt64) (ip : IpAddr)
  | release (user : UInt64) (ip : IpAddr)
  | acquire (user : UInt64) (ip : IpAddr) (lease : String)
  | dropLease (lease : String)
  | leaseBucket (lease : String)
  | leaseReport (lease : String) (traffic : Traffic)
  | bucket (user : UInt64)
  | effectiveCap (user : UInt64)
  | tryConsume (user : UInt64) (bytes : UInt64)
  | consume (user : UInt64) (bytes : Nat) (maxNanos : Option Nat)
  | advanceBuckets (nanos : Nat)
  | matchDomain (destination : String)
  | matchProtocol (protocol : String)
  | firstDomainMatch (destination : String)
  | reportTraffic (user : UInt64) (traffic : Traffic)
  | changeRoster (diff : RosterDiff)
  | replaceRules (rules : RuleSet)
  | setLimits (limits : NodeLimits)
  | limits
  | setDynamicLimit (config : Option DynamicLimit)
  | record (user : UInt64)
  | connections (user : UInt64)
  | onlineView
  | endWindow
  | mergeOnline (entries : List UserIps)
  | discardWindow
  | drain
  | credit (entries : Option (List UserTraffic))
  | escalate (entries : Option (List UserTraffic))
  | recorderEnabled
  | stats
  | advanceClock (secs : UInt64)
  | setClock (now : Timestamp)
  | coordinate (coordinator : String) (config : CoordinatorConfig)
      (hasRecorder hasReporter : Bool)
  | instruct (coordinator : String) (change : ScriptChange)
  | delay (coordinator : String) (call : CallKind) (millis : Nat)
  | hook (coordinator : String) (call : CallKind) (actions : List (Target × Action))
  | look (coordinator : String)
  /-- What goes by this name is no action. -/
  | refused (name : String)

instance : Inhabited Action := ⟨.listScopes⟩

/-- What an action answers. -/
inductive Answer where
  | nothing
  | error (e : Error)
  | flag (b : Bool)
  | number (n : Nat)
  | index (n : Option Nat)
  | text (s : String)
  | activated (scope : String)
  | scopes (names : List String)
  | admission (refusal : Option Refusal)
  | lease (user : UInt64) (ip : IpAddr)
  | noLease
  | bucket (numbered : Option (Nat × TokenBucket))
  | consumed (isComplete : Bool) (nanos : Nat)
  | limits (limits : NodeLimits)
  | record (record : Option LimitRecord)
  | view (view : OnlineView)
  | traffic (entries : List TrafficEntry)
  | users (users : List UInt64)
  | stats (stats : ScopeStats)
  | moment (now : Timestamp)
  | coordinator (phase : Phase) (roster : List RosterUser) (pullMs pushMs : Nat)
  | pushed (summary : PushSummary)
  | both (first second : Answer)
  | refused (name : String)

instance : Inhabited Answer := ⟨.nothing⟩

/-- The answer for a result that can be an error. -/
def Answer.ofExcept {α : Type} (encode : α → Answer) : Except Error α → Answer
  | .ok a => encode a
  | .error e => .error e

end Tollgate.Simulation
