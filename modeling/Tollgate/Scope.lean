import Tollgate.Accounting.Ledger
import Tollgate.Connections.Limiter
import Tollgate.Control.Config
import Tollgate.Control.RosterDiff
import Tollgate.Rules
import Tollgate.Speed.Escalation

/-!
# Scopes

All that a node keeps for one scope, from its activation on. The data path opens and closes
connections, hands out buckets, matches rules and counts traffic; the control path changes the
roster, the rules and the limits, closes the online window and takes the traffic out.

A torn-down scope is empty and closed. It takes no connection and no roster change any more; what
else still reaches it changes only the scope itself.
-/

namespace Tollgate

/-- The state of one activation of a scope. -/
structure Scope where
  name : String
  isOpen : Bool := true
  limits : NodeLimits := {}
  connections : ConnectionLimiter := {}
  speed : SpeedLimiter := {}
  rules : CompiledRules Pattern := {}
  escalator : Escalator := {}
  recorderEnabled : Bool := false
  ledger : Ledger := {}
deriving Inhabited

/-- A scope in numbers. -/
structure ScopeStats where
  users : Nat
  onlineUsers : Nat
  connections : Nat
  buckets : Nat
  domainRules : Nat
  protocolRules : Nat
deriving DecidableEq, Repr

namespace Scope

/-- A scope as it is activated. -/
def activate (name : String) (config : ScopeConfig) : Scope where
  name
  limits := config.limits
  escalator := { config := config.dynamicLimit }
  recorderEnabled := config.ipRecorderEnabled

variable (scope : Scope)

/-- The key of a user of the scope. -/
def key (user : UInt64) : UserKey := ⟨scope.name, user⟩

/-- The error of whoever finds the scope closed. -/
def closed : Error := .unknownScope scope.name

/-! ### Data path -/

/-- The caps on a user's connections: those of the node, and the tighter of the node's and the
user's own device limit. -/
def admissionLimits (user : UInt64) : AdmissionLimits where
  connLimit := scope.limits.connLimit.toNat
  deviceLimit :=
    (Cap.tighter scope.limits.deviceLimit.toUInt64
      (scope.speed.deviceLimit (scope.key user)).toUInt64).toNat

/-- Asks for a connection of a user. A user who gets one has a limit record from then on. The answer
is the session of the connection, or why it is refused. -/
def connect (user : UInt64) (ip : IpAddr) : Except Error (Except Refusal Nat) × Scope :=
  if scope.isOpen then
    let (result, connections) :=
      scope.connections.connect (scope.key user) ip (scope.admissionLimits user)
    match result with
    | .error refusal => (.ok (.error refusal), { scope with connections })
    | .ok session =>
      (.ok (.ok session),
        { scope with connections, speed := scope.speed.ensureUser (scope.key user) })
  else (.error scope.closed, scope)

/-- Closes a connection of a user, of the given session if one is given. The last one takes the
user's bucket with it. -/
def release (user : UInt64) (ip : IpAddr) (session : Option Nat) : Scope :=
  let (isOffline, connections) := scope.connections.release (scope.key user) ip session
  if isOffline then
    { scope with connections, speed := scope.speed.dropBucket (scope.key user) }
  else { scope with connections }

/-- The bucket that holds a user to its cap. -/
def getBucket (user : UInt64) (now : Timestamp) : Option IssuedBucket × Scope :=
  let (issued, speed) := scope.speed.getBucket (scope.key user) scope.limits.speedLimit now
  (issued, { scope with speed })

/-- Puts the state of a user's bucket back. -/
def updateBucket (user : UInt64) (issued : IssuedBucket) : Scope :=
  { scope with speed := scope.speed.updateBucket (scope.key user) issued }

/-- The speed cap in force for a user. -/
def effectiveCap (user : UInt64) (now : Timestamp) : UInt64 × Scope :=
  let (cap, speed) := scope.speed.effectiveCap (scope.key user) scope.limits.speedLimit now
  (cap, { scope with speed })

/-- The index of the first domain rule that matches a destination. -/
def firstDomainMatch (destination : String) : Option Nat :=
  scope.rules.firstDomainMatch Pattern.language destination

/-- Whether a domain rule matches a destination. -/
def matchDomain (destination : String) : Bool := scope.rules.matchDomain Pattern.language destination

/-- Whether a protocol is blocked. -/
def matchProtocol (protocol : String) : Bool := scope.rules.matchProtocol protocol

/-- Counts traffic of a user. -/
def reportTraffic (user : UInt64) (traffic : Traffic) : Scope :=
  { scope with ledger := scope.ledger.record (scope.key user) traffic }

/-! ### Control path -/

/-- Forgets a user: session, record, bucket and escalation count. -/
def removeUser (user : UInt64) : Scope :=
  { scope with
    connections := scope.connections.removeUser (scope.key user)
    speed := scope.speed.removeUser (scope.key user)
    escalator := scope.escalator.removeUser (scope.key user) }

/-- Gives a user of the roster a fresh record. -/
def insertUser (user : RosterUser) : Scope :=
  { scope with
    speed := scope.speed.insertUser (scope.key user.id) user.speedLimit user.deviceLimit }

/-- Takes the removed users away, then puts the added ones in. -/
def changeRoster (diff : RosterDiff) : Scope :=
  diff.added.foldl insertUser (diff.removed.foldl (fun s user => s.removeUser user.id) scope)

/-- Changes the roster of an open scope. -/
def applyRosterDiff (diff : RosterDiff) : Except Error Unit × Scope :=
  if scope.isOpen then (.ok (), scope.changeRoster diff) else (.error scope.closed, scope)

/-- Puts a rule set in place of the one in force. -/
def replaceRules (rules : RuleSet) : Scope :=
  { scope with rules := CompiledRules.compile Pattern.language rules }

/-- Sets the caps of the node, and says whether that changes them. -/
def setLimits (limits : NodeLimits) : Bool × Scope :=
  (scope.limits ≠ limits, { scope with limits })

/-- Puts a configuration for escalations in force. -/
def setDynamicLimit (config : Option DynamicLimit) : Scope :=
  { scope with escalator := scope.escalator.setConfig config }

/-- The limit record of a user. -/
def record? (user : UInt64) : Option LimitRecord := scope.speed.record? (scope.key user)

/-- The open connections of a user. -/
def connectionsOf (user : UInt64) : Nat := scope.connections.connections (scope.key user)

/-- Takes out the traffic counted since the last time. -/
def drainTraffic : List TrafficEntry × Scope :=
  let (entries, ledger) := scope.ledger.drain
  (entries, { scope with ledger })

/-- Puts traffic back that could not be delivered. -/
def creditTraffic (entries : List TrafficEntry) : Scope :=
  { scope with ledger := scope.ledger.credit entries }

/-- Counts one entry of delivered traffic towards an escalation, and says whether it was one. -/
def escalateEntry (entry : TrafficEntry) (now : Timestamp) : Bool × Scope :=
  let (isEscalated, escalator, speed) :=
    scope.escalator.accumulate scope.speed entry.1 entry.2.total now
  (isEscalated, { scope with escalator, speed })

/-- Counts delivered traffic towards escalations. The answer lists the users whose speed was reduced,
in the order of the entries. -/
def escalate (now : Timestamp) : List TrafficEntry → Scope → List UInt64 × Scope
  | [], scope => ([], scope)
  | entry :: rest, scope =>
    let (isEscalated, scope) := scope.escalateEntry entry now
    let (users, scope) := escalate now rest scope
    (if isEscalated then entry.1.user :: users else users, scope)

/-- The addresses from which users are online here. -/
def onlineView : OnlineView := scope.connections.snapshot

/-- Ends the online window without word from other nodes. -/
def endWindow : Scope :=
  { scope with connections := scope.connections.endWindow scope.recorderEnabled }

/-- Ends the online window with what other nodes report. -/
def mergeOnline (entries : List UserIps) : Scope :=
  { scope with connections := scope.connections.mergeReported scope.name entries }

/-- Ends the online window where word from other nodes failed to come. -/
def discardWindow : Scope := { scope with connections := scope.connections.resetWindow }

/-- Closes the scope and empties it. The caps of the node stay. -/
def teardown : Scope :=
  { scope with
    isOpen := false
    connections := scope.connections.clear
    speed := scope.speed.clear
    rules := {}
    escalator := scope.escalator.clear
    ledger := {} }

/-- The scope in numbers. -/
def stats : ScopeStats where
  users := scope.speed.userCount
  onlineUsers := scope.connections.onlineUsers
  connections := scope.connections.totalConnections
  buckets := scope.speed.bucketCount
  domainRules := scope.rules.domainCount
  protocolRules := scope.rules.protocolCount

end Scope

end Tollgate
