import Tollgate.Proofs.CapEnforcement
import Tollgate.Proofs.Leases
import Tollgate.Proofs.Merging
import Tollgate.Proofs.RosterEffect

/-!
# Admission

A connection is decided by the session that it would join. A user without a session is decided by a
new one, which has no connections and no devices and is refused by no caps (`Session.refusal?_new`);
this is why a refusal never leaves a session behind. The three answers exclude each other
(`Session.refusal?_eq_none_iff` and the two lemmas before it), a refusal leaves the scope as it was,
and a grant changes the session and the record of one user (`Scope.Admits`).
-/

namespace Tollgate

namespace Session

variable {session : Session} {ip : IpAddr} {limits : AdmissionLimits}

/-! ### The three answers -/

theorem refusal?_eq_connectionLimit_iff :
    session.refusal? ip limits = some .connectionLimit ↔
      0 < limits.connLimit ∧ limits.connLimit ≤ session.connections := by
  unfold refusal?
  split
  next full => exact ⟨fun _ => full, fun _ => rfl⟩
  next room =>
    constructor
    · intro refused
      split at refused
      · cases refused
      · cases refused
    · intro full
      exact absurd full room

theorem refusal?_eq_deviceLimit_iff :
    session.refusal? ip limits = some .deviceLimit ↔
      ¬ (0 < limits.connLimit ∧ limits.connLimit ≤ session.connections) ∧
        0 < limits.deviceLimit ∧ session.isActive ip = false ∧
          limits.deviceLimit ≤ session.activeDevices := by
  unfold refusal?
  split
  next full => exact ⟨fun refused => (nomatch refused), fun both => absurd full both.1⟩
  next room =>
    split
    next crowded => exact ⟨fun _ => ⟨room, crowded⟩, fun _ => rfl⟩
    next free => exact ⟨fun refused => (nomatch refused), fun both => absurd both.2 free⟩

theorem refusal?_eq_none_iff :
    session.refusal? ip limits = none ↔
      ¬ (0 < limits.connLimit ∧ limits.connLimit ≤ session.connections) ∧
        ¬ (0 < limits.deviceLimit ∧ session.isActive ip = false ∧
          limits.deviceLimit ≤ session.activeDevices) := by
  unfold refusal?
  split
  next full => exact ⟨fun granted => (nomatch granted), fun both => absurd full both.1⟩
  next room =>
    split
    next crowded => exact ⟨fun granted => (nomatch granted), fun both => absurd crowded both.2⟩
    next free => exact ⟨fun _ => ⟨room, free⟩, fun _ => rfl⟩

end Session

namespace Scope

variable {scope after : Scope} {user : UInt64} {ip : IpAddr} {number : Nat}

/-! ### Caps and devices of a user -/

/-- The device limit in the record of a user. No record is no limit. -/
def ownDeviceLimit (scope : Scope) (user : UInt64) : Nat :=
  ((scope.record? user).map (·.deviceLimit.toNat)).getD 0

/-- The cap on devices is the smaller of the two limits, where zero is no limit. -/
theorem deviceCap_eq :
    scope.deviceCap user =
      if scope.limits.deviceLimit.toNat = 0 then scope.ownDeviceLimit user
      else if scope.ownDeviceLimit user = 0 then scope.limits.deviceLimit.toNat
      else min scope.limits.deviceLimit.toNat (scope.ownDeviceLimit user) := by
  have own : (scope.speed.deviceLimit (scope.key user)).toNat = scope.ownDeviceLimit user := by
    unfold ownDeviceLimit record? SpeedLimiter.deviceLimit
    cases scope.speed.record? (scope.key user) with
    | none => rfl
    | some record => rfl
  rw [deviceCap, ← own]
  generalize scope.speed.deviceLimit (scope.key user) = mine
  generalize scope.limits.deviceLimit = node
  have zero (limit : UInt32) : limit.toUInt64 = 0 ↔ limit.toNat = 0 := by
    rw [← UInt64.toNat_inj, UInt32.toNat_toUInt64]
    rfl
  unfold Cap.tighter
  simp only [zero]
  split
  · rw [UInt32.toNat_toUInt64]
  · split
    · rw [UInt32.toNat_toUInt64]
    · have least : (min node.toUInt64 mine.toUInt64).toNat =
          (if node.toUInt64 ≤ mine.toUInt64 then node.toUInt64 else mine.toUInt64).toNat := rfl
      rw [least, apply_ite UInt64.toNat]
      simp only [UInt64.le_iff_toNat_le, UInt32.toNat_toUInt64]
      rfl

/-- What is known of a device of a user. -/
def deviceOf (scope : Scope) (user : UInt64) (ip : IpAddr) : Device :=
  scope.connections.deviceOf (scope.key user) ip

theorem deviceOf_of_some {session : Session} (found : scope.session? user = some session) :
    scope.deviceOf user ip = session.device ip :=
  ConnectionLimiter.deviceOf_of_some found

theorem deviceOf_of_none (unknown : scope.session? user = none) : scope.deviceOf user ip = {} :=
  ConnectionLimiter.deviceOf_of_none unknown

theorem connectionsAt_eq_deviceOf :
    scope.connectionsAt user ip = (scope.deviceOf user ip).connections := by
  unfold connectionsAt
  cases found : scope.session? user with
  | none => rw [deviceOf_of_none found]; rfl
  | some session => rw [deviceOf_of_some found]; rfl

/-- The session that a connection would join has the connections of the user, also if it would only
begin. -/
theorem connections_sessionOrNew :
    (scope.connections.sessionOrNew (scope.key user)).connections = scope.connectionsOf user :=
  ConnectionLimiter.connections_getD _

theorem device_sessionOrNew :
    (scope.connections.sessionOrNew (scope.key user)).device ip = scope.deviceOf user ip :=
  ConnectionLimiter.device_getD _

/-! ### What a grant changes -/

/-- The scope with a connection granted. -/
def granting (scope : Scope) (user : UInt64) (ip : IpAddr) : Scope :=
  { scope with
    connections := scope.connections.admitted (scope.key user) ip
    speed := scope.speed.ensureUser (scope.key user) }

theorem session?_granting :
    (scope.granting user ip).session? user =
      some ((scope.connections.sessionOrNew (scope.key user)).connect ip) := by
  have look := scope.session?_admitted user ip rfl user
  rw [if_pos rfl] at look
  exact look

theorem deviceOf_granting (other : IpAddr) :
    (scope.granting user ip).deviceOf user other =
      if ip = other then
        { scope.deviceOf user other with
          connections := min ((scope.deviceOf user other).connections + 1) maxConnections }
      else scope.deviceOf user other := by
  rw [deviceOf_of_some session?_granting, Session.device_connect, device_sessionOrNew]

theorem holdings_granting_of_ne {key : UserKey} (other : key ≠ scope.key user) :
    (scope.granting user ip).holdings key = scope.holdings key := by
  have session := @ConnectionLimiter.session?_admitted scope.connections (scope.key user) ip key
  have record := @SpeedLimiter.record?_ensureUser scope.speed (scope.key user) key
  have bucket := @SpeedLimiter.bucket?_ensureUser scope.speed (scope.key user) key
  rw [if_neg (Ne.symm other)] at session record
  exact Holdings.ext session record bucket rfl

/-- What a granted connection leaves, counted in the session of a number. -/
structure Admits (scope : Scope) (user : UInt64) (ip : IpAddr) (number : Nat) (after : Scope) :
    Prop where
  /-- The connection joins the session that is there, or begins one under the next number. -/
  number_eq : number = ((scope.session? user).map (·.id)).getD scope.connections.nextSession
  session_id : (after.session? user).map (·.id) = some number
  nextSession_eq : after.connections.nextSession =
    if (scope.session? user).isSome then scope.connections.nextSession
    else scope.connections.nextSession + 1
  /-- It is counted for the user. -/
  connectionsOf_eq : scope.connectionsOf user < maxConnections →
    after.connectionsOf user = scope.connectionsOf user + 1
  /-- It is counted for its device, which is reported by other nodes or not as before. -/
  connectionsAt_eq : scope.connectionsAt user ip < maxConnections →
    after.connectionsAt user ip = scope.connectionsAt user ip + 1
  isRemote_eq : (after.deviceOf user ip).isRemote = (scope.deviceOf user ip).isRemote
  deviceOf_eq : ∀ other, other ≠ ip → after.deviceOf user other = scope.deviceOf user other
  /-- A record without caps is made if there is none. -/
  record_eq : after.record? user = some ((scope.record? user).getD {})
  /-- What the scope keeps for anybody else is the same. -/
  others : ∀ key, key ≠ scope.key user → after.holdings key = scope.holdings key
  /-- Nothing but sessions and records changes. -/
  frame : ∃ sessions nextSession records, after =
    { scope with
      connections := { sessions, nextSession }
      speed := { scope.speed with records } }

theorem admits_granting :
    scope.Admits user ip (scope.connections.sessionOrNew (scope.key user)).id
      (scope.granting user ip) where
  number_eq := by
    cases known : scope.session? user with
    | some old => rw [ConnectionLimiter.sessionOrNew_of_some known]; rfl
    | none => rw [ConnectionLimiter.sessionOrNew_of_none known]; rfl
  session_id := by
    rw [session?_granting]
    rfl
  nextSession_eq := rfl
  connectionsOf_eq below := by
    rw [connectionsOf_of_some session?_granting]
    rw [← connections_sessionOrNew] at below ⊢
    exact Nat.min_eq_left below
  connectionsAt_eq below := by
    rw [connectionsAt_eq_deviceOf] at below
    rw [connectionsAt_eq_deviceOf, connectionsAt_eq_deviceOf, deviceOf_granting, if_pos rfl]
    exact Nat.min_eq_left below
  isRemote_eq := by rw [deviceOf_granting, if_pos rfl]
  deviceOf_eq other differs := by rw [deviceOf_granting, if_neg (Ne.symm differs)]
  record_eq := by
    have record := @SpeedLimiter.record?_ensureUser scope.speed (scope.key user) (scope.key user)
    rw [if_pos rfl] at record
    exact record
  others key other := holdings_granting_of_ne other
  frame := by
    unfold granting SpeedLimiter.ensureUser
    split
    · exact ⟨_, _, scope.speed.records, rfl⟩
    · exact ⟨_, _, _, rfl⟩

/-- The answer of an open scope is the decision of the session that the connection would join. -/
theorem connect_decided (isOpen : scope.isOpen = true) (user : UInt64) (ip : IpAddr) :
    ∃ answer after, scope.connect user ip = (.ok answer, after) ∧
      (∀ refusal, answer = .error refusal ↔
        (scope.connections.sessionOrNew (scope.key user)).refusal? ip (scope.admissionLimits user) =
          some refusal) ∧
      ((∃ number, answer = .ok number) ↔
        (scope.connections.sessionOrNew (scope.key user)).refusal? ip (scope.admissionLimits user) =
          none) ∧
      (∀ refusal, answer = .error refusal → after = scope) ∧
      ∀ number, answer = .ok number → scope.Admits user ip number after := by
  have decided := connect_of_open isOpen user ip
  cases verdict : (scope.connections.sessionOrNew (scope.key user)).refusal? ip
      (scope.admissionLimits user) with
  | some refusal =>
    rw [verdict] at decided
    refine ⟨.error refusal, scope, decided, ?_, ?_, fun _ _ => rfl, ?_⟩
    · intro other
      rw [Except.error.injEq, Option.some.injEq]
    · constructor
      · rintro ⟨number, granted⟩
        cases granted
      · intro free
        cases free
    · intro number granted
      cases granted
  | none =>
    rw [verdict] at decided
    refine ⟨.ok _, _, decided, ?_, ?_, ?_, ?_⟩
    · intro other
      constructor
      · intro refused
        cases refused
      · intro refused
        cases refused
    · exact ⟨fun _ => rfl, fun _ => ⟨_, rfl⟩⟩
    · intro other refused
      cases refused
    · intro number granted
      obtain rfl := Except.ok.inj granted
      exact admits_granting

end Scope

/-- An open scope refuses a connection for the cap on connections exactly if the user has as many
open connections, otherwise for the cap on devices exactly if the address is not active and as many
devices are, and it grants all others. A refusal leaves the scope as it was; a grant counts the
connection for the user and its device, makes a record where there is none, and changes nothing
else. -/
theorem admission_is_exact {scope : Scope} (isOpen : scope.isOpen = true) (user : UInt64)
    (ip : IpAddr) :
    ∃ connectionCap deviceCap answer after,
      connectionCap = scope.limits.connLimit.toNat ∧
      deviceCap =
        (if scope.limits.deviceLimit.toNat = 0 then scope.ownDeviceLimit user
        else if scope.ownDeviceLimit user = 0 then scope.limits.deviceLimit.toNat
        else min scope.limits.deviceLimit.toNat (scope.ownDeviceLimit user)) ∧
      scope.connect user ip = (.ok answer, after) ∧
      (answer = .error .connectionLimit ↔
        0 < connectionCap ∧ connectionCap ≤ scope.connectionsOf user) ∧
      (answer = .error .deviceLimit ↔
        ¬ (0 < connectionCap ∧ connectionCap ≤ scope.connectionsOf user) ∧
          0 < deviceCap ∧ ip ∉ scope.onlineAddresses user ∧
            deviceCap ≤ scope.activeDevicesOf user) ∧
      ((∃ number, answer = .ok number) ↔
        ¬ (0 < connectionCap ∧ connectionCap ≤ scope.connectionsOf user) ∧
          ¬ (0 < deviceCap ∧ ip ∉ scope.onlineAddresses user ∧
            deviceCap ≤ scope.activeDevicesOf user)) ∧
      (∀ refusal, answer = .error refusal → after = scope) ∧
      ∀ number, answer = .ok number → scope.Admits user ip number after := by
  obtain ⟨answer, after, decided, refused, granted, traceless, admits⟩ :=
    Scope.connect_decided isOpen user ip
  have connections := @Scope.connections_sessionOrNew scope user
  obtain ⟨devices, online⟩ := @Scope.devices_sessionOrNew scope user _ rfl
  have inactive : (scope.connections.sessionOrNew (scope.key user)).isActive ip = false ↔
      ip ∉ scope.onlineAddresses user := by
    rw [← Bool.not_eq_true, online]
  rw [← Scope.deviceCap_eq]
  refine ⟨_, _, answer, after, rfl, rfl, decided, ?_, ?_, ?_, traceless, admits⟩
  · rw [refused, Session.refusal?_eq_connectionLimit_iff, connections]
    rfl
  · rw [refused, Session.refusal?_eq_deviceLimit_iff, connections, devices, inactive]
    rfl
  · rw [granted, Session.refusal?_eq_none_iff, connections, devices, inactive]
    rfl

/-- Two devices are active under a cap of two on the node and three in the record, one of them by
word of other nodes. A third is refused without a trace, and a user who was never seen gets a
connection from there. -/
theorem admission_is_exact_crowded :
    ∃ scope : Scope, scope =
        (Scope.activate "a" { limits := { deviceLimit := 2 } }).performAll
          [.insertUser ⟨7, ⟨0⟩, 0, 3⟩, .connect 7 (.v4 1), .mergeOnline [⟨7, [.v4 2]⟩]] ∧
      scope.isOpen = true ∧ scope.connect 7 (.v4 3) = (.ok (.error .deviceLimit), scope) ∧
      ∃ number after, scope.connect 8 (.v4 3) = (.ok (.ok number), after) ∧
        scope.Admits 8 (.v4 3) number after := by
  let scope := (Scope.activate "a" { limits := { deviceLimit := 2 } }).performAll
    [.insertUser ⟨7, ⟨0⟩, 0, 3⟩, .connect 7 (.v4 1), .mergeOnline [⟨7, [.v4 2]⟩]]
  have isOpen : scope.isOpen = true := by decide
  obtain ⟨-, -, answer, after, -, -, decided, -, -, -, traceless, -⟩ :=
    admission_is_exact isOpen 7 (.v4 3)
  obtain ⟨-, -, answer', after', -, -, decided', -, -, -, -, admits⟩ :=
    admission_is_exact isOpen 8 (.v4 3)
  have crowded : (scope.connect 7 (.v4 3)).1 = .ok (.error .deviceLimit) := by decide
  have free : (scope.connect 8 (.v4 3)).1 = .ok (.ok 1) := by decide
  rw [decided] at crowded
  rw [decided'] at free
  obtain rfl := Except.ok.inj crowded
  obtain rfl := Except.ok.inj free
  refine ⟨scope, rfl, isOpen, ?_, 1, after', decided', admits 1 rfl⟩
  rw [decided, traceless .deviceLimit rfl]

end Tollgate
