import Tollgate.Proofs.Devices

/-!
# Caps over whole runs

A user's connections and active devices are capped when a connection is asked for, and at no other
time; what other nodes report may exceed the cap on devices. A connection that is granted is within
the caps, and nothing else brings the user closer to them but the word of other nodes. So the bounds
that hold at the start, or after the latest word, hold from there on.
-/

namespace Tollgate

namespace Session

variable {session : Session} {ip : IpAddr}

/-- Who is granted a connection is within the caps with it. -/
theorem connect_within {limits : AdmissionLimits} (granted : session.refusal? ip limits = none) :
    (0 < limits.connLimit → (session.connect ip).connections ≤ limits.connLimit) ∧
      (0 < limits.deviceLimit → session.isActive ip = false →
        (session.connect ip).activeDevices ≤ limits.deviceLimit) := by
  unfold refusal? at granted
  split at granted
  · cases granted
  next fits =>
    split at granted
    · cases granted
    next room =>
      refine ⟨?_, ?_⟩
      · intro capped
        have counted : (session.connect ip).connections ≤ session.connections + 1 :=
          Nat.min_le_left _ _
        omega
      · intro capped inactive
        have counted := @activeDevices_connect_le session ip
        rw [if_neg (by simp [inactive])] at counted
        have free : session.activeDevices < limits.deviceLimit := by
          by_contra full
          exact room ⟨capped, inactive, Nat.le_of_not_lt full⟩
        exact Nat.le_trans counted free

end Session

namespace Scope

variable {scope after : Scope} {user : UInt64}

/-! ### Connections of the user -/

/-- The session that a connection would join has the devices of the user, also if it would only
begin. -/
theorem devices_sessionOrNew {session : Session}
    (joined : scope.connections.sessionOrNew (scope.key user) = session) :
    session.activeDevices = scope.activeDevicesOf user ∧
      ∀ ip, session.isActive ip = true ↔ ip ∈ scope.onlineAddresses user := by
  cases known : scope.session? user with
  | some old =>
    obtain rfl := (ConnectionLimiter.sessionOrNew_of_some known).symm.trans joined
    refine ⟨(activeDevicesOf_of_some known).symm, fun ip => ?_⟩
    simp [onlineAddresses, known, Session.isActive, Device.isActive]
  | none =>
    obtain rfl := (ConnectionLimiter.sessionOrNew_of_none known).symm.trans joined
    refine ⟨(activeDevicesOf_of_none known).symm, fun ip => ?_⟩
    simp [onlineAddresses, known, Session.isActive, Session.device, Device.isActive]

/-- A connection of the user that is granted, with both caps and with what was there before. -/
structure Granted (scope : Scope) (user : UInt64) (ip : IpAddr) (after : Scope) : Prop where
  connections_le : 0 < (scope.admissionLimits user).connLimit →
    after.connectionsOf user ≤ (scope.admissionLimits user).connLimit
  devices_le : 0 < (scope.admissionLimits user).deviceLimit → ip ∉ scope.onlineAddresses user →
    after.activeDevicesOf user ≤ (scope.admissionLimits user).deviceLimit
  devices_le_of_online : ip ∈ scope.onlineAddresses user →
    after.activeDevicesOf user ≤ scope.activeDevicesOf user

/-- A connection is refused without a trace, or granted within the caps. -/
theorem connect_cases (user : UInt64) (ip : IpAddr) :
    ((∀ session, (scope.connect user ip).1 ≠ .ok (.ok session)) ∧
        (scope.connect user ip).2 = scope) ∨
      scope.Granted user ip (scope.connect user ip).2 := by
  cases isOpen : scope.isOpen with
  | false =>
    rw [connect_of_closed isOpen]
    exact Or.inl ⟨fun _ granted => (nomatch granted), rfl⟩
  | true =>
    rw [connect_of_open isOpen]
    generalize joined : scope.connections.sessionOrNew (scope.key user) = session
    obtain ⟨devices, online⟩ := devices_sessionOrNew joined
    cases decided : session.refusal? ip (scope.admissionLimits user) with
    | some refusal => exact Or.inl ⟨fun _ granted => (nomatch granted), rfl⟩
    | none =>
      right
      dsimp only
      have look := scope.session?_admitted user ip joined user
      rw [if_pos rfl] at look
      generalize admitted : ({ scope with
        connections := scope.connections.admitted (scope.key user) ip
        speed := scope.speed.ensureUser (scope.key user) } : Scope) = after
      have found : after.session? user = some (session.connect ip) := by
        rw [← admitted]
        exact look
      obtain ⟨connections_le, devices_le⟩ := Session.connect_within decided
      refine ⟨?_, ?_, ?_⟩
      · rw [connectionsOf_of_some found]
        exact connections_le
      · intro capped offline
        rw [activeDevicesOf_of_some found]
        refine devices_le capped ?_
        rw [← Bool.not_eq_true, online]
        exact offline
      · intro known
        have counted := @Session.activeDevices_connect_le session ip
        rw [if_pos ((online ip).2 known), devices] at counted
        rw [activeDevicesOf_of_some found]
        exact counted

/-! ### Runs -/

/-- The caps on a user's connections are the same in every state of a run. -/
def Steady (scope : Scope) (user : UInt64) (operations : List Operation) (caps : AdmissionLimits) :
    Prop :=
  ∀ before, before <+: operations → (scope.performAll before).admissionLimits user = caps

theorem Steady.tail {operation : Operation} {rest : List Operation} {caps : AdmissionLimits}
    (h : Steady scope user (operation :: rest) caps) :
    Steady (scope.perform operation) user rest caps := by
  intro before started
  exact h (operation :: before) (List.cons_prefix_cons.2 ⟨rfl, started⟩)

theorem Steady.drop {first second : List Operation} {caps : AdmissionLimits}
    (h : Steady scope user (first ++ second) caps) :
    Steady (scope.performAll first) user second caps := by
  intro before started
  rw [← performAll_append]
  exact h (first ++ before) ((List.prefix_append_right_inj first).2 started)

/-- No operation takes a user past the cap on connections. -/
theorem connectionsOf_perform_le_cap (operation : Operation) {caps : AdmissionLimits}
    (here : scope.admissionLimits user = caps) (capped : 0 < caps.connLimit)
    (within : scope.connectionsOf user ≤ caps.connLimit) :
    (scope.perform operation).connectionsOf user ≤ caps.connLimit := by
  subst here
  by_cases own : operation.connects user = true
  · obtain ⟨ip, rfl⟩ := Operation.eq_connect_of_connects own
    rcases scope.connect_cases user ip with ⟨-, same⟩ | granted
    · rw [perform, same]
      exact within
    · exact granted.connections_le capped
  · exact Nat.le_trans (connectionsOf_perform_le (Bool.not_eq_true _ ▸ own)) within

/-- Only the word of other nodes takes a user past a bound on active devices that leaves room for
the cap. -/
theorem activeDevicesOf_perform_le {operation : Operation} {caps : AdmissionLimits} {bound : Nat}
    (here : scope.admissionLimits user = caps) (capped : 0 < caps.deviceLimit)
    (room : caps.deviceLimit ≤ bound) (alone : operation.isMerge = false)
    (within : scope.activeDevicesOf user ≤ bound) :
    (scope.perform operation).activeDevicesOf user ≤ bound := by
  subst here
  by_cases own : operation.connects user = true
  · obtain ⟨ip, rfl⟩ := Operation.eq_connect_of_connects own
    rcases scope.connect_cases user ip with ⟨-, same⟩ | granted
    · rw [perform, same]
      exact within
    · by_cases known : ip ∈ scope.onlineAddresses user
      · exact Nat.le_trans (granted.devices_le_of_online known) within
      · exact Nat.le_trans (granted.devices_le capped known) room
  · have eased : Eases user scope (scope.perform operation) :=
      eases_perform (Bool.not_eq_true _ ▸ own) alone
    exact Nat.le_trans eased.activeDevicesOf_le within

theorem connectionsOf_performAll_le_cap {operations : List Operation} {caps : AdmissionLimits}
    (steady : Steady scope user operations caps) (capped : 0 < caps.connLimit)
    (within : scope.connectionsOf user ≤ caps.connLimit) :
    (scope.performAll operations).connectionsOf user ≤ caps.connLimit := by
  induction operations generalizing scope with
  | nil => exact within
  | cons operation rest ih =>
    apply ih steady.tail
    exact connectionsOf_perform_le_cap operation (steady [] List.nil_prefix) capped within

/-- A bound that leaves room for the cap lasts until other nodes have a word. -/
theorem activeDevicesOf_performAll_le {operations : List Operation} {caps : AdmissionLimits}
    {bound : Nat} (steady : Steady scope user operations caps) (capped : 0 < caps.deviceLimit)
    (room : caps.deviceLimit ≤ bound)
    (alone : ∀ operation ∈ operations, operation.isMerge = false)
    (within : scope.activeDevicesOf user ≤ bound) :
    (scope.performAll operations).activeDevicesOf user ≤ bound := by
  induction operations generalizing scope with
  | nil => exact within
  | cons operation rest ih =>
    apply ih steady.tail
    · intro later member
      exact alone later (List.mem_cons_of_mem _ member)
    · exact activeDevicesOf_perform_le (steady [] List.nil_prefix) capped room
        (alone operation List.mem_cons_self) within

/-- The cap on a user's devices: the tighter of the node's and the one in the user's record. -/
def deviceCap (scope : Scope) (user : UInt64) : Nat :=
  (Cap.tighter scope.limits.deviceLimit.toUInt64
    (scope.speed.deviceLimit (scope.key user)).toUInt64).toNat

theorem steady_of_limits {operations : List Operation}
    (same : ∀ before, before <+: operations →
      (scope.performAll before).limits = scope.limits ∧
        (scope.performAll before).speed.deviceLimit (scope.key user) =
          scope.speed.deviceLimit (scope.key user)) :
    Steady scope user operations ⟨scope.limits.connLimit.toNat, scope.deviceCap user⟩ := by
  intro before started
  obtain ⟨limits, deviceLimit⟩ := same before started
  simp only [admissionLimits, deviceCap, limits, key_performAll, deviceLimit]

end Scope

/-- From a user without connections and active devices on, and while the caps stay as they are: a
user never has more connections than the cap, and never more active devices than the cap before
other nodes have a word. After their latest word it is at most that many, or as many as were online
right after it. A connection from an address that was not online never takes the user past the cap.
-/
theorem caps_are_enforced {start : Scope} {user : UInt64} {operations : List Operation}
    (offline : start.connectionsOf user = 0) (inactive : start.activeDevicesOf user = 0)
    (steady : ∀ before, before <+: operations →
      (start.performAll before).limits = start.limits ∧
        (start.performAll before).speed.deviceLimit (start.key user) =
          start.speed.deviceLimit (start.key user)) :
    (0 < start.limits.connLimit.toNat →
      (start.performAll operations).connectionsOf user ≤ start.limits.connLimit.toNat) ∧
    (0 < start.deviceCap user →
      ((∀ operation ∈ operations, operation.isMerge = false) →
        (start.performAll operations).activeDevicesOf user ≤ start.deviceCap user) ∧
      (∀ before entries after, operations = before ++ .mergeOnline entries :: after →
        (∀ operation ∈ after, operation.isMerge = false) →
        (start.performAll operations).activeDevicesOf user ≤
          max (start.deviceCap user)
            ((start.performAll (before ++ [.mergeOnline entries])).onlineAddresses user).ncard) ∧
      (∀ before ip after, operations = before ++ .connect user ip :: after →
        (∃ session, ((start.performAll before).connect user ip).1 = .ok (.ok session)) →
        ip ∉ (start.performAll before).onlineAddresses user →
        (start.performAll (before ++ [.connect user ip])).activeDevicesOf user ≤
          start.deviceCap user)) := by
  have fixed := Scope.steady_of_limits steady
  refine ⟨?_, fun capped => ⟨?_, ?_, ?_⟩⟩
  · intro capped
    refine Scope.connectionsOf_performAll_le_cap fixed capped ?_
    rw [offline]
    exact Nat.zero_le _
  · intro alone
    refine Scope.activeDevicesOf_performAll_le fixed capped (Nat.le_refl _) alone ?_
    rw [inactive]
    exact Nat.zero_le _
  · rintro before entries after rfl alone
    have split : before ++ .mergeOnline entries :: after =
        (before ++ [.mergeOnline entries]) ++ after := by simp
    rw [split] at fixed ⊢
    rw [@Scope.performAll_append start (before ++ [Operation.mergeOnline entries]) after]
    refine Scope.activeDevicesOf_performAll_le fixed.drop capped (Nat.le_max_left _ _) alone ?_
    rw [Scope.activeDevicesOf_eq_ncard]
    exact Nat.le_max_right _ _
  · rintro before ip after rfl ⟨session, accepted⟩ unknown
    have here : (start.performAll before).admissionLimits user = _ :=
      fixed before (List.prefix_append _ _)
    rw [Scope.performAll_append]
    rcases (start.performAll before).connect_cases user ip with ⟨refused, -⟩ | granted
    · exact absurd accepted (refused session)
    · have within := granted.devices_le
      rw [here] at within
      exact within capped unknown

/-- Other nodes report more devices than the cap allows. They stay, and a device more is refused. -/
theorem caps_are_enforced_merged :
    ∃ (start : Scope) (operations : List Operation) (merged : List Operation),
      merged = [.connect 7 (.v4 1), .mergeOnline [⟨7, [.v4 1, .v4 2, .v4 3]⟩]] ∧
      operations = merged ++ [.connect 7 (.v4 4)] ∧ start.deviceCap 7 = 2 ∧
      ((start.performAll merged).onlineAddresses 7).ncard = 3 ∧
      (start.performAll operations).connectionsOf 7 ≤ 3 ∧
      (start.performAll operations).activeDevicesOf 7 ≤ 3 := by
  let start := Scope.activate "a" { limits := { connLimit := 3, deviceLimit := 2 } }
  let merged : List Operation :=
    [.connect 7 (.v4 1), .mergeOnline [⟨7, [.v4 1, .v4 2, .v4 3]⟩]]
  have steady : ∀ before, before <+: merged ++ [Operation.connect 7 (.v4 4)] →
      (start.performAll before).limits = start.limits ∧
        (start.performAll before).speed.deviceLimit (start.key 7) =
          start.speed.deviceLimit (start.key 7) := by
    have all : ∀ before ∈ (merged ++ [Operation.connect 7 (.v4 4)]).inits,
        (start.performAll before).limits = start.limits ∧
          (start.performAll before).speed.deviceLimit (start.key 7) =
            start.speed.deviceLimit (start.key 7) := by decide
    exact fun before started => all before ((List.mem_inits _ _).2 started)
  obtain ⟨connections, devices⟩ := caps_are_enforced (by decide) (by decide) steady
  obtain ⟨-, bounded, -⟩ := devices (by decide)
  have online : ((start.performAll merged).onlineAddresses 7).ncard = 3 := by
    rw [← Scope.activeDevicesOf_eq_ncard]
    decide
  refine ⟨start, _, merged, rfl, rfl, by decide, online, connections (by decide), ?_⟩
  have within := bounded [.connect 7 (.v4 1)] [⟨7, [.v4 1, .v4 2, .v4 3]⟩] [.connect 7 (.v4 4)] rfl
    (by decide)
  exact Nat.le_trans within (Nat.max_le.2 ⟨by decide, Nat.le_of_eq online⟩)

end Tollgate
