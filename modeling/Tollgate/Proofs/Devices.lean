import Mathlib.Data.Set.Card
import Tollgate.Proofs.Operation

/-!
# Active devices

Connections from one address make one device; it is active as long as it has open connections or
other nodes report it (`activeDevicesOf_eq_ncard`). Whatever is not a connection of the user leaves
the user with no more connections than before, and whatever does not bring in the word of other
nodes either leaves no device active that was not (`Eases`).
-/

namespace Tollgate

/-! ### Devices of a session -/

namespace Session

variable {session after : Session} {ip : IpAddr}

theorem mem_activeIps : ip ∈ session.activeIps ↔ session.isActive ip = true := by
  simp only [activeIps, List.mem_map, List.mem_filter, isActive, device]
  constructor
  · rintro ⟨⟨ip', device⟩, ⟨member, active⟩, rfl⟩
    rw [Table.mem_toList_iff.1 member]
    exact active
  · intro active
    cases found : session.devices.get? ip with
    | none =>
      rw [found] at active
      cases active
    | some device =>
      rw [found] at active
      exact ⟨(ip, device), ⟨Table.mem_toList_iff.2 found, active⟩, rfl⟩

theorem nodup_activeIps : session.activeIps.Nodup := by
  rw [activeIps, List.Nodup, List.pairwise_map]
  refine (session.devices.ascending.filter _).imp ?_
  intro entry other below same
  rw [same, Table.compare_same] at below
  cases below

/-- Fewer addresses, fewer devices. -/
theorem activeDevices_le_length {ips : List IpAddr}
    (listed : ∀ ip, session.isActive ip = true → ip ∈ ips) : session.activeDevices ≤ ips.length :=
  (List.subperm_of_subset nodup_activeIps fun _ member =>
    listed _ (mem_activeIps.1 member)).length_le

theorem activeDevices_le (kept : ∀ ip, after.isActive ip = true → session.isActive ip = true) :
    after.activeDevices ≤ session.activeDevices :=
  activeDevices_le_length fun ip active => mem_activeIps.2 (kept ip active)

/-- The devices are counted right. -/
theorem activeDevices_eq_ncard :
    session.activeDevices = {ip | session.isActive ip = true}.ncard := by
  have same : {ip | session.isActive ip = true} = (session.activeIps.toFinset : Set IpAddr) := by
    ext ip
    simp [mem_activeIps]
  rw [same, Set.ncard_coe_finset, List.toFinset_card_of_nodup nodup_activeIps]
  rfl

theorem isActive_of_connect {ip' : IpAddr} (active : (session.connect ip).isActive ip' = true) :
    ip' = ip ∨ session.isActive ip' = true := by
  by_cases same : ip = ip'
  · exact Or.inl same.symm
  · rw [isActive, device_connect, if_neg same] at active
    exact Or.inr active

/-- A connection makes one device active at most, and none if its device is active already. -/
theorem activeDevices_connect_le :
    (session.connect ip).activeDevices ≤
      if session.isActive ip = true then session.activeDevices else session.activeDevices + 1 := by
  split
  next known =>
    refine activeDevices_le fun ip' active => ?_
    rcases isActive_of_connect active with rfl | active
    · exact known
    · exact active
  next =>
    refine @activeDevices_le_length _ (ip :: session.activeIps) fun ip' active => ?_
    rcases isActive_of_connect active with rfl | active
    · exact List.mem_cons_self
    · exact List.mem_cons_of_mem _ (mem_activeIps.2 active)

theorem isActive_of_disconnect {ip' : IpAddr}
    (active : (session.disconnect ip).isActive ip' = true) : session.isActive ip' = true := by
  rw [isActive, device_disconnect] at active
  split at active
  · simp only [Device.isActive, Bool.or_eq_true, decide_eq_true_eq] at active
    simp only [isActive, Device.isActive, Bool.or_eq_true, decide_eq_true_eq]
    rcases active with opened | remote
    · exact Or.inl (by omega)
    · exact Or.inr remote
  · exact active

theorem isActive_of_afterWindow (active : session.afterWindow.isActive ip = true) :
    session.isActive ip = true := by
  rw [isActive, device_afterWindow] at active
  simp only [Device.isActive, Bool.or_false] at active
  simp only [isActive, Device.isActive, active, Bool.true_or]

end Session

namespace Scope

/-- The number of active devices of a user. -/
def activeDevicesOf (scope : Scope) (user : UInt64) : Nat :=
  scope.connections.activeDevices (scope.key user)

/-- The addresses from which a user has open connections or is reported by other nodes. -/
def onlineAddresses (scope : Scope) (user : UInt64) : Set IpAddr :=
  {ip | ∃ session, scope.session? user = some session ∧
    (0 < (session.device ip).connections ∨ (session.device ip).isRemote = true)}

variable {scope after : Scope} {user : UInt64}

theorem activeDevicesOf_of_some {session : Session} (found : scope.session? user = some session) :
    scope.activeDevicesOf user = session.activeDevices := by
  show ((scope.session? user).map _).getD 0 = _
  rw [found]
  rfl

theorem activeDevicesOf_of_none (unknown : scope.session? user = none) :
    scope.activeDevicesOf user = 0 := by
  show ((scope.session? user).map _).getD 0 = _
  rw [unknown]
  rfl

theorem activeDevicesOf_eq_ncard :
    scope.activeDevicesOf user = (scope.onlineAddresses user).ncard := by
  cases found : scope.session? user with
  | some session =>
    have same : scope.onlineAddresses user = {ip | session.isActive ip = true} := by
      ext ip
      simp [onlineAddresses, found, Session.isActive, Device.isActive]
    rw [activeDevicesOf_of_some found, same, Session.activeDevices_eq_ncard]
  | none =>
    have same : scope.onlineAddresses user = ∅ := by
      ext ip
      simp [onlineAddresses, found]
    rw [activeDevicesOf_of_none found, same, Set.ncard_empty]

/-! ### What does not bring a user closer to a cap -/

/-- A user has at most the connections that there were before, and no device is active that was not.
-/
structure Eases (user : UInt64) (before after : Scope) : Prop where
  connections_le : after.connectionsOf user ≤ before.connectionsOf user
  active : ∀ session, after.session? user = some session → ∀ ip, session.isActive ip = true →
    ∃ old, before.session? user = some old ∧ old.isActive ip = true

theorem Eases.refl : Eases user scope scope :=
  ⟨Nat.le_refl _, fun session found _ active => ⟨session, found, active⟩⟩

theorem Eases.trans {first second third : Scope} (h : Eases user first second)
    (h' : Eases user second third) : Eases user first third where
  connections_le := Nat.le_trans h'.connections_le h.connections_le
  active session found ip active := by
    obtain ⟨middle, found', active'⟩ := h'.active session found ip active
    exact h.active middle found' ip active'

theorem Eases.activeDevicesOf_le (h : Eases user scope after) :
    after.activeDevicesOf user ≤ scope.activeDevicesOf user := by
  cases found : after.session? user with
  | none =>
    rw [activeDevicesOf_of_none found]
    exact Nat.zero_le _
  | some session =>
    rw [activeDevicesOf_of_some found]
    cases known : scope.session? user with
    | some old =>
      rw [activeDevicesOf_of_some known]
      refine Session.activeDevices_le fun ip active => ?_
      obtain ⟨old', known', active'⟩ := h.active session found ip active
      rw [Option.some.inj (known.symm.trans known')]
      exact active'
    | none =>
      have none_active := @Session.activeDevices_le_length session [] fun ip active => by
        obtain ⟨old, known', -⟩ := h.active session found ip active
        exact nomatch known.symm.trans known'
      exact Nat.le_trans none_active (Nat.zero_le _)

/-- The session of the user is the same. -/
theorem Eases.of_same (same : after.session? user = scope.session? user) :
    Eases user scope after where
  connections_le := by
    show ((after.session? user).map _).getD 0 ≤ ((scope.session? user).map _).getD 0
    rw [same]
  active session found _ active := ⟨session, same ▸ found, active⟩

/-- The session of the user ends. -/
theorem Eases.of_none (gone : after.session? user = none) : Eases user scope after where
  connections_le := by
    rw [connectionsOf_of_none gone]
    exact Nat.zero_le _
  active session found := nomatch gone.symm.trans found

/-- One session of the user in place of another. -/
theorem Eases.of_some {old session : Session} (known : scope.session? user = some old)
    (found : after.session? user = some session) (le : session.connections ≤ old.connections)
    (active : ∀ ip, session.isActive ip = true → old.isActive ip = true) :
    Eases user scope after where
  connections_le := by
    rw [connectionsOf_of_some known, connectionsOf_of_some found]
    exact le
  active session' found' ip active' := by
    obtain rfl := Option.some.inj (found.symm.trans found')
    exact ⟨old, known, active ip active'⟩

theorem eases_release (user' : UInt64) (ip : IpAddr) (id : Option Nat) :
    Eases user scope (scope.release user' ip id) := by
  obtain ⟨speed, frame, -⟩ := scope.release_frame user' ip id
  rw [frame]
  rcases scope.release_cases user' ip id with ⟨session, known, -, -, closed⟩ | ⟨nothing, -⟩
  · rw [closed]
    have look := scope.session?_setSession user' (session.disconnect ip) user
    by_cases own : user' = user
    · subst own
      rw [if_pos rfl] at look
      exact .of_some known look (Nat.sub_le _ _) fun _ => Session.isActive_of_disconnect
    · rw [if_neg own] at look
      exact .of_same look
  · rw [nothing]
    exact .of_same rfl

theorem eases_removeUser (user' : UInt64) : Eases user scope (scope.removeUser user') := by
  have look := @ConnectionLimiter.session?_removeUser scope.connections (scope.key user')
    (scope.key user)
  split at look
  · exact .of_none look
  · exact .of_same look

theorem eases_resetWindow :
    Eases user scope { scope with connections := scope.connections.resetWindow } := by
  have look := @ConnectionLimiter.session?_closeWindow scope.connections (fun _ session => session)
    (scope.key user)
  cases known : scope.session? user with
  | none =>
    have known' : scope.connections.session? (scope.key user) = none := known
    rw [known'] at look
    exact .of_none look
  | some session =>
    have known' : scope.connections.session? (scope.key user) = some session := known
    rw [known', Option.map_some, Option.filter_some] at look
    split at look
    · exact .of_some known look (Nat.le_refl _) fun _ => Session.isActive_of_afterWindow
    · exact .of_none look

theorem eases_endWindow : Eases user scope scope.endWindow := by
  unfold endWindow ConnectionLimiter.endWindow
  split
  · exact .of_same rfl
  · exact eases_resetWindow

/-- A connection of another user. -/
theorem eases_connect_of_ne {user' : UInt64} (other : user' ≠ user) (ip : IpAddr) :
    Eases user scope (scope.connect user' ip).2 := by
  cases isOpen : scope.isOpen with
  | false =>
    rw [connect_of_closed isOpen]
    exact .refl
  | true =>
    rw [connect_of_open isOpen]
    split
    · exact .refl
    · have look := scope.session?_admitted user' ip rfl user
      rw [if_neg other] at look
      exact .of_same look


end Scope

namespace Operation

/-- Whether an operation asks for a connection of a user. -/
def connects (user : UInt64) : Operation → Bool
  | .connect user' _ => user' = user
  | _ => false

theorem eq_connect_of_connects {user : UInt64} {operation : Operation}
    (own : operation.connects user = true) : ∃ ip, operation = .connect user ip := by
  cases operation with
  | connect user' ip =>
    obtain rfl := of_decide_eq_true own
    exact ⟨ip, rfl⟩
  | _ => cases own

end Operation

namespace Scope

variable {scope after : Scope} {user : UInt64}

theorem eases_perform {operation : Operation} (other : operation.connects user = false)
    (alone : operation.isMerge = false) : Eases user scope (scope.perform operation) := by
  cases operation with
  | connect user' ip => exact eases_connect_of_ne (of_decide_eq_false other) ip
  | release user' ip id => exact eases_release user' ip id
  | removeUser user' => exact eases_removeUser user'
  | applyRosterDiff diff =>
    exact applyRosterDiff_induction (motive := fun s => Eases user scope s) .refl
      (fun _ user' eased => eased.trans (eases_removeUser user'))
      (fun _ _ eased => eased.trans (.of_same rfl))
  | escalate now entries =>
    obtain ⟨escalator, speed, frame⟩ := scope.escalate_frame now entries
    rw [perform, frame]
    exact .of_same rfl
  | endWindow => exact eases_endWindow
  | mergeOnline entries => cases alone
  | discardWindow => exact eases_resetWindow
  | teardown => exact .of_none rfl
  | _ => exact .of_same rfl

/-- The word of other nodes opens no connection. -/
theorem connectionsOf_mergeOnline_le (entries : List UserIps) :
    (scope.mergeOnline entries).connectionsOf user ≤ scope.connectionsOf user := by
  have kept : scope.connections.Keeps (scope.mergeOnline entries).connections :=
    ConnectionLimiter.keeps_mergeRemote _
  cases found : (scope.mergeOnline entries).session? user with
  | none =>
    rw [connectionsOf_of_none found]
    exact Nat.zero_le _
  | some session =>
    rw [connectionsOf_of_some found]
    rcases kept.session_cases (scope.key user) session found with ⟨old, known, same⟩ | ⟨idle, -⟩
    · rw [connectionsOf_of_some known, same.connections_eq]
    · rw [idle.connections_eq]
      exact Nat.zero_le _

theorem connectionsOf_perform_le {operation : Operation} (other : operation.connects user = false) :
    (scope.perform operation).connectionsOf user ≤ scope.connectionsOf user := by
  by_cases alone : operation.isMerge = true
  · cases operation with
    | mergeOnline entries => exact connectionsOf_mergeOnline_le entries
    | _ => cases alone
  · exact (eases_perform other (Bool.not_eq_true _ ▸ alone)).connections_le

end Scope

end Tollgate
