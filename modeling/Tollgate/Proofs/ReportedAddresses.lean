import Tollgate.Proofs.Admission

/-!
# Addresses that other nodes report

Other nodes report the addresses of online users as a list of entries, in which a user may have
several. The entries meet in a table, and there the last one with addresses stands for its user
(`OnlineView.addresses_ofUserIps`). So all reported addresses of a user count exactly if that entry
has the addresses of all the others.

What was taken over stays through everything but another word of other nodes, the end of a window
without it, and the removal of the user (`Scope.remoteAddresses_perform`).
-/

namespace Tollgate

/-- What the last element gives, if there is any. -/
theorem foldl_some {α β : Type} (f : α → β) (l : List α) (start : Option β) :
    l.foldl (fun _ a => some (f a)) start = (l.getLast?.map f).or start := by
  induction l generalizing start with
  | nil => rfl
  | cons a rest ih =>
    rw [List.foldl_cons, ih, List.getLast?_cons]
    cases rest.getLast? with
    | none => rfl
    | some last => rfl

/-! ### Entries -/

namespace UserIps

/-- All addresses that entries give for a user. -/
def allOf (entries : List UserIps) (user : UInt64) : Set IpAddr :=
  {ip | ∃ entry ∈ entries, entry.userId = user ∧ ip ∈ entry.ips}

/-- The addresses in the last entry for a user that has any. -/
def lastOf (entries : List UserIps) (user : UInt64) : List IpAddr :=
  ((entries.filter fun entry => entry.userId = user && !entry.ips.isEmpty).getLast?.map
    (·.ips)).getD []

variable {entries : List UserIps} {user : UInt64} {ip : IpAddr}

theorem mem_allOf_of_mem_lastOf (member : ip ∈ lastOf entries user) : ip ∈ allOf entries user := by
  unfold lastOf at member
  cases found :
      (entries.filter fun entry => entry.userId = user && !entry.ips.isEmpty).getLast? with
  | none =>
    rw [found] at member
    cases member
  | some entry =>
    rw [found] at member
    obtain ⟨listed, own⟩ := List.mem_filter.1 (List.mem_of_getLast? found)
    rw [Bool.and_eq_true, decide_eq_true_eq] at own
    exact ⟨entry, listed, own.1, member⟩

/-- The last entry for a user has all addresses if no other entry has more. -/
theorem lastOf_eq_allOf_iff :
    {ip | ip ∈ lastOf entries user} = allOf entries user ↔
      ∀ entry ∈ entries, entry.userId = user → ∀ ip ∈ entry.ips, ip ∈ lastOf entries user := by
  constructor
  · intro same entry listed own ip member
    have given : ip ∈ allOf entries user := ⟨entry, listed, own, member⟩
    rw [← same] at given
    exact given
  · intro covered
    apply Set.Subset.antisymm
    · intro ip member
      exact mem_allOf_of_mem_lastOf member
    · rintro ip ⟨entry, listed, own, member⟩
      exact covered entry listed own ip member

end UserIps

/-- In the table of a list of entries the last one with addresses stands for its user. -/
theorem OnlineView.addresses_ofUserIps (scope : String) (entries : List UserIps) (user : UInt64) :
    (OnlineView.ofUserIps scope entries).addresses ⟨scope, user⟩ =
      UserIps.lastOf entries user := by
  unfold OnlineView.addresses OnlineView.ofUserIps UserIps.lastOf
  rw [Table.get?_ofList, List.filter_map, List.foldl_map, List.filter_filter, foldl_some,
    Option.or_none]
  congr 4
  funext entry
  simp [UserKey.mk.injEq]

namespace Scope

variable {scope after : Scope} {user : UInt64} {ip : IpAddr} {operation : Operation}

/-! ### Reported addresses in a scope -/

/-- The addresses of a user that other nodes have reported. -/
def remoteAddresses (scope : Scope) (user : UInt64) : Set IpAddr :=
  {ip | (scope.deviceOf user ip).isRemote = true}

/-- The addresses from which a user has open connections. -/
def openAddresses (scope : Scope) (user : UInt64) : Set IpAddr :=
  {ip | 0 < scope.connectionsAt user ip}

theorem mem_remoteAddresses :
    ip ∈ scope.remoteAddresses user ↔ (scope.deviceOf user ip).isRemote = true := Iff.rfl

theorem mem_openAddresses :
    ip ∈ scope.openAddresses user ↔ 0 < (scope.deviceOf user ip).connections := by
  rw [← connectionsAt_eq_deviceOf]
  exact Iff.rfl

/-- The word of other nodes takes the place of what they said before. -/
theorem remoteAddresses_mergeOnline (entries : List UserIps) :
    (scope.mergeOnline entries).remoteAddresses user =
      {ip | ip ∈ UserIps.lastOf entries user} := by
  have merges := @ConnectionLimiter.merges_mergeRemote scope.connections
    (OnlineView.ofUserIps scope.name entries)
  ext ip
  have left := merges.deviceOf_eq (scope.key user) ip
  rw [key, OnlineView.addresses_ofUserIps] at left
  have marked : ((scope.mergeOnline entries).deviceOf user ip).isRemote =
      decide (ip ∈ UserIps.lastOf entries user) := congrArg Device.isRemote left
  rw [mem_remoteAddresses, marked]
  exact decide_eq_true_iff

/-- Whether an operation is the next word of other nodes about a user, ends a window without it, or
removes the user. -/
def forgetsReports (scope : Scope) (user : UInt64) : Operation → Bool
  | .mergeOnline _ | .discardWindow | .teardown => true
  | .endWindow => !scope.recorderEnabled
  | .removeUser other => other = user
  | .applyRosterDiff diff => scope.isOpen && diff.removed.any (·.id = user)
  | _ => false

theorem remoteAddresses_congr
    (same : ∀ ip, (after.deviceOf user ip).isRemote = (scope.deviceOf user ip).isRemote) :
    after.remoteAddresses user = scope.remoteAddresses user := by
  ext ip
  rw [mem_remoteAddresses, mem_remoteAddresses, same]

theorem remoteAddresses_of_session? (same : after.session? user = scope.session? user) :
    after.remoteAddresses user = scope.remoteAddresses user := by
  apply remoteAddresses_congr
  intro ip
  cases found : scope.session? user with
  | none => rw [deviceOf_of_none found, deviceOf_of_none (same.trans found)]
  | some session => rw [deviceOf_of_some found, deviceOf_of_some (same.trans found)]

theorem remoteAddresses_granting (other : UInt64) :
    (scope.granting other ip).remoteAddresses user = scope.remoteAddresses user := by
  by_cases own : other = user
  · subst own
    apply remoteAddresses_congr
    intro ip'
    rw [deviceOf_granting]
    split
    · rfl
    · rfl
  · apply remoteAddresses_of_session?
    have look := scope.session?_admitted other ip rfl user
    rw [if_neg own] at look
    exact look

theorem remoteAddresses_release (other : UInt64) (id : Option Nat) :
    (scope.release other ip id).remoteAddresses user = scope.remoteAddresses user := by
  obtain ⟨speed, released, -⟩ := scope.release_frame other ip id
  rcases scope.release_cases other ip id with ⟨session, found, -, -, closed⟩ | ⟨nothing, -⟩
  · have left : (scope.release other ip id).session? user =
        if other = user then some (session.disconnect ip) else scope.session? user := by
      rw [released, ← session?_setSession, ← closed]
      rfl
    by_cases own : other = user
    · subst own
      rw [if_pos rfl] at left
      apply remoteAddresses_congr
      intro ip'
      rw [deviceOf_of_some left, deviceOf_of_some found, Session.device_disconnect]
      split
      · rfl
      · rfl
    · rw [if_neg own] at left
      exact remoteAddresses_of_session? left
  · rw [released, nothing]
    rfl

theorem remoteAddresses_removeUser {other : UInt64} (differs : other ≠ user) :
    (scope.removeUser other).remoteAddresses user = scope.remoteAddresses user := by
  apply remoteAddresses_of_session?
  have look := @ConnectionLimiter.session?_removeUser scope.connections (scope.key other)
    (scope.key user)
  rw [if_neg (by simpa using differs)] at look
  exact look

theorem remoteAddresses_applyRosterDiff {diff : RosterDiff}
    (kept : scope.isOpen = true → ∀ entry ∈ diff.removed, entry.id ≠ user) :
    (scope.applyRosterDiff diff).2.remoteAddresses user = scope.remoteAddresses user := by
  unfold applyRosterDiff
  split
  next isOpen =>
    rw [changeRoster_eq_performAll]
    refine performAll_induction
      (motive := fun s => s.remoteAddresses user = scope.remoteAddresses user) rfl ?_
    intro s piece member same
    rcases List.mem_append.1 member with removed | added
    · obtain ⟨entry, listed, rfl⟩ := List.mem_map.1 removed
      exact (remoteAddresses_removeUser (kept isOpen entry listed)).trans same
    · obtain ⟨entry, -, rfl⟩ := List.mem_map.1 added
      exact same
  next => rfl

/-- What other nodes have reported of a user stays until they have another word, a window ends
without it, or the user is removed. -/
theorem remoteAddresses_perform (kept : scope.forgetsReports user operation = false) :
    (scope.perform operation).remoteAddresses user = scope.remoteAddresses user := by
  cases operation with
  | connect other ip =>
    cases isOpen : scope.isOpen with
    | false => rw [perform, connect_of_closed isOpen]
    | true =>
      rw [perform, connect_of_open isOpen]
      split
      · rfl
      · exact remoteAddresses_granting other
  | release other ip id => exact remoteAddresses_release other id
  | removeUser other => exact remoteAddresses_removeUser (of_decide_eq_false kept)
  | applyRosterDiff diff =>
    apply remoteAddresses_applyRosterDiff
    intro isOpen entry listed own
    rw [forgetsReports, isOpen, Bool.true_and] at kept
    have removed : diff.removed.any (·.id = user) = true :=
      List.any_eq_true.2 ⟨entry, listed, decide_eq_true own⟩
    rw [removed] at kept
    cases kept
  | escalate now entries =>
    obtain ⟨escalator, speed, escalated⟩ := scope.escalate_frame now entries
    rw [perform, escalated]
    rfl
  | endWindow =>
    have waits : scope.recorderEnabled = true := by
      rw [forgetsReports, Bool.not_eq_false'] at kept
      exact kept
    have same : (scope.perform .endWindow).connections = scope.connections := by
      rw [perform, endWindow, ConnectionLimiter.endWindow, if_pos waits]
    apply remoteAddresses_of_session?
    exact congrArg (·.session? (scope.key user)) same
  | mergeOnline entries => cases kept
  | discardWindow => cases kept
  | teardown => cases kept
  | _ => rfl

/-! ### What counts towards the cap -/

theorem onlineAddresses_eq_union :
    scope.onlineAddresses user = scope.remoteAddresses user ∪ scope.openAddresses user := by
  ext ip
  rw [Set.mem_union, mem_remoteAddresses, mem_openAddresses, or_comm]
  cases found : scope.session? user with
  | none => simp [onlineAddresses, found, deviceOf_of_none found]
  | some session => simp [onlineAddresses, found, deviceOf_of_some found]

/-- Other nodes report exactly these addresses of a user, and each of them is an active device, with
or without connections from there. -/
structure Reports (scope : Scope) (user : UInt64) (ips : Set IpAddr) : Prop where
  remoteAddresses_eq : scope.remoteAddresses user = ips
  activeDevicesOf_eq : scope.activeDevicesOf user = (ips ∪ scope.openAddresses user).ncard
  /-- Where they fill the cap, no further device gets a connection. -/
  refused : ∀ ip, scope.isOpen = true → ip ∉ ips ∪ scope.openAddresses user →
    0 < scope.deviceCap user →
    scope.deviceCap user ≤ (ips ∪ scope.openAddresses user).ncard →
    ∃ refusal, scope.connect user ip = (.ok (.error refusal), scope)

theorem reports_remoteAddresses : scope.Reports user (scope.remoteAddresses user) := by
  have active : scope.activeDevicesOf user =
      (scope.remoteAddresses user ∪ scope.openAddresses user).ncard := by
    rw [activeDevicesOf_eq_ncard, onlineAddresses_eq_union]
  refine ⟨rfl, active, ?_⟩
  intro ip isOpen elsewhere capped full
  obtain ⟨answer, later, decided, -, granted, traceless, -⟩ := connect_decided isOpen user ip
  obtain ⟨devices, online⟩ := @devices_sessionOrNew scope user _ rfl
  have offline : (scope.connections.sessionOrNew (scope.key user)).isActive ip = false := by
    rw [← Bool.not_eq_true, online, onlineAddresses_eq_union]
    exact elsewhere
  cases answer with
  | ok number =>
    have room := (Session.refusal?_eq_none_iff.1 (granted.1 ⟨number, rfl⟩)).2
    rw [← active] at full
    rw [devices] at room
    exact absurd ⟨capped, offline, full⟩ room
  | error refusal => exact ⟨refusal, by rw [decided, traceless refusal rfl]⟩

theorem reports_iff {ips : Set IpAddr} :
    scope.Reports user ips ↔ scope.remoteAddresses user = ips := by
  constructor
  · intro reports
    exact reports.remoteAddresses_eq
  · rintro rfl
    exact reports_remoteAddresses

/-- No operation of the run forgets what other nodes have reported of a user. -/
abbrev Remembers (scope : Scope) (user : UInt64) (operations : List Operation) : Prop :=
  scope.Follows (fun s operation => s.forgetsReports user operation = false) operations

theorem Remembers.remoteAddresses_eq {operations : List Operation}
    (run : scope.Remembers user operations) :
    (scope.performAll operations).remoteAddresses user = scope.remoteAddresses user := by
  refine run.keeps (motive := fun s => s.remoteAddresses user = scope.remoteAddresses user) rfl ?_
  intro s operation _ kept same
  exact (remoteAddresses_perform kept).trans same

end Scope

/-- After the word of other nodes the addresses of a user that they report are those of its last
entry with addresses, and they count towards the cap on devices until other nodes have another word,
a window ends without it, or the user is removed. So all reported addresses count exactly if no
entry has an address that this one has not. -/
theorem reported_addresses_count_iff {scope : Scope} {entries : List UserIps} {user : UInt64} :
    (∀ operations, (scope.mergeOnline entries).Remembers user operations →
      ((scope.mergeOnline entries).performAll operations).Reports user
        {ip | ip ∈ UserIps.lastOf entries user}) ∧
    ((∀ operations, (scope.mergeOnline entries).Remembers user operations →
        ((scope.mergeOnline entries).performAll operations).Reports user
          (UserIps.allOf entries user)) ↔
      ∀ entry ∈ entries, entry.userId = user →
        ∀ ip ∈ entry.ips, ip ∈ UserIps.lastOf entries user) := by
  have last : ∀ operations, (scope.mergeOnline entries).Remembers user operations →
      ((scope.mergeOnline entries).performAll operations).Reports user
        {ip | ip ∈ UserIps.lastOf entries user} := by
    intro operations run
    rw [Scope.reports_iff, run.remoteAddresses_eq, Scope.remoteAddresses_mergeOnline]
  refine ⟨last, ?_⟩
  rw [← UserIps.lastOf_eq_allOf_iff]
  constructor
  · intro counted
    have here := (counted [] trivial).remoteAddresses_eq
    rw [← here]
    exact (last [] trivial).remoteAddresses_eq.symm
  · intro same operations run
    rw [← same]
    exact last operations run

/-- The last entry has all addresses of a user, and a connection from one of them is opened. The cap
is full with them, through the end of a window before the recorder answers, and a third address is
refused. -/
theorem reported_addresses_count_covered :
    ∃ (scope : Scope) (entries : List UserIps) (operations : List Operation) (refusal : Refusal),
      entries = [⟨7, [.v4 1]⟩, ⟨8, [.v4 3]⟩, ⟨7, [.v4 2, .v4 1]⟩, ⟨7, []⟩] ∧
      operations = [.connect 7 (.v4 1), .endWindow, .release 7 (.v4 1) none] ∧
      scope.deviceCap 7 = 2 ∧
      ((scope.mergeOnline entries).performAll operations).Reports 7 (UserIps.allOf entries 7) ∧
      ((scope.mergeOnline entries).performAll operations).connect 7 (.v4 3) =
        (.ok (.error refusal), (scope.mergeOnline entries).performAll operations) := by
  let scope := Scope.activate "a" { limits := { deviceLimit := 2 }, ipRecorderEnabled := true }
  let entries : List UserIps := [⟨7, [.v4 1]⟩, ⟨8, [.v4 3]⟩, ⟨7, [.v4 2, .v4 1]⟩, ⟨7, []⟩]
  let operations : List Operation := [.connect 7 (.v4 1), .endWindow, .release 7 (.v4 1) none]
  have remembered : (scope.mergeOnline entries).Remembers 7 operations :=
    ⟨by decide, by decide, by decide, trivial⟩
  obtain ⟨-, counted⟩ := @reported_addresses_count_iff scope entries 7
  have reports := counted.2 (by decide) operations remembered
  have active : ((scope.mergeOnline entries).performAll operations).activeDevicesOf 7 = 2 := by
    decide
  have elsewhere : .v4 3 ∉ UserIps.allOf entries 7 ∪
      ((scope.mergeOnline entries).performAll operations).openAddresses 7 := by
    rw [← reports.remoteAddresses_eq, Set.mem_union, Scope.mem_remoteAddresses,
      Scope.mem_openAddresses]
    decide
  obtain ⟨refusal, refused⟩ := reports.refused (.v4 3) (by decide) elsewhere (by decide) (by
    rw [← reports.activeDevicesOf_eq, active]
    decide)
  exact ⟨scope, entries, operations, refusal, rfl, rfl, by decide, reports, refused⟩

/-- A user is online elsewhere from two addresses, in an entry each. Only one of them counts, and so
the user gets a connection from a third address under a cap of two devices. -/
theorem reported_address_forgotten :
    ∃ (scope : Scope) (entries : List UserIps),
      scope = Scope.activate "s" { limits := { deviceLimit := 2 }, ipRecorderEnabled := true } ∧
      entries = [⟨7, [.v4 1]⟩, ⟨7, [.v4 2]⟩] ∧
      .v4 1 ∈ UserIps.allOf entries 7 ∧ .v4 2 ∈ UserIps.allOf entries 7 ∧
      .v4 1 ∉ (scope.mergeOnline entries).remoteAddresses 7 ∧
      (scope.mergeOnline entries).activeDevicesOf 7 = 1 ∧
      (scope.mergeOnline entries).deviceCap 7 = 2 ∧
      ((scope.mergeOnline entries).connect 7 (.v4 3)).1 = .ok (.ok 0) := by
  refine ⟨_, _, rfl, rfl, ?_, ?_, ?_, by decide, by decide, by decide⟩
  · exact ⟨_, List.mem_cons_self, rfl, List.mem_cons_self⟩
  · exact ⟨_, List.mem_cons_of_mem _ List.mem_cons_self, rfl, List.mem_cons_self⟩
  · rw [Scope.mem_remoteAddresses]
    decide

end Tollgate
