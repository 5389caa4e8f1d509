import Mathlib.Algebra.BigOperators.Group.Finset.Basic
import Mathlib.Algebra.GroupWithZero.Nat
import Mathlib.Algebra.Order.BigOperators.Group.Finset
import Tollgate.Proofs.Operation
import Tollgate.Proofs.Sessions

/-!
# The books of the connection limiter

Open connections are counted twice, for the user and for the device that they come from. As long as
no count has reached the greatest one the two agree (`ConnectionLimiter.Counted`): whatever changes a
session changes the count of one device and that of the user alike (`Session.deviceTotal_add`).
-/

namespace Tollgate

namespace Session

variable {session after : Session}

/-- The open connections of all devices together. -/
def deviceTotal (session : Session) : Nat := (session.devices.toList.map (·.2.connections)).sum

/-! ### Sums over devices -/

/-- The devices that are known, and any others, which have no connections. -/
theorem deviceTotal_eq_sum {ips : Finset IpAddr} (known : ∀ ip ∈ session.devices.keys, ip ∈ ips) :
    session.deviceTotal = ∑ ip ∈ ips, (session.device ip).connections := by
  have ascending : session.devices.keys.Pairwise (fun x y => compare x y = .lt) :=
    List.pairwise_map.2 session.devices.ascending
  have distinct : session.devices.keys.Nodup := by
    refine ascending.imp fun {x y} below same => ?_
    rw [same, Table.compare_same] at below
    cases below
  have listed : session.deviceTotal =
      (session.devices.keys.map fun ip => (session.device ip).connections).sum := by
    rw [deviceTotal, Table.keys, List.map_map]
    refine congrArg List.sum (List.map_congr_left fun entry member => ?_)
    have found := Table.get?_eq_some_iff.2 member
    simp only [Function.comp_apply, device, found, Option.getD_some]
  have subset : session.devices.keys.toFinset ⊆ ips :=
    fun ip member => known ip (List.mem_toFinset.1 member)
  rw [listed, ← List.sum_toFinset _ distinct]
  refine Finset.sum_subset subset fun ip _ unknown => ?_
  have absent : session.devices.get? ip = none := by
    rw [Option.eq_none_iff_forall_ne_some]
    intro device found
    refine unknown (List.mem_toFinset.2 (Table.mem_keys_iff.2 ?_))
    rw [Table.contains, found, Option.isSome_some]
  rw [device, absent, Option.getD_none]

/-- What changes the count of one device changes the total alike. -/
theorem deviceTotal_add {ip : IpAddr}
    (others : ∀ other, ip ≠ other →
      (after.device other).connections = (session.device other).connections) :
    after.deviceTotal + (session.device ip).connections =
      session.deviceTotal + (after.device ip).connections := by
  let ips := insert ip (session.devices.keys ++ after.devices.keys).toFinset
  have here : ip ∈ ips := Finset.mem_insert_self _ _
  have before : session.deviceTotal = ∑ ip ∈ ips, (session.device ip).connections :=
    deviceTotal_eq_sum fun ip member =>
      Finset.mem_insert_of_mem (List.mem_toFinset.2 (List.mem_append_left _ member))
  have later : after.deviceTotal = ∑ ip ∈ ips, (after.device ip).connections :=
    deviceTotal_eq_sum fun ip member =>
      Finset.mem_insert_of_mem (List.mem_toFinset.2 (List.mem_append_right _ member))
  have rest : ∑ ip ∈ ips.erase ip, (after.device ip).connections =
      ∑ ip ∈ ips.erase ip, (session.device ip).connections :=
    Finset.sum_congr rfl fun other member => others other (Finset.ne_of_mem_erase member).symm
  rw [before, later, ← Finset.add_sum_erase ips _ here, ← Finset.add_sum_erase ips _ here, rest]
  omega

theorem SameConnections.deviceTotal_eq (same : session.SameConnections after) :
    after.deviceTotal = session.deviceTotal := by
  have kept := @deviceTotal_add session after default fun other _ => same.device_eq other
  rw [same.device_eq default] at kept
  exact Nat.add_right_cancel kept

theorem deviceTotal_connect (ip : IpAddr) :
    (session.connect ip).deviceTotal + (session.device ip).connections =
      session.deviceTotal + min ((session.device ip).connections + 1) maxConnections := by
  have moved := @deviceTotal_add session (session.connect ip) ip fun other differs => by
    rw [device_connect, if_neg differs]
  rw [device_connect, if_pos rfl] at moved
  exact moved

theorem deviceTotal_disconnect (ip : IpAddr) :
    (session.disconnect ip).deviceTotal + (session.device ip).connections =
      session.deviceTotal + ((session.device ip).connections - 1) := by
  have moved := @deviceTotal_add session (session.disconnect ip) ip fun other differs => by
    rw [device_disconnect, if_neg differs]
  rw [device_disconnect, if_pos rfl] at moved
  exact moved

theorem device_le_deviceTotal (ip : IpAddr) :
    (session.device ip).connections ≤ session.deviceTotal := by
  have total : session.deviceTotal =
      ∑ ip ∈ insert ip session.devices.keys.toFinset, (session.device ip).connections :=
    deviceTotal_eq_sum fun ip member => Finset.mem_insert_of_mem (List.mem_toFinset.2 member)
  rw [total]
  exact Finset.single_le_sum (f := fun ip => (session.device ip).connections)
    (fun _ _ => Nat.zero_le _) (Finset.mem_insert_self _ _)

theorem IsIdle.deviceTotal_eq (idle : session.IsIdle) : session.deviceTotal = 0 := by
  rw [deviceTotal_eq_sum fun ip member => List.mem_toFinset.2 member]
  exact Finset.sum_eq_zero fun ip _ => idle.device_eq ip

/-! ### Addresses with open connections -/

theorem mem_openIps_iff {ip : IpAddr} :
    ip ∈ session.openIps ↔ 0 < (session.device ip).connections := by
  simp only [openIps, List.mem_map, List.mem_filter, decide_eq_true_eq, device]
  constructor
  · rintro ⟨⟨ip, device⟩, ⟨member, opened⟩, rfl⟩
    rw [Table.mem_toList_iff.1 member, Option.getD_some]
    exact opened
  · intro opened
    cases found : session.devices.get? ip with
    | none =>
      rw [found, Option.getD_none] at opened
      cases opened
    | some device =>
      rw [found, Option.getD_some] at opened
      exact ⟨(ip, device), ⟨Table.mem_toList_iff.2 found, opened⟩, rfl⟩

theorem pairwise_openIps : session.openIps.Pairwise (fun x y => compare x y = .lt) :=
  List.pairwise_map.2 (session.devices.ascending.filter _)

/-- Some address has an open connection exactly if any is counted. -/
theorem openIps_eq_nil_iff : session.openIps = [] ↔ session.deviceTotal = 0 := by
  rw [List.eq_nil_iff_forall_not_mem]
  simp only [mem_openIps_iff, Nat.not_lt, Nat.le_zero]
  constructor
  · intro idle
    rw [deviceTotal_eq_sum fun ip member => List.mem_toFinset.2 member]
    exact Finset.sum_eq_zero fun ip _ => idle ip
  · intro nothing ip
    exact Nat.le_zero.1 (nothing ▸ device_le_deviceTotal ip)

end Session

/-- The bucket of a user is dropped when the release says that it was the last. -/
theorem Scope.speed_release (scope : Scope) (user : UInt64) (ip : IpAddr) (id : Option Nat) :
    (scope.release user ip id).speed =
      if (scope.connections.release (scope.key user) ip id).1 = true then
        scope.speed.dropBucket (scope.key user)
      else scope.speed := by
  unfold Scope.release
  dsimp only
  split <;> rfl

namespace ConnectionLimiter

variable {limiter after : ConnectionLimiter} {key : UserKey} {bound : Nat}

/-! ### Requests -/

/-- What a connection limiter is asked for. -/
inductive Request where
  | connect (key : UserKey) (ip : IpAddr) (limits : AdmissionLimits)
  | release (key : UserKey) (ip : IpAddr) (session : Option Nat)
  | resetWindow
  | mergeRemote (view : OnlineView)
  | removeUser (key : UserKey)
  | clear

/-- What a request leaves. -/
def perform (limiter : ConnectionLimiter) : Request → ConnectionLimiter
  | .connect key ip limits => (limiter.connect key ip limits).2
  | .release key ip session => (limiter.release key ip session).2
  | .resetWindow => limiter.resetWindow
  | .mergeRemote view => limiter.mergeRemote view
  | .removeUser key => limiter.removeUser key
  | .clear => limiter.clear

/-- What requests leave, one after the other. -/
def performAll (limiter : ConnectionLimiter) (requests : List Request) : ConnectionLimiter :=
  requests.foldl perform limiter

/-- The connections that a request is granted. -/
def grantedBy (limiter : ConnectionLimiter) : Request → Nat
  | .connect key ip limits => if (limiter.connect key ip limits).1.isOk then 1 else 0
  | _ => 0

/-- The connections that requests are granted, one after the other. -/
def granted : ConnectionLimiter → List Request → Nat
  | _, [] => 0
  | limiter, request :: rest => limiter.grantedBy request + (limiter.perform request).granted rest

/-! ### Counts -/

/-- Every session counts the connections of its devices, and a bound is known for all. -/
def Counted (limiter : ConnectionLimiter) (bound : Nat) : Prop :=
  ∀ key session, limiter.session? key = some session →
    session.connections = session.deviceTotal ∧ session.connections ≤ bound

theorem counted_empty : ({} : ConnectionLimiter).Counted 0 := fun _ _ found => nomatch found

theorem Counted.of_keeps (h : limiter.Counted bound) (keeps : limiter.Keeps after) :
    after.Counted bound := by
  intro key session found
  rcases keeps.session_cases key session found with ⟨old, known, same⟩ | ⟨idle, -⟩
  · rw [same.connections_eq, same.deviceTotal_eq]
    exact h key old known
  · rw [idle.connections_eq, idle.deviceTotal_eq]
    exact ⟨rfl, Nat.zero_le _⟩

theorem Counted.sessionOrNew (h : limiter.Counted bound) (key : UserKey) :
    (limiter.sessionOrNew key).connections = (limiter.sessionOrNew key).deviceTotal ∧
      (limiter.sessionOrNew key).connections ≤ bound := by
  cases found : limiter.session? key with
  | some session =>
    rw [sessionOrNew_of_some found]
    exact h key session found
  | none =>
    rw [sessionOrNew_of_none found, (Session.isIdle_new _).deviceTotal_eq]
    exact ⟨rfl, Nat.zero_le _⟩

/-- A connection more is one more for the user and for its device: neither count is the greatest. -/
theorem Counted.admitted (h : limiter.Counted bound) (ip : IpAddr) (fits : bound < maxConnections) :
    (limiter.admitted key ip).Counted (bound + 1) := by
  intro k session found
  rw [session?_admitted] at found
  split at found
  next own =>
    subst own
    obtain rfl := Option.some.inj found
    obtain ⟨counted, bounded⟩ := h.sessionOrNew key
    generalize limiter.sessionOrNew key = session at counted bounded
    have moved := @Session.deviceTotal_connect session ip
    have part := @Session.device_le_deviceTotal session ip
    have connections : (session.connect ip).connections =
      min (session.connections + 1) maxConnections := rfl
    omega
  next =>
    obtain ⟨counted, bounded⟩ := h k session found
    exact ⟨counted, Nat.le_succ_of_le bounded⟩

/-- A connection fewer is one fewer for the user and for its device. -/
theorem Counted.disconnected (h : limiter.Counted bound) {session : Session} {ip : IpAddr}
    (found : limiter.session? key = some session) (opened : (session.device ip).connections ≠ 0) :
    (limiter.setSession key (session.disconnect ip)).Counted bound := by
  intro k later found'
  rw [session?_setSession] at found'
  split at found'
  next own =>
    obtain rfl := Option.some.inj found'
    obtain ⟨counted, bounded⟩ := h key session found
    have moved := @Session.deviceTotal_disconnect session ip
    have part := @Session.device_le_deviceTotal session ip
    have connections : (session.disconnect ip).connections = session.connections - 1 := rfl
    omega
  next => exact h k later found'

/-- A connection of a session that is there is closed, or nothing happens. -/
theorem release_eq_or (limiter : ConnectionLimiter) (key : UserKey) (ip : IpAddr)
    (id : Option Nat) :
    (∃ session, limiter.session? key = some session ∧ (session.device ip).connections ≠ 0 ∧
        limiter.release key ip id =
          (decide (session.connections - 1 = 0),
            limiter.setSession key (session.disconnect ip))) ∨
      limiter.release key ip id = (false, limiter) := by
  by_cases opened : ∃ session, limiter.session? key = some session ∧
      id.all (· = session.id) = true ∧ (session.device ip).connections ≠ 0
  · obtain ⟨session, found, same, opened⟩ := opened
    exact Or.inl ⟨session, found, opened, release_of_open found same opened⟩
  · refine Or.inr (release_of_not_open fun session found same => ?_)
    by_contra closed
    exact opened ⟨session, found, same, closed⟩

/-- One request keeps the books as long as the count of granted connections does not overflow. -/
theorem Counted.perform (h : limiter.Counted bound) (request : Request)
    (fits : bound + limiter.grantedBy request ≤ maxConnections) :
    (limiter.perform request).Counted (bound + limiter.grantedBy request) := by
  cases request with
  | connect key ip limits =>
    simp only [ConnectionLimiter.perform, grantedBy, connect_eq] at fits ⊢
    cases refused : (limiter.sessionOrNew key).refusal? ip limits with
    | some refusal => exact h
    | none =>
      rw [refused] at fits
      exact h.admitted ip fits
  | release key ip id =>
    rcases limiter.release_eq_or key ip id with ⟨session, found, opened, closed⟩ | nothing
    · rw [ConnectionLimiter.perform, closed]
      exact h.disconnected found opened
    · rw [ConnectionLimiter.perform, nothing]
      exact h
  | resetWindow => exact h.of_keeps keeps_resetWindow
  | mergeRemote view => exact h.of_keeps (keeps_mergeRemote view)
  | removeUser key => exact h.of_keeps keeps_removeUser
  | clear => exact h.of_keeps keeps_clear

theorem Counted.performAll (h : limiter.Counted bound) {requests : List Request}
    (fits : bound + limiter.granted requests ≤ maxConnections) :
    (limiter.performAll requests).Counted (bound + limiter.granted requests) := by
  induction requests generalizing limiter bound with
  | nil => exact h
  | cons request rest ih =>
    rw [granted, ← Nat.add_assoc] at fits ⊢
    exact ih (h.perform request (by omega)) fits

/-! ### Numbers of sessions -/

/-- Sessions of different users have different numbers, all of which were given. -/
structure Numbered (limiter : ConnectionLimiter) : Prop where
  id_lt : ∀ key session, limiter.session? key = some session → session.id < limiter.nextSession
  key_eq : ∀ key key' session session', limiter.session? key = some session →
    limiter.session? key' = some session' → session.id = session'.id → key = key'

theorem numbered_empty : ({} : ConnectionLimiter).Numbered where
  id_lt _ _ found := nomatch found
  key_eq _ _ _ _ found := nomatch found

/-- Of each user a session that was there, under its number, or none. -/
theorem Numbered.of_kept (h : limiter.Numbered) (next : after.nextSession = limiter.nextSession)
    (kept : ∀ k session, after.session? k = some session →
      ∃ old, limiter.session? k = some old ∧ old.id = session.id) : after.Numbered where
  id_lt k session found := by
    obtain ⟨old, known, same⟩ := kept k session found
    rw [next, ← same]
    exact h.id_lt k old known
  key_eq k k' session session' found found' same := by
    obtain ⟨old, known, own⟩ := kept k session found
    obtain ⟨old', known', own'⟩ := kept k' session' found'
    exact h.key_eq k k' old old' known known' (own.trans (same.trans own'.symm))

/-- A session begins under the next number. -/
theorem Numbered.of_begun (h : limiter.Numbered) (next : after.nextSession = limiter.nextSession + 1)
    (begun : ∀ session, after.session? key = some session → session.id = limiter.nextSession)
    (kept : ∀ k session, key ≠ k → after.session? k = some session →
      limiter.session? k = some session) : after.Numbered where
  id_lt k session found := by
    rw [next]
    by_cases own : key = k
    · subst own
      exact Nat.lt_succ_of_le (Nat.le_of_eq (begun session found))
    · exact Nat.lt_succ_of_lt (h.id_lt k session (kept k session own found))
  key_eq k k' session session' found found' same := by
    by_cases own : key = k
    · by_cases own' : key = k'
      · exact own.symm.trans own'
      · subst own
        have below := h.id_lt k' session' (kept k' session' own' found')
        have last := begun session found
        omega
    · by_cases own' : key = k'
      · subst own'
        have below := h.id_lt k session (kept k session own found)
        have last := begun session' found'
        omega
      · exact h.key_eq k k' session session' (kept k session own found)
          (kept k' session' own' found') same

theorem Numbered.setSession (h : limiter.Numbered) {old session : Session}
    (known : limiter.session? key = some old) (same : session.id = old.id) :
    (limiter.setSession key session).Numbered := by
  refine h.of_kept rfl fun k later found => ?_
  rw [session?_setSession] at found
  split at found
  next own =>
    obtain rfl := Option.some.inj found
    exact ⟨old, own ▸ known, same.symm⟩
  next => exact ⟨later, found, rfl⟩

theorem Numbered.admitted (h : limiter.Numbered) (ip : IpAddr) :
    (limiter.admitted key ip).Numbered := by
  cases known : limiter.session? key with
  | some old =>
    have placed : limiter.admitted key ip = limiter.setSession key (old.connect ip) := by
      simp [ConnectionLimiter.admitted, ConnectionLimiter.setSession, known,
        sessionOrNew_of_some known]
    rw [placed]
    exact h.setSession known rfl
  | none =>
    refine @of_begun _ _ key h (by simp [ConnectionLimiter.admitted, known]) ?_ ?_
    · intro session found
      rw [session?_admitted, if_pos rfl, sessionOrNew_of_none known] at found
      obtain rfl := Option.some.inj found
      rfl
    · intro k session other found
      rwa [session?_admitted, if_neg other] at found

theorem Numbered.closeWindow (h : limiter.Numbered) {update : UserKey → Session → Session}
    (same : ∀ k (session : Session), session.SameConnections (update k session)) :
    (limiter.closeWindow update).Numbered := by
  refine h.of_kept rfl fun k session found => ?_
  rw [session?_closeWindow, Option.filter_eq_some_iff, Option.map_eq_some_iff] at found
  obtain ⟨⟨old, known, rfl⟩, -⟩ := found
  exact ⟨old, known, (Session.sameConnections_afterWindow.trans (same k _)).id_eq.symm⟩

theorem Numbered.markRemote (h : limiter.Numbered) (key : UserKey) (ips : List IpAddr) :
    (limiter.markRemote key ips).Numbered := by
  unfold ConnectionLimiter.markRemote
  split
  · exact h
  cases known : limiter.session? key with
  | some old =>
    rw [openSession_of_some known]
    exact h.setSession known (Session.sameConnections_markAllRemote ips).id_eq
  | none =>
    rw [openSession_of_none known]
    refine @of_begun _ _ key h rfl ?_ ?_
    · intro session found
      rw [session?_setSession, if_pos rfl] at found
      obtain rfl := Option.some.inj found
      exact (Session.sameConnections_markAllRemote ips).id_eq
    · intro k session other found
      rw [session?_setSession, if_neg other] at found
      have untouched := @session?_setSession limiter key { id := limiter.nextSession } k
      rw [if_neg other] at untouched
      exact untouched.symm.trans found

theorem Numbered.mergeRemote (h : limiter.Numbered) (view : OnlineView) :
    (limiter.mergeRemote view).Numbered := by
  apply mergeRemote_induction
  · exact h.closeWindow fun _ _ => Session.sameConnections_markAllRemote _
  · intro l key ips numbered
    exact numbered.markRemote key ips

theorem Numbered.perform (h : limiter.Numbered) (request : Request) :
    (limiter.perform request).Numbered := by
  cases request with
  | connect key ip limits =>
    rw [ConnectionLimiter.perform, connect_eq]
    split
    · exact h
    · exact h.admitted ip
  | release key ip id =>
    rcases limiter.release_eq_or key ip id with ⟨session, found, opened, closed⟩ | nothing
    · rw [ConnectionLimiter.perform, closed]
      exact h.setSession found rfl
    · rw [ConnectionLimiter.perform, nothing]
      exact h
  | resetWindow => exact h.closeWindow fun _ _ => Session.SameConnections.refl
  | mergeRemote view => exact h.mergeRemote view
  | removeUser key =>
    refine h.of_kept rfl fun k session found => ?_
    rw [ConnectionLimiter.perform, session?_removeUser] at found
    split at found
    · cases found
    · exact ⟨session, found, rfl⟩
  | clear => exact h.of_kept rfl fun _ _ found => nomatch found

theorem Numbered.performAll (h : limiter.Numbered) (requests : List Request) :
    (limiter.performAll requests).Numbered :=
  List.foldlRecOn _ _ h fun _ numbered request _ => numbered.perform request

theorem KeepsNumbers.trans {first second third : ConnectionLimiter} (h : first.KeepsNumbers second)
    (h' : second.KeepsNumbers third) : first.KeepsNumbers third where
  nextSession_le := Nat.le_trans h.nextSession_le h'.nextSession_le
  id_cases key session found := by
    have le := h.nextSession_le
    have le' := h'.nextSession_le
    rcases h'.id_cases key session found with ⟨middle, found', same'⟩ | ⟨above, below⟩
    · rcases h.id_cases key middle found' with ⟨old, found'', same⟩ | ⟨above, below⟩
      · exact Or.inl ⟨old, found'', same.trans same'⟩
      · exact Or.inr ⟨by omega, by omega⟩
    · exact Or.inr ⟨by omega, below⟩

theorem keepsNumbers_perform (request : Request) :
    limiter.KeepsNumbers (limiter.perform request) := by
  cases request with
  | connect key ip limits =>
    rw [perform, connect_eq]
    split
    · exact KeepsNumbers.refl
    · exact keepsNumbers_admitted ip
  | release key ip id =>
    rcases limiter.release_eq_or key ip id with ⟨session, found, opened, closed⟩ | nothing
    · rw [perform, closed]
      exact keepsNumbers_setSession found rfl
    · rw [perform, nothing]
      exact KeepsNumbers.refl
  | resetWindow => exact keeps_resetWindow.keepsNumbers
  | mergeRemote view => exact (keeps_mergeRemote view).keepsNumbers
  | removeUser key => exact keeps_removeUser.keepsNumbers
  | clear => exact keeps_clear.keepsNumbers

theorem keepsNumbers_performAll (requests : List Request) :
    limiter.KeepsNumbers (limiter.performAll requests) :=
  List.foldlRecOn _ _ KeepsNumbers.refl fun _ kept request _ =>
    kept.trans (keepsNumbers_perform request)

/-! ### Who is online -/

theorem get?_snapshot (key : UserKey) :
    limiter.snapshot.get? key =
      (limiter.session? key).bind fun session =>
        if session.openIps.isEmpty then none else some session.openIps :=
  Table.get?_filterMap _ _ _

theorem Counted.get?_snapshot_eq_some_iff (h : limiter.Counted bound) {ips : List IpAddr} :
    limiter.snapshot.get? key = some ips ↔
      0 < limiter.connections key ∧
        ∃ session, limiter.session? key = some session ∧ session.openIps = ips := by
  rw [get?_snapshot]
  cases found : limiter.session? key with
  | none => simp
  | some session =>
    have none_open : session.openIps.isEmpty = true ↔ session.connections = 0 := by
      rw [List.isEmpty_iff, Session.openIps_eq_nil_iff, (h key session found).1]
    rw [connections_of_some found, Option.bind_some]
    split
    next idle => simp [none_open.1 idle]
    next busy =>
      have online : 0 < session.connections := Nat.pos_of_ne_zero fun idle => busy (none_open.2 idle)
      simp [online]

/-- The users of the snapshot are those whose connections are counted as open. -/
theorem Counted.map_keys_snapshot (h : limiter.Counted bound) :
    limiter.snapshot.keys.map limiter.connections = limiter.openCounts := by
  have entries : ∀ entry ∈ limiter.sessions.entries,
      limiter.connections entry.1 = entry.2.connections ∧
        (entry.2.openIps = [] ↔ entry.2.connections = 0) := by
    intro entry member
    have found : limiter.session? entry.1 = some entry.2 := Table.get?_eq_some_iff.2 member
    rw [Session.openIps_eq_nil_iff, (h entry.1 entry.2 found).1]
    exact ⟨connections_of_some found ▸ (h entry.1 entry.2 found).1, Iff.rfl⟩
  unfold snapshot openCounts Table.keys Table.filterMap Table.toList
  dsimp only
  generalize limiter.sessions.entries = listed at entries
  induction listed with
  | nil => rfl
  | cons entry rest ih =>
    obtain ⟨own, none_open⟩ := entries entry List.mem_cons_self
    have rest_eq := ih fun entry member => entries entry (List.mem_cons_of_mem _ member)
    by_cases idle : entry.2.connections = 0
    · have closed := none_open.2 idle
      simpa [List.filterMap_cons, idle, closed] using rest_eq
    · have opened : entry.2.openIps ≠ [] := idle ∘ none_open.1
      have online : 0 < entry.2.connections := Nat.pos_of_ne_zero idle
      simpa [List.filterMap_cons, opened, online, own] using rest_eq

/-- Going offline is the end of the last connection. -/
theorem Counted.release_fst_iff (h : limiter.Counted bound) (ip : IpAddr) (id : Option Nat) :
    (limiter.release key ip id).1 = true ↔
      limiter.connections key = 1 ∧ (limiter.release key ip id).2.connections key = 0 := by
  rcases limiter.release_eq_or key ip id with ⟨session, found, opened, closed⟩ | nothing
  · have counted := (h key session found).1
    have part := @Session.device_le_deviceTotal session ip
    have look := @session?_setSession limiter key (session.disconnect ip) key
    rw [if_pos rfl] at look
    have left : (limiter.setSession key (session.disconnect ip)).connections key =
        session.connections - 1 := connections_of_some look
    rw [closed, connections_of_some found, decide_eq_true_eq, left]
    omega
  · rw [nothing]
    constructor
    · intro offline
      cases offline
    · rintro ⟨one, zero⟩
      exact nomatch one.symm.trans zero

/-- As long as fewer connections were granted than a word counts, after any requests each session
counts the connections of its devices; numbers of sessions are distinct and never given twice; the
snapshot and the counts of who is online tell the users with connections and their addresses; and a
release tells the end of a user's last connection, and does nothing where there is no connection. -/
theorem bookkeeping_is_exact {requests : List Request}
    (few : granted {} requests < UInt32.size) :
    ∃ limiter, limiter = performAll {} requests ∧
      (∀ key session, limiter.session? key = some session →
        session.connections = (session.devices.toList.map (·.2.connections)).sum) ∧
      (∀ key session, limiter.session? key = some session → session.id < limiter.nextSession) ∧
      (∀ key key' session session', limiter.session? key = some session →
        limiter.session? key' = some session' → session.id = session'.id → key = key') ∧
      (∀ earlier later, requests = earlier ++ later → ∀ key session,
        limiter.session? key = some session →
        session.id < (performAll {} earlier).nextSession →
        ∃ old, (performAll {} earlier).session? key = some old ∧ old.id = session.id) ∧
      (∀ key, limiter.snapshot.contains key = true ↔ 0 < limiter.connections key) ∧
      (∀ key ips, limiter.snapshot.get? key = some ips →
        ips.Pairwise (fun x y => compare x y = .lt) ∧
          ∃ session, limiter.session? key = some session ∧
            ∀ ip, ip ∈ ips ↔ 0 < (session.device ip).connections) ∧
      limiter.onlineUsers = limiter.snapshot.size ∧
      limiter.totalConnections = (limiter.snapshot.keys.map limiter.connections).sum ∧
      (∀ key ip id, (limiter.release key ip id).1 = true ↔
        limiter.connections key = 1 ∧ (limiter.release key ip id).2.connections key = 0) ∧
      (∀ scope : Scope, scope.connections = limiter → ∀ user ip id,
        (scope.release user ip id).speed =
          if limiter.connections (scope.key user) = 1 ∧
              (limiter.release (scope.key user) ip id).2.connections (scope.key user) = 0 then
            scope.speed.dropBucket (scope.key user)
          else scope.speed) ∧
      ∀ key ip id,
        (limiter.session? key = none ∨
          ∃ session, limiter.session? key = some session ∧
            ((∃ other, id = some other ∧ other ≠ session.id) ∨
              (session.device ip).connections = 0)) →
        limiter.release key ip id = (false, limiter) := by
  have size : maxConnections = UInt32.size - 1 := rfl
  have counted : Counted (performAll {} requests) (0 + granted {} requests) :=
    counted_empty.performAll (by omega)
  have numbered := numbered_empty.performAll requests
  refine ⟨performAll {} requests, rfl, ?_⟩
  refine ⟨fun key session found => (counted key session found).1, numbered.id_lt, numbered.key_eq,
    ?_, ?_, ?_, ?_, ?_, fun _ => counted.release_fst_iff, ?_, ?_⟩
  · rintro earlier later rfl key session found known
    have kept := @keepsNumbers_performAll (performAll {} earlier) later
    rw [performAll, List.foldl_append] at found
    rcases kept.id_cases key session found with old | ⟨late, -⟩
    · exact old
    · omega
  · intro key
    rw [Table.contains, Option.isSome_iff_exists]
    constructor
    · rintro ⟨ips, found⟩
      exact (counted.get?_snapshot_eq_some_iff.1 found).1
    · intro online
      cases found : (performAll {} requests).session? key with
      | none =>
        rw [connections_of_none found] at online
        cases online
      | some session =>
        exact ⟨_, counted.get?_snapshot_eq_some_iff.2 ⟨online, session, found, rfl⟩⟩
  · intro key ips found
    obtain ⟨-, session, known, rfl⟩ := counted.get?_snapshot_eq_some_iff.1 found
    exact ⟨Session.pairwise_openIps, session, known, fun ip => Session.mem_openIps_iff⟩
  · rw [onlineUsers, ← counted.map_keys_snapshot, List.length_map, Table.keys, List.length_map,
      Table.size]
  · rw [totalConnections, ← counted.map_keys_snapshot]
    rfl
  · rintro scope same user ip id
    rw [scope.speed_release, same]
    simp only [counted.release_fst_iff]
  · intro key ip id closed
    refine release_of_not_open fun session found same => ?_
    rcases closed with unknown | ⟨session', found', ⟨other, rfl, differs⟩ | idle⟩
    · rw [unknown] at found
      cases found
    · obtain rfl := Option.some.inj (found.symm.trans found')
      simp only [Option.all_some, decide_eq_true_eq] at same
      exact absurd same differs
    · obtain rfl := Option.some.inj (found.symm.trans found')
      exact idle

/-- Of two connections of a user one is closed, and closing the other ends the last. -/
theorem bookkeeping_is_exact_last :
    ∃ (key : UserKey) (requests : List Request) (limiter : ConnectionLimiter),
      granted {} requests = 2 ∧ limiter = performAll {} requests ∧
      limiter.connections key = 1 ∧ limiter.snapshot.contains key = true ∧
      limiter.onlineUsers = limiter.snapshot.size ∧
      (limiter.release key (.v4 2) none).1 = true ∧
      limiter.release key (.v4 1) none = (false, limiter) := by
  let key : UserKey := ⟨"a", 7⟩
  let requests : List Request :=
    [.connect key (.v4 1) ⟨0, 1⟩, .connect key (.v4 2) ⟨0, 1⟩,
      .connect key (.v4 2) {}, .release key (.v4 1) (some 0), .resetWindow,
      .mergeRemote (OnlineView.ofUserIps "a" [⟨7, [.v4 1]⟩])]
  obtain ⟨limiter, after, -, -, -, -, shown, -, users, -, released, -, ignored⟩ :=
    @bookkeeping_is_exact requests (by decide)
  have one : limiter.connections key = 1 := by
    rw [after]
    decide
  have left : (limiter.release key (.v4 2) none).2.connections key = 0 := by
    rw [after]
    decide
  have known : limiter.session? key = some
      ⟨0, 1, Table.ofList [(.v4 1, ⟨0, true⟩), (.v4 2, ⟨1, false⟩)]⟩ := by
    rw [after]
    decide
  exact ⟨key, requests, limiter, by decide, after, one, (shown key).2 (by rw [one]; decide), users,
    (released key _ none).2 ⟨one, left⟩,
    ignored key _ none (Or.inr ⟨_, known, Or.inr (by decide)⟩)⟩

end ConnectionLimiter

end Tollgate
