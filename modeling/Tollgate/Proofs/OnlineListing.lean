import Tollgate.Proofs.ReportedAddresses
import Tollgate.Proofs.WindowEnd

/-!
# Lists of online users

Who is online here goes to the recorder as a list and may come back as it went, in another order of
its entries. The list drops the name of the scope from the keys of the users, so it can be read back
only because all sessions of a scope are those of its own users (`ConnectionLimiter.IsWithin`). What
comes back then marks the addresses that have open connections, which are active without it.

A user is on the list for an address with open connections. The count of connections of the user
itself, which can stop at the greatest word, is never more than its devices have
(`ConnectionLimiter.Backed`).
-/

namespace Tollgate

/-- A table is made again of its entries, in whatever order they come. -/
theorem Table.ofList_of_perm {κ α : Type} [Ord κ] [DecidableEq κ] [Std.TransOrd κ]
    [Std.LawfulEqOrd κ] {t : Table κ α} {es : List (κ × α)} (perm : es.Perm t.toList) :
    ofList es = t := by
  refine ext_get? fun k => ?_
  have own := perm.filter (·.1 = k)
  rw [filter_toList] at own
  rw [get?_ofList]
  cases found : t.get? k with
  | none =>
    rw [found] at own
    rw [List.perm_nil.1 own]
    rfl
  | some v =>
    rw [found] at own
    rw [List.perm_singleton.1 own]
    rfl

/-! ### Views and lists -/

namespace OnlineView

variable {view : OnlineView} {name : String}

/-- An entry of a view as it is listed. -/
def listedEntry (entry : UserKey × List IpAddr) : UserIps :=
  { userId := entry.1.user, ips := entry.2 }

/-- The list of entries that are visited in some order. -/
def listed (visited : List (UserKey × List IpAddr)) : List UserIps :=
  (visited.map listedEntry).mergeSort (fun x y => x.userId ≤ y.userId)

/-- A view of users of one scope, each with some address. -/
structure IsOf (view : OnlineView) (name : String) : Prop where
  scope_eq : ∀ key ips, view.get? key = some ips → key.scope = name
  ips_ne_nil : ∀ key ips, view.get? key = some ips → ips ≠ []

theorem perm_listed (visited : List (UserKey × List IpAddr)) :
    (listed visited).Perm (visited.map listedEntry) := List.mergeSort_perm _ _

/-- Different users of one scope have different numbers. -/
theorem IsOf.nodup_users (h : view.IsOf name) : (view.toList.map (·.1.user)).Nodup := by
  rw [List.Nodup, List.pairwise_map]
  refine view.ascending.imp_of_mem fun {x y} first second below same => ?_
  obtain ⟨⟨scope, user⟩, ips⟩ := x
  obtain ⟨⟨scope', user'⟩, ips'⟩ := y
  obtain rfl : scope = name := h.scope_eq _ _ (Table.mem_toList_iff.1 first)
  obtain rfl : scope' = scope := h.scope_eq _ _ (Table.mem_toList_iff.1 second)
  obtain rfl : user = user' := same
  rw [Table.compare_same] at below
  cases below

theorem IsOf.pairwise_listed (h : view.IsOf name) {visited : List (UserKey × List IpAddr)}
    (perm : visited.Perm view.toList) :
    (listed visited).Pairwise (fun x y => x.userId < y.userId) := by
  have ascending : (listed visited).Pairwise (fun x y => x.userId ≤ y.userId) := by
    refine (List.pairwise_mergeSort ?_ ?_ (visited.map listedEntry)).imp ?_
    · intro x y z below above
      rw [decide_eq_true_eq] at below above ⊢
      exact UInt64.le_trans below above
    · intro x y
      rw [Bool.or_eq_true, decide_eq_true_eq, decide_eq_true_eq]
      exact UInt64.le_total _ _
    · intro x y below
      exact of_decide_eq_true below
  have distinct : (listed visited).Pairwise (fun x y => x.userId ≠ y.userId) := by
    have users : ((listed visited).map (·.userId)).Perm (view.toList.map (·.1.user)) := by
      have both := ((perm_listed visited).trans (perm.map listedEntry)).map (·.userId)
      rwa [List.map_map] at both
    exact List.pairwise_map.1 (users.nodup_iff.2 h.nodup_users)
  refine (ascending.and distinct).imp fun {x y} both => ?_
  exact UInt64.lt_of_le_of_ne both.1 both.2

/-- The list is the same in whatever order the view is visited. -/
theorem IsOf.listed_of_perm (h : view.IsOf name) {visited : List (UserKey × List IpAddr)}
    (perm : visited.Perm view.toList) : listed visited = view.toUserIps := by
  have entries : (listed visited).Perm (listed view.toList) :=
    ((perm_listed visited).trans (perm.map listedEntry)).trans (perm_listed view.toList).symm
  refine entries.eq_of_pairwise (fun x y _ _ below above => ?_) (h.pairwise_listed perm)
    (h.pairwise_listed (.refl _))
  exact absurd (UInt64.lt_trans below above) (UInt64.lt_irrefl _)

theorem IsOf.mem_toUserIps (h : view.IsOf name) {entry : UserIps} :
    entry ∈ view.toUserIps ↔ view.get? ⟨name, entry.userId⟩ = some entry.ips := by
  have same : entry ∈ view.toUserIps ↔ entry ∈ view.toList.map listedEntry :=
    (perm_listed view.toList).mem_iff
  rw [same, List.mem_map]
  constructor
  · rintro ⟨⟨key, ips⟩, member, rfl⟩
    have found := Table.mem_toList_iff.1 member
    obtain rfl := h.scope_eq key ips found
    exact found
  · intro found
    exact ⟨(⟨name, entry.userId⟩, entry.ips), Table.mem_toList_iff.2 found, rfl⟩

/-- The list read back, in whatever order it comes, is the view. -/
theorem IsOf.ofUserIps_of_perm (h : view.IsOf name) {entries : List UserIps}
    (perm : entries.Perm view.toUserIps) : ofUserIps name entries = view := by
  -- No entry is left out for want of addresses, and the scope comes back into the keys.
  have full : entries.filter (!·.ips.isEmpty) = entries := by
    refine List.filter_eq_self.2 fun entry member => ?_
    have found := h.mem_toUserIps.1 (perm.subset member)
    have some_ips := h.ips_ne_nil _ _ found
    simpa using some_ips
  have back : (view.toList.map listedEntry).map (fun entry => (⟨name, entry.userId⟩, entry.ips)) =
      view.toList := by
    rw [List.map_map]
    refine (List.map_congr_left fun e member => ?_).trans (List.map_id _)
    obtain ⟨key, ips⟩ := e
    obtain rfl := h.scope_eq key ips (Table.mem_toList_iff.1 member)
    rfl
  unfold ofUserIps
  rw [full]
  refine Table.ofList_of_perm ?_
  rw [← back]
  exact (perm.trans (perm_listed view.toList)).map _

/-- What is read from a list is read for the users of one scope. -/
theorem scope_eq_of_ofUserIps {entries : List UserIps} {key : UserKey} {ips : List IpAddr}
    (found : (ofUserIps name entries).get? key = some ips) : key.scope = name := by
  unfold ofUserIps at found
  rw [Table.get?_ofList] at found
  by_contra elsewhere
  rw [List.filter_eq_nil_iff.2 ?_] at found
  · cases found
  · intro entry member own
    obtain ⟨listed, -, rfl⟩ := List.mem_map.1 member
    exact elsewhere (congrArg UserKey.scope (of_decide_eq_true own)).symm

end OnlineView

/-! ### Sessions of one scope -/

namespace ConnectionLimiter

variable {limiter after : ConnectionLimiter} {key : UserKey} {name : String}

/-- Whether a request is about users of one scope. -/
def Request.IsWithin (name : String) : Request → Prop
  | .connect key _ _ | .release key _ _ | .removeUser key => key.scope = name
  | .mergeRemote view => ∀ key ips, view.get? key = some ips → key.scope = name
  | .resetWindow | .clear => True

/-- All sessions are those of users of one scope. -/
def IsWithin (limiter : ConnectionLimiter) (name : String) : Prop :=
  ∀ key session, limiter.session? key = some session → key.scope = name

/-- No session counts more connections than its devices have. -/
def Backed (limiter : ConnectionLimiter) : Prop :=
  ∀ key session, limiter.session? key = some session → session.connections ≤ session.deviceTotal

theorem isWithin_empty : ({} : ConnectionLimiter).IsWithin name := fun _ _ found => nomatch found

theorem backed_empty : ({} : ConnectionLimiter).Backed := fun _ _ found => nomatch found

/-- Sessions begin only with a connection or with the word of other nodes. -/
theorem IsWithin.perform (h : limiter.IsWithin name) {request : Request}
    (named : request.IsWithin name) : (limiter.perform request).IsWithin name := by
  intro k session found
  cases request with
  | connect key ip limits =>
    rw [ConnectionLimiter.perform, connect_eq] at found
    split at found
    · exact h k session found
    · rw [session?_admitted] at found
      split at found
      next own => exact own ▸ named
      next => exact h k session found
  | release key ip id =>
    rcases limiter.release_eq_or key ip id with ⟨old, known, -, closed⟩ | nothing
    · rw [ConnectionLimiter.perform, closed, session?_setSession] at found
      split at found
      next own => exact own ▸ named
      next => exact h k session found
    · rw [ConnectionLimiter.perform, nothing] at found
      exact h k session found
  | resetWindow =>
    rw [ConnectionLimiter.perform, resetWindow, session?_closeWindow, Option.filter_eq_some_iff,
      Option.map_eq_some_iff] at found
    obtain ⟨⟨old, known, -⟩, -⟩ := found
    exact h k old known
  | mergeRemote view =>
    -- A session that is left had open connections before, or its user is in the view.
    have left := (@merges_mergeRemote limiter view).isSome_session?_iff k
    rcases left.1 (Option.isSome_of_eq_some found) with online | reported
    · obtain ⟨old, known⟩ := exists_session_of_isOnline online
      exact h k old known
    · cases listed : view.get? k with
      | none =>
        rw [OnlineView.addresses, listed] at reported
        exact absurd rfl reported
      | some ips => exact named k ips listed
  | removeUser key =>
    rw [ConnectionLimiter.perform, session?_removeUser] at found
    split at found
    · cases found
    · exact h k session found
  | clear => cases found

theorem IsWithin.performAll (h : limiter.IsWithin name) {requests : List Request}
    (named : ∀ request ∈ requests, request.IsWithin name) :
    (limiter.performAll requests).IsWithin name :=
  List.foldlRecOn (motive := (IsWithin · name)) _ _ h
    fun _ holds request member => holds.perform (named request member)

theorem Backed.of_keeps (h : limiter.Backed) (keeps : limiter.Keeps after) : after.Backed := by
  intro key session found
  rcases keeps.session_cases key session found with ⟨old, known, same⟩ | ⟨idle, -⟩
  · rw [same.connections_eq, same.deviceTotal_eq]
    exact h key old known
  · rw [idle.connections_eq]
    exact Nat.zero_le _

theorem Backed.sessionOrNew (h : limiter.Backed) (key : UserKey) :
    (limiter.sessionOrNew key).connections ≤ (limiter.sessionOrNew key).deviceTotal := by
  cases found : limiter.session? key with
  | some session =>
    rw [sessionOrNew_of_some found]
    exact h key session found
  | none =>
    rw [sessionOrNew_of_none found]
    exact Nat.zero_le _

/-- A device that counts no further has the greatest count, which the user's cannot exceed. -/
theorem Backed.admitted (h : limiter.Backed) (ip : IpAddr) : (limiter.admitted key ip).Backed := by
  intro k session found
  rw [session?_admitted] at found
  split at found
  next own =>
    subst own
    obtain rfl := Option.some.inj found
    have backed := h.sessionOrNew key
    generalize limiter.sessionOrNew key = session at backed
    have moved := @Session.deviceTotal_connect session ip
    have part := @Session.device_le_deviceTotal session ip
    have connections : (session.connect ip).connections =
      min (session.connections + 1) maxConnections := rfl
    omega
  next => exact h k session found

theorem Backed.disconnected (h : limiter.Backed) {session : Session} {ip : IpAddr}
    (known : limiter.session? key = some session) :
    (limiter.setSession key (session.disconnect ip)).Backed := by
  intro k later found
  rw [session?_setSession] at found
  split at found
  next own =>
    obtain rfl := Option.some.inj found
    have backed := h key session known
    have moved := @Session.deviceTotal_disconnect session ip
    have part := @Session.device_le_deviceTotal session ip
    have connections : (session.disconnect ip).connections = session.connections - 1 := rfl
    omega
  next => exact h k later found

theorem Backed.perform (h : limiter.Backed) (request : Request) :
    (limiter.perform request).Backed := by
  cases request with
  | connect key ip limits =>
    rw [ConnectionLimiter.perform, connect_eq]
    split
    · exact h
    · exact h.admitted ip
  | release key ip id =>
    rcases limiter.release_eq_or key ip id with ⟨session, known, -, closed⟩ | nothing
    · rw [ConnectionLimiter.perform, closed]
      exact h.disconnected known
    · rw [ConnectionLimiter.perform, nothing]
      exact h
  | resetWindow => exact h.of_keeps keeps_resetWindow
  | mergeRemote view => exact h.of_keeps (keeps_mergeRemote view)
  | removeUser key => exact h.of_keeps keeps_removeUser
  | clear => exact h.of_keeps keeps_clear

theorem Backed.performAll (h : limiter.Backed) (requests : List Request) :
    (limiter.performAll requests).Backed :=
  List.foldlRecOn _ _ h fun _ holds request _ => holds.perform request

/-! ### Requests of a scope -/

theorem granted_append (first second : List Request) :
    limiter.granted (first ++ second) =
      limiter.granted first + (limiter.performAll first).granted second := by
  induction first generalizing limiter with
  | nil => exact (Nat.zero_add _).symm
  | cons request rest ih =>
    rw [List.cons_append, granted, granted, ih, Nat.add_assoc]
    rfl

/-- A limiter comes of another by requests about one scope, of which at most so many are granted a
connection. -/
def Reaches (name : String) (count : Nat) (before after : ConnectionLimiter) : Prop :=
  ∃ requests, after = before.performAll requests ∧
    (∀ request ∈ requests, request.IsWithin name) ∧ before.granted requests ≤ count

theorem Reaches.refl {count : Nat} : Reaches name count limiter limiter :=
  ⟨[], rfl, fun _ member => (nomatch member), Nat.zero_le _⟩

theorem Reaches.trans {first second third : ConnectionLimiter} {count count' : Nat}
    (h : Reaches name count first second) (h' : Reaches name count' second third) :
    Reaches name (count + count') first third := by
  obtain ⟨requests, rfl, named, few⟩ := h
  obtain ⟨requests', rfl, named', few'⟩ := h'
  refine ⟨requests ++ requests', (List.foldl_append).symm, ?_, ?_⟩
  · intro request member
    rcases List.mem_append.1 member with member | member
    · exact named request member
    · exact named' request member
  · rw [granted_append]
    exact Nat.add_le_add few few'

theorem Reaches.request {request : Request} {count : Nat} (named : request.IsWithin name)
    (few : limiter.grantedBy request ≤ count) :
    Reaches name count limiter (limiter.perform request) :=
  ⟨[request], rfl, fun _ member => List.mem_singleton.1 member ▸ named, few⟩

end ConnectionLimiter

/-- Whether the operation asks for a connection. -/
def Operation.isConnect : Operation → Bool
  | .connect .. => true
  | _ => false

namespace Scope

variable {scope after : Scope} {user : UInt64} {ip : IpAddr}

open ConnectionLimiter (Reaches)

/-- An operation asks the connection limiter about users of the scope, and for a connection only if
it is one. -/
theorem reaches_perform (operation : Operation) :
    Reaches scope.name (if operation.isConnect then 1 else 0) scope.connections
      (scope.perform operation).connections := by
  cases operation with
  | connect user ip =>
    cases isOpen : scope.isOpen with
    | false =>
      rw [perform, connect_of_closed isOpen]
      exact .refl
    | true =>
      have asked : (scope.perform (.connect user ip)).connections =
          scope.connections.perform
            (.connect (scope.key user) ip (scope.admissionLimits user)) := by
        rw [perform, connect, if_pos isOpen]
        dsimp only
        split <;> rfl
      rw [asked]
      refine .request rfl ?_
      show (if _ then 1 else 0) ≤ 1
      split
      · exact Nat.le_refl _
      · exact Nat.zero_le _
  | release user ip session =>
    obtain ⟨speed, released, -⟩ := scope.release_frame user ip session
    rw [perform, released]
    exact @Reaches.request _ _ (.release (scope.key user) ip session) _ rfl (Nat.le_refl _)
  | removeUser user =>
    exact @Reaches.request _ _ (.removeUser (scope.key user)) _ rfl (Nat.le_refl _)
  | applyRosterDiff diff =>
    have pieces : (scope.applyRosterDiff diff).2.name = scope.name ∧
        Reaches scope.name 0 scope.connections (scope.applyRosterDiff diff).2.connections := by
      refine applyRosterDiff_induction
        (motive := fun s => s.name = scope.name ∧
          Reaches scope.name 0 scope.connections s.connections)
        ⟨rfl, .refl⟩ ?_ (fun _ _ kept => kept)
      rintro s user ⟨same, reaches⟩
      have removed : Reaches scope.name 0 s.connections (s.removeUser user).connections :=
        @Reaches.request _ _ (.removeUser (s.key user)) _ same (Nat.le_refl _)
      exact ⟨same, reaches.trans removed⟩
    exact pieces.2
  | escalate now entries =>
    obtain ⟨escalator, speed, escalated⟩ := scope.escalate_frame now entries
    rw [perform, escalated]
    exact .refl
  | endWindow =>
    show Reaches scope.name 0 scope.connections (scope.connections.endWindow scope.recorderEnabled)
    unfold ConnectionLimiter.endWindow
    split
    · exact .refl
    · exact @Reaches.request _ _ .resetWindow _ trivial (Nat.le_refl _)
  | mergeOnline entries =>
    exact @Reaches.request _ _ (.mergeRemote (OnlineView.ofUserIps scope.name entries)) _
      (fun _ _ => OnlineView.scope_eq_of_ofUserIps) (Nat.le_refl _)
  | discardWindow => exact @Reaches.request _ _ .resetWindow _ trivial (Nat.le_refl _)
  | teardown => exact @Reaches.request _ _ .clear _ trivial (Nat.le_refl _)
  | _ => exact .refl

theorem reaches_performAll (operations : List Operation) :
    Reaches scope.name (operations.countP (·.isConnect)) scope.connections
      (scope.performAll operations).connections := by
  induction operations generalizing scope with
  | nil => exact .refl
  | cons operation rest ih =>
    have later := @ih (scope.perform operation)
    rw [name_perform] at later
    rw [List.countP_cons, Nat.add_comm]
    exact (reaches_perform operation).trans later

/-! ### The list of a scope -/

/-- What a list of a scope's online users has to be: an entry for each user with open connections,
ascending, with the addresses that they come from, ascending. -/
structure ListsOnline (scope : Scope) (entries : List UserIps) : Prop where
  users_ascend : entries.Pairwise (fun x y => x.userId < y.userId)
  ips_ascend : ∀ entry ∈ entries, entry.ips.Pairwise (fun x y => compare x y = .lt)
  ips_ne_nil : ∀ entry ∈ entries, entry.ips ≠ []
  mem_ips_iff : ∀ entry ∈ entries, ∀ ip,
    ip ∈ entry.ips ↔ 0 < scope.connectionsAt entry.userId ip
  listed_iff : ∀ user, (∃ entry ∈ entries, entry.userId = user) ↔
    ∃ ip, 0 < scope.connectionsAt user ip
  /-- The count of the user's own connections misses nobody either. -/
  listed_of_connected : ∀ user, 0 < scope.connectionsOf user →
    ∃ entry ∈ entries, entry.userId = user

/-- The window ends with a list of other nodes, the entries of which are visited in any order. -/
def MergesOnline (scope : Scope) (entries : List UserIps) (after : Scope) : Prop :=
  ∃ connections, after = { scope with connections } ∧
    scope.connections.Merges (OnlineView.ofUserIps scope.name entries) connections

theorem get?_onlineView_eq_some_iff {key : UserKey} {ips : List IpAddr} :
    scope.onlineView.get? key = some ips ↔
      ∃ session, scope.connections.session? key = some session ∧ session.openIps = ips ∧
        ips ≠ [] := by
  rw [onlineView, ConnectionLimiter.get?_snapshot, Option.bind_eq_some_iff]
  refine exists_congr fun session => and_congr_right fun _ => ?_
  split
  next closed =>
    rw [List.isEmpty_iff] at closed
    constructor
    · intro found
      cases found
    · rintro ⟨rfl, some_ips⟩
      exact absurd closed some_ips
  next opened =>
    rw [List.isEmpty_iff] at opened
    rw [Option.some.injEq]
    constructor
    · rintro rfl
      exact ⟨rfl, opened⟩
    · exact And.left

theorem isOf_onlineView (within : scope.connections.IsWithin scope.name) :
    scope.onlineView.IsOf scope.name where
  scope_eq key ips found := by
    obtain ⟨session, known, -⟩ := get?_onlineView_eq_some_iff.1 found
    exact within key session known
  ips_ne_nil key ips found := by
    obtain ⟨session, -, -, some_ips⟩ := get?_onlineView_eq_some_iff.1 found
    exact some_ips

theorem mem_addresses_onlineView :
    ip ∈ scope.onlineView.addresses (scope.key user) ↔ 0 < scope.connectionsAt user ip := by
  unfold OnlineView.addresses
  constructor
  · intro member
    cases found : scope.onlineView.get? (scope.key user) with
    | none =>
      rw [found] at member
      cases member
    | some ips =>
      rw [found] at member
      obtain ⟨session, known, rfl, -⟩ := get?_onlineView_eq_some_iff.1 found
      rw [connectionsAt_eq_deviceOf, deviceOf_of_some known]
      exact Session.mem_openIps_iff.1 member
  · intro opened
    rw [connectionsAt_eq_deviceOf] at opened
    cases known : scope.session? user with
    | none =>
      rw [deviceOf_of_none known] at opened
      cases opened
    | some session =>
      rw [deviceOf_of_some known] at opened
      have member := Session.mem_openIps_iff.2 opened
      have found := get?_onlineView_eq_some_iff.2
        ⟨session, known, rfl, List.ne_nil_of_mem member⟩
      rw [found]
      exact member

theorem listsOnline_toUserIps (within : scope.connections.IsWithin scope.name)
    (backed : scope.connections.Backed) : scope.ListsOnline scope.onlineView.toUserIps := by
  have view := isOf_onlineView within
  have looked {entry : UserIps} (member : entry ∈ scope.onlineView.toUserIps) :
      scope.onlineView.get? (scope.key entry.userId) = some entry.ips := view.mem_toUserIps.1 member
  have listed {user : UInt64} {ips : List IpAddr}
      (found : scope.onlineView.get? (scope.key user) = some ips) :
      ∃ entry ∈ scope.onlineView.toUserIps, entry.userId = user :=
    ⟨⟨user, ips⟩, view.mem_toUserIps.2 found, rfl⟩
  refine ⟨view.pairwise_listed (.refl _), ?_, ?_, ?_, ?_, ?_⟩
  · intro entry member
    obtain ⟨session, -, own, -⟩ := get?_onlineView_eq_some_iff.1 (looked member)
    exact own ▸ Session.pairwise_openIps
  · intro entry member
    exact view.ips_ne_nil _ _ (looked member)
  · intro entry member ip
    rw [← mem_addresses_onlineView, OnlineView.addresses, looked member, Option.getD_some]
  · intro user
    constructor
    · rintro ⟨entry, member, rfl⟩
      obtain ⟨ip, given⟩ := List.exists_mem_of_ne_nil _ (view.ips_ne_nil _ _ (looked member))
      refine ⟨ip, mem_addresses_onlineView.1 ?_⟩
      rw [OnlineView.addresses, looked member, Option.getD_some]
      exact given
    · rintro ⟨ip, opened⟩
      have given := mem_addresses_onlineView.2 opened
      cases found : scope.onlineView.get? (scope.key user) with
      | none =>
        rw [OnlineView.addresses, found] at given
        cases given
      | some ips => exact listed found
  · intro user connected
    cases known : scope.session? user with
    | none =>
      rw [connectionsOf_of_none known] at connected
      cases connected
    | some session =>
      rw [connectionsOf_of_some known] at connected
      have enough := backed (scope.key user) session known
      have some_ips : session.openIps ≠ [] := by
        rw [Ne, Session.openIps_eq_nil_iff]
        omega
      exact listed (get?_onlineView_eq_some_iff.2 ⟨session, known, rfl, some_ips⟩)

/-- Where the books are kept, who has an open connection from somewhere is counted. -/
theorem connectionsOf_pos_of_open {bound : Nat} (counted : scope.connections.Counted bound)
    (opened : 0 < scope.connectionsAt user ip) : 0 < scope.connectionsOf user := by
  rw [connectionsAt_eq_deviceOf] at opened
  exact counted.isOnline_iff.1 (Or.inr ⟨ip, opened⟩)

namespace MergesOnline

variable {entries : List UserIps}

theorem mergeOnline (scope : Scope) (entries : List UserIps) :
    scope.MergesOnline entries (scope.mergeOnline entries) :=
  ⟨_, rfl, ConnectionLimiter.merges_mergeRemote _⟩

theorem connectionsOf_eq (h : scope.MergesOnline entries after) (user : UInt64) :
    after.connectionsOf user = scope.connectionsOf user := by
  obtain ⟨connections, rfl, merges⟩ := h
  exact merges.connections_eq (scope.key user)

theorem connectionsAt_eq (h : scope.MergesOnline entries after) (user : UInt64) (ip : IpAddr) :
    after.connectionsAt user ip = scope.connectionsAt user ip := by
  obtain ⟨connections, rfl, merges⟩ := h
  have left := congrArg Device.connections (merges.deviceOf_eq (scope.key user) ip)
  rw [connectionsAt_eq_deviceOf, connectionsAt_eq_deviceOf]
  exact left

/-- A list that reads back as what is online here reports the addresses with open connections. -/
theorem onlineAddresses_eq (h : scope.MergesOnline entries after)
    (echo : OnlineView.ofUserIps scope.name entries = scope.onlineView) (user : UInt64) :
    after.onlineAddresses user = scope.openAddresses user := by
  have opened : after.openAddresses user = scope.openAddresses user := by
    ext ip
    show 0 < after.connectionsAt user ip ↔ 0 < scope.connectionsAt user ip
    rw [h.connectionsAt_eq]
  obtain ⟨connections, rfl, merges⟩ := h
  rw [echo] at merges
  have remote : ({ scope with connections } : Scope).remoteAddresses user =
      scope.openAddresses user := by
    ext ip
    have left := congrArg Device.isRemote (merges.deviceOf_eq (scope.key user) ip)
    have marked : (({ scope with connections } : Scope).deviceOf user ip).isRemote =
        decide (ip ∈ scope.onlineView.addresses (scope.key user)) := left
    rw [mem_remoteAddresses, marked, decide_eq_true_eq, mem_addresses_onlineView]
    rfl
  rw [onlineAddresses_eq_union, remote, opened, Set.union_self]

end MergesOnline

end Scope

/-- The list of who is online has an entry for each user with open connections, ascending, with the
addresses that they come from, ascending; it is the same in whatever order the sessions are visited.
Read back, in any order of its entries, it is what was listed. And a window that ends with it leaves
all connections as they are and exactly the addresses with open connections active. -/
theorem online_listing_round_trips (name : String) (config : ScopeConfig)
    {operations : List Operation} {scope : Scope}
    (reached : scope = (Scope.activate name config).performAll operations) :
    scope.ListsOnline scope.onlineView.toUserIps ∧
    (operations.countP (·.isConnect) < UInt32.size → ∀ user,
      (∃ entry ∈ scope.onlineView.toUserIps, entry.userId = user) ↔
        0 < scope.connectionsOf user) ∧
    (∀ visited, visited.Perm scope.onlineView.toList →
      OnlineView.listed visited = scope.onlineView.toUserIps) ∧
    ∀ echo, echo.Perm scope.onlineView.toUserIps →
      OnlineView.ofUserIps scope.name echo = scope.onlineView ∧
      scope.MergesOnline echo (scope.mergeOnline echo) ∧
      ∀ after, scope.MergesOnline echo after →
        (∀ user, after.connectionsOf user = scope.connectionsOf user) ∧
        (∀ user ip, after.connectionsAt user ip = scope.connectionsAt user ip) ∧
        ∀ user, after.onlineAddresses user = scope.openAddresses user ∧
          after.activeDevicesOf user = (scope.openAddresses user).ncard := by
  have size : maxConnections = UInt32.size - 1 := rfl
  have start : (Scope.activate name config).connections = {} := rfl
  obtain ⟨requests, asked, named, few⟩ :=
    @Scope.reaches_performAll (Scope.activate name config) operations
  rw [← reached] at asked
  rw [start] at asked few
  have kept : scope.name = name := by
    rw [reached]
    exact Scope.name_performAll operations
  have within : scope.connections.IsWithin scope.name := by
    rw [asked, kept]
    exact ConnectionLimiter.isWithin_empty.performAll named
  have backed : scope.connections.Backed := by
    rw [asked]
    exact ConnectionLimiter.backed_empty.performAll requests
  have view := Scope.isOf_onlineView within
  have lists := Scope.listsOnline_toUserIps within backed
  refine ⟨lists, ?_, fun visited perm => view.listed_of_perm perm, ?_⟩
  · intro below user
    have counted : scope.connections.Counted (0 + ConnectionLimiter.granted {} requests) := by
      rw [asked]
      exact ConnectionLimiter.counted_empty.performAll (by omega)
    constructor
    · intro listed
      obtain ⟨ip, opened⟩ := (lists.listed_iff user).1 listed
      exact Scope.connectionsOf_pos_of_open counted opened
    · exact lists.listed_of_connected user
  · intro echo perm
    have back := view.ofUserIps_of_perm perm
    refine ⟨back, .mergeOnline scope echo, ?_⟩
    intro after merges
    refine ⟨merges.connectionsOf_eq, merges.connectionsAt_eq, ?_⟩
    intro user
    have active := merges.onlineAddresses_eq back user
    exact ⟨active, by rw [Scope.activeDevicesOf_eq_ncard, active]⟩

/-- Two users are online here, one of them also elsewhere, a third elsewhere only, and a fourth has
gone. The list comes back with its two entries the other way round, and so nobody is known to be
online elsewhere any more. -/
theorem online_listing_round_trips_reversed :
    ∃ (scope : Scope) (echo : List UserIps),
      scope = (Scope.activate "a" { ipRecorderEnabled := true }).performAll
        [.connect 9 (.v4 3), .connect 7 (.v4 2), .connect 7 (.v4 1), .connect 7 (.v4 1),
          .connect 5 (.v4 4), .release 5 (.v4 4) none,
          .mergeOnline [⟨8, [.v4 6]⟩, ⟨7, [.v4 8, .v4 2]⟩]] ∧
      echo = [⟨9, [.v4 3]⟩, ⟨7, [.v4 1, .v4 2]⟩] ∧ echo.Perm scope.onlineView.toUserIps ∧
      scope.onlineView.toUserIps = echo.reverse ∧
      scope.activeDevicesOf 7 = 3 ∧ scope.activeDevicesOf 8 = 1 ∧
      (∃ entry ∈ scope.onlineView.toUserIps, entry.userId = 7) ∧
      OnlineView.ofUserIps "a" echo = scope.onlineView ∧
      (scope.mergeOnline echo).connectionsAt 7 (.v4 1) = 2 ∧
      (scope.mergeOnline echo).onlineAddresses 7 = scope.openAddresses 7 ∧
      (scope.mergeOnline echo).activeDevicesOf 8 = (scope.openAddresses 8).ncard := by
  let operations : List Operation :=
    [.connect 9 (.v4 3), .connect 7 (.v4 2), .connect 7 (.v4 1), .connect 7 (.v4 1),
      .connect 5 (.v4 4), .release 5 (.v4 4) none,
      .mergeOnline [⟨8, [.v4 6]⟩, ⟨7, [.v4 8, .v4 2]⟩]]
  let scope := (Scope.activate "a" { ipRecorderEnabled := true }).performAll operations
  let echo : List UserIps := [⟨9, [.v4 3]⟩, ⟨7, [.v4 1, .v4 2]⟩]
  obtain ⟨-, online, -, echoed⟩ :=
    @online_listing_round_trips "a" { ipRecorderEnabled := true } operations scope rfl
  have entries : scope.onlineView.toList.map OnlineView.listedEntry = echo.reverse := by decide
  have same : scope.onlineView.toUserIps = echo.reverse := by
    show (scope.onlineView.toList.map OnlineView.listedEntry).mergeSort _ = _
    rw [entries]
    exact List.mergeSort_of_pairwise (by decide)
  have perm : echo.Perm scope.onlineView.toUserIps := same ▸ (List.reverse_perm echo).symm
  obtain ⟨back, merges, kept⟩ := echoed echo perm
  obtain ⟨-, opened, active⟩ := kept _ merges
  have twice : scope.connectionsAt 7 (.v4 1) = 2 := by decide
  refine ⟨scope, echo, rfl, rfl, perm, same, by decide, by decide, ?_, back,
    (opened 7 _).trans twice, (active 7).1, (active 8).2⟩
  exact (online (by decide) 7).2 (by decide)

end Tollgate
