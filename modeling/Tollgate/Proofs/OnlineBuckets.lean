import Mathlib.Algebra.BigOperators.Group.Finset.Basic
import Mathlib.Algebra.Order.BigOperators.Group.Finset
import Tollgate.Proofs.Leases
import Tollgate.Proofs.Throttle

/-!
# Buckets of users who are online

A bucket begins when it is asked for and ends when its user goes offline. Going offline is the end
of the last connection, so a bucket that is asked for without one has nothing to end it
(`Scope.OnlineBuckets`, `Scope.OnlineBuckets.perform`).

That who holds no lease has no open connection does not need the counts to be right, which they are
only up to the greatest count: `Covered` bounds them by the leases, however many those are.
-/

namespace Tollgate

/-- Whether the operation asks for a bucket. -/
def Operation.isBucketRequest : Operation → Bool
  | .getBucket .. => true
  | _ => false

namespace Scope

variable {scope : Scope} {user : UInt64}

/-- Every bucket in use is that of a user with an open connection. -/
def OnlineBuckets (scope : Scope) : Prop :=
  ∀ user issued, scope.bucket? user = some issued → 0 < scope.connectionsOf user

/-! ### Where buckets come from -/

/-- A bucket is in use because it was before, or because it was asked for. -/
theorem bucket?_of_perform {operation : Operation} (single : operation.isRosterDiff = false)
    {issued : IssuedBucket} (inUse : (scope.perform operation).bucket? user = some issued) :
    (∃ held, scope.bucket? user = some held) ∨ ∃ now, operation = .getBucket user now := by
  have start : ∀ issued, (scope.throttle user).bucket = some issued →
      (∃ held, scope.bucket? user = some held) ∨ ∃ now, operation = .getBucket user now :=
    fun held found => Or.inl ⟨held, found⟩
  refine throttle_induction (motive := fun throttle => ∀ issued, throttle.bucket = some issued →
    (∃ held, scope.bucket? user = some held) ∨ ∃ now, operation = .getBucket user now)
    single start ?_ issued inUse
  intro before after step traced
  cases step with
  | connected unknown => exact traced
  | enlisted own => exact traced
  | issued current made => exact fun _ _ => Or.inr ⟨_, rfl⟩
  | used found same => exact fun _ _ => Or.inl ⟨_, found⟩
  | _ => exact fun _ found => nomatch found

/-! ### Connections that stay -/

theorem connectionsOf_connect_pos (user' : UInt64) (ip : IpAddr)
    (online : 0 < scope.connectionsOf user) :
    0 < (scope.connect user' ip).2.connectionsOf user := by
  cases isOpen : scope.isOpen with
  | false =>
    rw [connect_of_closed isOpen]
    exact online
  | true =>
    rw [connect_of_open isOpen]
    split
    · exact online
    · have look := scope.session?_admitted user' ip rfl user
      split at look
      next same =>
        have counted := ConnectionLimiter.connections_of_some look
        have least : 0 < min ((scope.connections.sessionOrNew (scope.key user')).connections + 1)
            maxConnections := Nat.lt_min.2 ⟨Nat.succ_pos _, by decide⟩
        exact Nat.lt_of_lt_of_eq least counted.symm
      next => exact Nat.lt_of_lt_of_eq online (ConnectionLimiter.connections_congr look).symm

/-- The last connection that is closed takes the bucket with it, and any other leaves one open. -/
theorem online_release (user' : UInt64) (ip : IpAddr) (session : Option Nat)
    (online : 0 < scope.connectionsOf user) :
    0 < (scope.release user' ip session).connectionsOf user ∨
      (scope.release user' ip session).bucket? user = none := by
  have left : (scope.release user' ip session).connectionsOf user =
      (scope.connections.release (scope.key user') ip session).2.connections (scope.key user) := by
    obtain ⟨speed, after, -⟩ := scope.release_frame user' ip session
    rw [after]
    rfl
  rcases scope.release_cases user' ip session with
    ⟨old, known, same, opened, closed⟩ | ⟨nothing, -⟩
  · have look := scope.session?_setSession user' (old.disconnect ip) user
    rw [← closed] at look
    by_cases own : user' = user
    · subst own
      rw [if_pos rfl] at look
      by_cases last : old.connections - 1 = 0
      · have offline : (scope.connections.release (scope.key user') ip session).1 = true := by
          rw [ConnectionLimiter.release_of_open known same opened]
          exact decide_eq_true last
        have after := @throttle_release scope user' user' ip session
        rw [if_pos ⟨rfl, offline⟩] at after
        exact Or.inr (congrArg Throttle.bucket after)
      · have counted := ConnectionLimiter.connections_of_some look
        have more : 0 < (old.disconnect ip).connections := Nat.pos_of_ne_zero last
        exact Or.inl (Nat.lt_of_lt_of_eq more (left.trans counted).symm)
    · rw [if_neg own] at look
      have counted := ConnectionLimiter.connections_congr look
      exact Or.inl (Nat.lt_of_lt_of_eq online (left.trans counted).symm)
  · rw [nothing] at left
    exact Or.inl (Nat.lt_of_lt_of_eq online left.symm)

/-- A user with an open connection has one still, or no bucket. -/
theorem online_perform {operation : Operation} (single : operation.isRosterDiff = false)
    (online : 0 < scope.connectionsOf user) :
    0 < (scope.perform operation).connectionsOf user ∨
      (scope.perform operation).bucket? user = none := by
  cases operation with
  | connect user' ip => exact Or.inl (connectionsOf_connect_pos user' ip online)
  | release user' ip session => exact online_release user' ip session online
  | removeUser user' =>
    have after := @throttle_removeUser scope user user'
    have look := @ConnectionLimiter.session?_removeUser scope.connections (scope.key user')
      (scope.key user)
    simp only [key_inj] at look
    by_cases own : user' = user
    · rw [if_pos own] at after
      exact Or.inr (congrArg Throttle.bucket after)
    · rw [if_neg own] at look
      have counted := ConnectionLimiter.connections_congr look
      exact Or.inl (Nat.lt_of_lt_of_eq online counted.symm)
  | applyRosterDiff diff => cases single
  | escalate now entries =>
    obtain ⟨escalator, speed, after⟩ := scope.escalate_frame now entries
    rw [perform, after]
    exact Or.inl online
  | endWindow =>
    have counted := @ConnectionLimiter.connections_endWindow scope.connections (scope.key user)
      scope.recorderEnabled
    exact Or.inl (Nat.lt_of_lt_of_eq online counted.symm)
  | mergeOnline entries =>
    have counted := @ConnectionLimiter.connections_mergeRemote scope.connections (scope.key user)
      (OnlineView.ofUserIps scope.name entries)
    exact Or.inl (Nat.lt_of_lt_of_eq online counted.symm)
  | discardWindow =>
    have counted := @ConnectionLimiter.connections_resetWindow scope.connections (scope.key user)
    exact Or.inl (Nat.lt_of_lt_of_eq online counted.symm)
  | teardown => exact Or.inr rfl
  | _ => exact Or.inl online

/-! ### What keeps buckets to users who are online -/

theorem onlineBuckets_activate (name : String) (config : ScopeConfig) :
    (activate name config).OnlineBuckets :=
  fun _ _ inUse => nomatch inUse

theorem OnlineBuckets.perform_single (h : scope.OnlineBuckets) {operation : Operation}
    (single : operation.isRosterDiff = false)
    (asked : ∀ user now, operation = .getBucket user now → 0 < scope.connectionsOf user) :
    (scope.perform operation).OnlineBuckets := by
  intro user issued inUse
  have online : 0 < scope.connectionsOf user := by
    rcases bucket?_of_perform single inUse with ⟨held, inUse'⟩ | ⟨now, request⟩
    · exact h user held inUse'
    · exact asked user now request
  rcases online_perform single online with stays | retired
  · exact stays
  · exact nomatch retired.symm.trans inUse

/-- Buckets are those of users who are online as long as only such users ask for one. -/
theorem OnlineBuckets.perform (h : scope.OnlineBuckets) (operation : Operation)
    (asked : ∀ user now, operation = .getBucket user now → 0 < scope.connectionsOf user) :
    (scope.perform operation).OnlineBuckets := by
  by_cases single : operation.isRosterDiff = true
  · cases operation with
    | applyRosterDiff diff =>
      refine applyRosterDiff_induction h ?_ ?_
      · intro s user holds
        exact @perform_single s holds (.removeUser user) rfl fun _ _ other => nomatch other
      · intro s entry holds
        exact @perform_single s holds (.insertUser entry) rfl fun _ _ other => nomatch other
    | _ => cases single
  · exact h.perform_single (Bool.not_eq_true _ ▸ single) asked

end Scope

/-- Steps of a node on which connections are opened and closed through leases only, and only users
with an open connection ask for a bucket. -/
structure AsksOnline (node : Node) (event : Event) (_ : Node) : Prop where
  direct : ∀ a operation, event = .operate a operation → operation.movesConnections = false
  online : ∀ a user now, event = .operate a (.getBucket user now) →
    0 < (node.scope a).connectionsOf user

theorem Operation.isBucketRequest_of_isPullWork {operation : Operation}
    (work : operation.isPullWork = true) : operation.isBucketRequest = false := by
  cases operation <;> first | rfl | cases work

theorem Operation.isBucketRequest_of_isPushWork {operation : Operation}
    (work : operation.isPushWork = true) : operation.isBucketRequest = false := by
  cases operation <;> first | rfl | cases work

/-- Neither leases that come and go nor cycles ask for a bucket. -/
theorem Event.isBucketRequest_of_mayPerform {node : Node} {a : Nat} {event : Event}
    {operation : Operation} (h : event.mayPerform node a operation)
    (indirect : ∀ b performed, event ≠ .operate b performed) :
    operation.isBucketRequest = false := by
  cases event with
  | operate b performed => exact absurd rfl (indirect b performed)
  | acquire b user ip =>
    obtain ⟨-, rfl⟩ := h
    rfl
  | drop lease =>
    obtain ⟨-, rfl⟩ := h
    rfl
  | resumePull c plane => exact Operation.isBucketRequest_of_isPullWork h.1
  | beginChange c plane => exact Operation.isBucketRequest_of_isPullWork h.1
  | goOnChanging c => exact Operation.isBucketRequest_of_isPullWork h.1
  | beginPush c now => exact Operation.isBucketRequest_of_isPushWork h
  | resumePush c peers now => exact Operation.isBucketRequest_of_isPushWork h
  | _ => cases h

/-- Every bucket in use, of every activation, is that of a user with an open connection. -/
def Node.OnlineBuckets (node : Node) : Prop := ∀ a, (node.scope a).OnlineBuckets

namespace Node

variable {node next : Node} {event : Event}

theorem onlineBuckets_empty : OnlineBuckets {} := fun _ _ _ inUse => nomatch inUse

theorem OnlineBuckets.of_evolves (h : node.OnlineBuckets)
    (evolves : Registry.Evolves (fun _ operation => operation.isBucketRequest = false)
      node.registry next.registry) : next.OnlineBuckets := by
  intro a
  obtain ⟨operations, after, silent⟩ := evolves.scope a
  have after' : next.scope a = (node.scope a).performAll operations := after
  rw [after']
  refine Scope.performAll_induction (h a) ?_
  intro s operation member holds
  refine holds.perform operation ?_
  rintro user now rfl
  exact nomatch silent _ member

/-- Every step on which only users with an open connection ask for a bucket keeps buckets to such
users. -/
theorem OnlineBuckets.step (h : node.OnlineBuckets) (step : node.Step event next)
    (allowed : AsksOnline node event next) : next.OnlineBuckets := by
  -- The steps that ask for no bucket are one case, by what they may perform.
  have silent (lasting : event.isLifecycle = false)
      (indirect : ∀ b performed, event ≠ .operate b performed) : next.OnlineBuckets :=
    h.of_evolves <| (step.evolves lasting).imp fun _ _ may =>
      Event.isBucketRequest_of_mayPerform may indirect
  cases event with
  | activate name config =>
    intro a
    rcases step.scope_activate a with same | started
    · rw [same]
      exact h a
    · rw [started]
      exact Scope.onlineBuckets_activate name config
  | deactivate name =>
    intro a
    rcases step.scope_deactivate a with same | ended
    · rw [same]
      exact h a
    · rw [ended]
      exact (h a).perform .teardown fun _ _ other => nomatch other
  | operate b operation =>
    intro a
    cases step with
    | operate known settled =>
      have after : (node.operate b operation).scope a = _ :=
        Registry.scope_modify b a (·.perform operation)
      rw [after]
      split
      next here =>
        subst here
        refine (h b).perform operation ?_
        rintro user now rfl
        exact allowed.online b user now rfl
      next => exact h a
  | _ => exact silent rfl fun _ _ other => nomatch other

theorem onlineBuckets_of_run (run : Run AsksOnline {} node) : node.OnlineBuckets := by
  induction run with
  | refl => exact onlineBuckets_empty
  | tail _ last ih =>
    obtain ⟨event, step, allowed⟩ := last
    exact ih.step step allowed

end Node

/-! ### Connections and leases, however many -/

/-- The open connections are at most those of the devices. -/
def Session.IsCounted (session : Session) : Prop :=
  ∃ ips : Finset IpAddr, session.connections ≤ ∑ ip ∈ ips, (session.device ip).connections

namespace Session

variable {session after : Session}

theorem IsIdle.isCounted (idle : session.IsIdle) : session.IsCounted := by
  refine ⟨∅, ?_⟩
  rw [idle.connections_eq]
  exact Nat.zero_le _

theorem IsCounted.of_same (h : session.IsCounted) (same : session.SameConnections after) :
    after.IsCounted := by
  obtain ⟨ips, counted⟩ := h
  refine ⟨ips, ?_⟩
  simp only [same.connections_eq, same.device_eq]
  exact counted

/-- Connections from one address and from all others. -/
theorem IsCounted.split (h : session.IsCounted) (ip : IpAddr) :
    ∃ ips : Finset IpAddr, ip ∉ ips ∧
      session.connections ≤
        (session.device ip).connections + ∑ other ∈ ips, (session.device other).connections := by
  obtain ⟨ips, counted⟩ := h
  refine ⟨ips.erase ip, Finset.notMem_erase ip ips, ?_⟩
  by_cases member : ip ∈ ips
  · rw [Finset.add_sum_erase ips (fun other => (session.device other).connections) member]
    exact counted
  · rw [Finset.erase_eq_of_notMem member]
    exact Nat.le_trans counted (Nat.le_add_left _ _)

theorem isCounted_of_split {ip : IpAddr} {ips : Finset IpAddr} (apart : ip ∉ ips)
    (counted : session.connections ≤
      (session.device ip).connections + ∑ other ∈ ips, (session.device other).connections) :
    session.IsCounted := by
  refine ⟨insert ip ips, ?_⟩
  rw [Finset.sum_insert apart]
  exact counted

/-- A connection that changes the device at one address alone. -/
theorem sum_device_eq {ip : IpAddr} {ips : Finset IpAddr} (apart : ip ∉ ips)
    (others : ∀ other, ip ≠ other → after.device other = session.device other) :
    ∑ other ∈ ips, (after.device other).connections =
      ∑ other ∈ ips, (session.device other).connections := by
  refine Finset.sum_congr rfl fun other member => ?_
  rw [others other fun same => apart (same ▸ member)]

theorem IsCounted.connect (h : session.IsCounted) (ip : IpAddr) :
    (session.connect ip).IsCounted := by
  obtain ⟨ips, apart, counted⟩ := h.split ip
  have others := @sum_device_eq session (session.connect ip) ip ips apart
    fun other differs => by rw [device_connect, if_neg differs]
  refine isCounted_of_split apart ?_
  rw [others, device_connect, if_pos rfl]
  -- Both counts stop at the same greatest count, so that of the session does not get ahead.
  show min (session.connections + 1) maxConnections ≤
    min ((session.device ip).connections + 1) maxConnections +
      ∑ other ∈ ips, (session.device other).connections
  omega

theorem IsCounted.disconnect (h : session.IsCounted) (ip : IpAddr) :
    (session.disconnect ip).IsCounted := by
  obtain ⟨ips, apart, counted⟩ := h.split ip
  have others := @sum_device_eq session (session.disconnect ip) ip ips apart
    fun other differs => by rw [device_disconnect, if_neg differs]
  refine isCounted_of_split apart ?_
  rw [others, device_disconnect, if_pos rfl]
  show session.connections - 1 ≤ (session.device ip).connections - 1 +
    ∑ other ∈ ips, (session.device other).connections
  omega

end Session

/-- The open connections of the sessions of an activation are at most the leases that remember them.
-/
structure Covered (a : Nat) (scope : Scope) (leases : List Lease) : Prop where
  counted : ∀ user session, scope.session? user = some session → session.IsCounted
  device_le : ∀ user session, scope.session? user = some session → ∀ ip,
    (session.device ip).connections ≤ leases.countP (Lease.isAt a user ip session.id)

namespace Covered

variable {a : Nat} {scope after : Scope} {leases leases' : List Lease}

theorem of_no_sessions (idle : ∀ user, scope.session? user = none) : Covered a scope leases where
  counted user _ found := nomatch (idle user).symm.trans found
  device_le user _ found := nomatch (idle user).symm.trans found

theorem of_keeps (h : Covered a scope leases) (named : after.name = scope.name)
    (kept : scope.connections.Keeps after.connections) : Covered a after leases := by
  have keys (user : UInt64) : after.key user = scope.key user := by
    rw [Scope.key, Scope.key, named]
  have cases_of {user : UInt64} {session : Session} (found : after.session? user = some session) :=
    kept.session_cases (scope.key user) session (by rw [← keys]; exact found)
  refine ⟨?_, ?_⟩
  · intro user session found
    rcases cases_of found with ⟨old, known, same⟩ | ⟨idle, -⟩
    · exact (h.counted user old known).of_same same
    · exact idle.isCounted
  · intro user session found ip
    rcases cases_of found with ⟨old, known, same⟩ | ⟨idle, -⟩
    · rw [same.device_eq, same.id_eq]
      exact h.device_le user old known ip
    · rw [idle.device_eq]
      exact Nat.zero_le _

/-- One session in place of another, with leases that cover it and all others. -/
theorem of_session (h : Covered a scope leases) {user : UInt64} {session : Session}
    (look : ∀ user', after.session? user' =
      if user = user' then some session else scope.session? user')
    (others : ∀ user', user ≠ user' → ∀ ip id,
      leases.countP (Lease.isAt a user' ip id) ≤ leases'.countP (Lease.isAt a user' ip id))
    (counted : session.IsCounted)
    (device_le : ∀ ip,
      (session.device ip).connections ≤ leases'.countP (Lease.isAt a user ip session.id)) :
    Covered a after leases' := by
  refine ⟨?_, ?_⟩
  · intro user' session' found
    rw [look] at found
    split at found
    · cases found
      exact counted
    · exact h.counted user' session' found
  · intro user' session' found ip
    rw [look] at found
    split at found
    next same =>
      subst same
      cases found
      exact device_le ip
    next other =>
      exact Nat.le_trans (h.device_le user' session' found ip) (others user' other ip session'.id)

theorem cons (h : Covered a scope leases) (lease : Lease) : Covered a scope (lease :: leases) where
  counted := h.counted
  device_le user session found ip :=
    Nat.le_trans (h.device_le user session found ip) (List.sublist_cons_self _ _).countP_le

/-- A lease that no open connection of its session is counted for. -/
theorem erase (h : Covered a scope leases) {lease : Lease}
    (idle : lease.activation = a → ∀ session, scope.session? lease.user = some session →
      lease.session = session.id → (session.device lease.ip).connections = 0) :
    Covered a scope (leases.erase lease) where
  counted := h.counted
  device_le user session found ip := by
    by_cases own : lease.isAt a user ip session.id = true
    · simp only [Lease.isAt, Lease.isIn, Bool.and_eq_true, decide_eq_true_eq] at own
      obtain ⟨⟨⟨here, rfl⟩, same⟩, rfl⟩ := own
      rw [idle here session found same]
      exact Nat.zero_le _
    · rw [List.countP_erase, if_neg fun both => own both.2, Nat.sub_zero]
      exact h.device_le user session found ip

/-- The session that a connection would join is covered, also if it would only begin. -/
theorem sessionOrNew (h : Covered a scope leases) (user : UInt64) {session : Session}
    (joined : scope.connections.sessionOrNew (scope.key user) = session) :
    session.IsCounted ∧
      ∀ ip, (session.device ip).connections ≤ leases.countP (Lease.isAt a user ip session.id) := by
  cases found : scope.session? user with
  | some old =>
    obtain rfl := (ConnectionLimiter.sessionOrNew_of_some found).symm.trans joined
    exact ⟨h.counted user old found, h.device_le user old found⟩
  | none =>
    obtain rfl := (ConnectionLimiter.sessionOrNew_of_none found).symm.trans joined
    exact ⟨(Session.isIdle_new _).isCounted, fun _ => Nat.zero_le _⟩

/-- A lease that is granted covers the connection it comes with. -/
theorem admitted (h : Covered a scope leases) (user : UInt64) (ip : IpAddr) {lease : Lease}
    (granted : lease = ⟨a, user, ip, (scope.connections.sessionOrNew (scope.key user)).id⟩) :
    Covered a
      { scope with
        connections := scope.connections.admitted (scope.key user) ip
        speed := scope.speed.ensureUser (scope.key user) } (lease :: leases) := by
  generalize joined : scope.connections.sessionOrNew (scope.key user) = session at granted
  obtain ⟨counted, device_le⟩ := h.sessionOrNew user joined
  refine h.of_session (scope.session?_admitted user ip joined) ?_ (counted.connect ip) ?_
  · intro user' _ ip' id
    exact (List.sublist_cons_self _ _).countP_le
  · intro ip'
    rw [Session.device_connect]
    split
    next here =>
      subst here
      rw [List.countP_cons_of_pos (by simp [granted, Lease.isAt, Lease.isIn, Session.connect])]
      exact Nat.le_trans (Nat.min_le_left _ _) (Nat.succ_le_succ (device_le ip))
    next => exact Nat.le_trans (device_le ip') (List.sublist_cons_self _ _).countP_le

/-- A lease that is dropped takes the connection with it that it covers. -/
theorem released (h : Covered a scope leases) {lease : Lease} (held : lease ∈ leases)
    (here : lease.activation = a) :
    Covered a (scope.release lease.user lease.ip (some lease.session)) (leases.erase lease) := by
  obtain ⟨speed, after, -⟩ := scope.release_frame lease.user lease.ip (some lease.session)
  rw [after]
  rcases scope.release_cases lease.user lease.ip (some lease.session) with
    ⟨session, found, same, -, closed⟩ | ⟨nothing, unopened⟩
  · have same : lease.session = session.id := by simpa using same
    rw [closed]
    refine h.of_session (scope.session?_setSession lease.user (session.disconnect lease.ip)) ?_
      ((h.counted lease.user session found).disconnect lease.ip) ?_
    · intro user other ip id
      rw [List.countP_erase, if_neg (by simp [Lease.isAt, Lease.isIn, other]), Nat.sub_zero]
    · intro ip
      have covered := h.device_le lease.user session found ip
      rw [Session.device_disconnect, List.countP_erase]
      split
      next there =>
        subst there
        rw [if_pos ⟨held, by simp [Lease.isAt, Lease.isIn, here, same, Session.disconnect]⟩]
        exact Nat.sub_le_sub_right covered 1
      next elsewhere =>
        rw [if_neg (by simp [Lease.isAt, elsewhere]), Nat.sub_zero]
        exact covered
  · rw [nothing]
    refine (h.erase ?_).of_keeps rfl .refl
    intro _ session found same
    exact unopened session found (by simpa using same)

/-- Who holds no lease has no open connection. -/
theorem connectionsOf_eq_zero (h : Covered a scope leases) {user : UInt64}
    (none_held : ∀ lease ∈ leases, lease.isOf a user = false) : scope.connectionsOf user = 0 := by
  cases found : scope.session? user with
  | none => exact Scope.connectionsOf_of_none found
  | some session =>
    have idle (ip : IpAddr) : (session.device ip).connections = 0 := by
      have uncounted : leases.countP (Lease.isAt a user ip session.id) = 0 := by
        rw [List.countP_eq_zero]
        intro lease member counted
        have own : lease.isOf a user = true :=
          (Bool.and_eq_true_iff.1 (Lease.isIn_of_isAt counted)).1
        exact nomatch (none_held lease member).symm.trans own
      exact Nat.eq_zero_of_le_zero (uncounted ▸ h.device_le user session found ip)
    obtain ⟨ips, counted⟩ := h.counted user session found
    simp only [idle, Finset.sum_const_zero] at counted
    rw [Scope.connectionsOf_of_some found]
    exact Nat.eq_zero_of_le_zero counted

end Covered

/-- All activations of a node are covered by its leases. -/
structure Node.LeasesCover (node : Node) : Prop where
  covered : ∀ a, Covered a (node.scope a) node.leases

namespace Node

variable {node next : Node} {event : Event}

theorem LeasesCover.of_evolves (h : node.LeasesCover) (same : next.leases = node.leases)
    (evolves : Registry.Evolves (fun _ operation => operation.movesConnections = false)
      node.registry next.registry) : next.LeasesCover where
  covered a := by
    obtain ⟨operations, after, still⟩ := evolves.scope a
    have after' : next.scope a = (node.scope a).performAll operations := after
    rw [same, after']
    exact (h.covered a).of_keeps (Scope.name_performAll _) (Scope.keeps_performAll still)

/-- Every step on which connections are opened and closed through leases keeps them covered. -/
theorem LeasesCover.step (h : node.LeasesCover) (step : node.Step event next)
    (direct : ∀ a operation, event = .operate a operation → operation.movesConnections = false) :
    next.LeasesCover := by
  have quiet (lasting : event.isLifecycle = false) (kept : event.movesLeases = false) :
      next.LeasesCover :=
    h.of_evolves (step.leases_eq kept) <| (step.evolves lasting).imp fun _ _ may =>
      Event.movesConnections_of_mayPerform may kept direct
  cases event with
  | activate name config =>
    refine ⟨fun a => ?_⟩
    rw [step.leases_eq rfl]
    rcases step.scope_activate a with same | started
    · rw [same]
      exact h.covered a
    · rw [started]
      exact Covered.of_no_sessions fun _ => rfl
  | deactivate name =>
    refine ⟨fun a => ?_⟩
    rw [step.leases_eq rfl]
    rcases step.scope_deactivate a with same | ended
    · rw [same]
      exact h.covered a
    · rw [ended]
      exact (h.covered a).of_keeps rfl (Scope.keeps_perform rfl)
  | acquire b user ip =>
    refine ⟨fun a => ?_⟩
    cases step with
    | acquire known =>
      rcases acquire_cases b user ip with ⟨same, stays⟩ | ⟨granted, placed⟩
      · rw [same, stays]
        exact h.covered a
      · rw [granted, placed]
        split
        next here =>
          subst here
          exact (h.covered b).admitted user ip rfl
        next => exact (h.covered a).cons _
  | drop lease =>
    refine ⟨fun a => ?_⟩
    cases step with
    | drop held =>
      have after : (node.drop lease).scope a = _ :=
        Registry.scope_modify lease.activation a
          (·.release lease.user lease.ip (some lease.session))
      rw [after]
      split
      next here => exact (h.covered a).released held here
      next other => exact (h.covered a).erase fun here => absurd here other
  | _ => exact quiet rfl rfl

theorem leasesCover_of_run (run : Run AsksOnline {} node) : node.LeasesCover := by
  induction run with
  | refl => exact ⟨fun _ => Covered.of_no_sessions fun _ => rfl⟩
  | tail _ last ih =>
    obtain ⟨event, step, allowed⟩ := last
    exact ih.step step allowed.direct

end Node

/-- Where connections are opened and closed through leases only, buckets are those of users with an
open connection as long as only such users ask for one; who holds no lease has no bucket then. A
bucket that is issued to a user without an open connection is in use without one from there on. -/
theorem buckets_end_with_connections {node : Node} (run : Node.Run AsksOnline {} node) (a : Nat)
    (user : UInt64) :
    (∀ issued, (node.scope a).bucket? user = some issued →
      0 < (node.scope a).connectionsOf user) ∧
    ((∀ lease ∈ node.leases, lease.isOf a user = false) →
      (node.scope a).bucket? user = none) ∧
    ∀ now issued, ((node.scope a).getBucket user now).1 = some issued →
      (node.scope a).connectionsOf user = 0 →
      ¬ (node.operate a (.getBucket user now)).OnlineBuckets := by
  have online := Node.onlineBuckets_of_run run a user
  refine ⟨online, ?_, ?_⟩
  · intro none_held
    have offline := ((Node.leasesCover_of_run run).covered a).connectionsOf_eq_zero none_held
    cases inUse : (node.scope a).bucket? user with
    | none => rfl
    | some issued =>
      have opened := online issued inUse
      omega
  · intro now issued answered offline online'
    have after : (node.operate a (.getBucket user now)).scope a = _ :=
      Registry.scope_modify a a (·.perform (.getBucket user now))
    rw [if_pos rfl] at after
    have inUse := (Scope.getBucket_fst now).symm.trans answered
    have opened := online' a user issued (by rw [after]; exact inUse)
    rw [after] at opened
    have offline' : ((node.scope a).getBucket user now).2.connectionsOf user = 0 := offline
    have opened' : 0 < ((node.scope a).getBucket user now).2.connectionsOf user := opened
    omega

/-- The bucket of a lease is there with its connection and gone with it. -/
theorem buckets_end_with_connections_dropped :
    ∃ (asked : Node) (lease : Lease) (issued : IssuedBucket),
      Node.Run AsksOnline {} asked ∧ asked.leases = [lease] ∧
      (asked.scope 0).bucket? 7 = some issued ∧ 0 < (asked.scope 0).connectionsOf 7 ∧
      Node.Run AsksOnline {} (asked.drop lease) ∧ ((asked.drop lease).scope 0).bucket? 7 = none := by
  let active : Node := { registry := (({} : Registry).activate "a" ⟨⟨1000, 0, 0⟩, none, false⟩).2 }
  let held := active.acquire 0 7 default
  let asked := held.operate 0 (.getBucket 7 ⟨0⟩)
  let lease : Lease := ⟨0, 7, default, 0⟩
  have activates : Node.Step {} (.activate "a" ⟨⟨1000, 0, 0⟩, none, false⟩) active :=
    .activate "a" _
  have acquires : active.Step (.acquire 0 7 default) held := .acquire (by decide) 7 default
  have asks : held.Step (.operate 0 (.getBucket 7 ⟨0⟩)) asked :=
    .operate (by decide) (fun other => nomatch other)
  have drops : asked.Step (.drop lease) (asked.drop lease) := .drop (by decide)
  have run : Node.Run AsksOnline {} asked := by
    refine .tail (b := held) (.tail (b := active) (.tail .refl ⟨_, activates, ?_⟩)
      ⟨_, acquires, ?_⟩) ⟨_, asks, ?_⟩
    · exact ⟨fun _ _ other => (nomatch other), fun _ _ _ other => nomatch other⟩
    · exact ⟨fun _ _ other => (nomatch other), fun _ _ _ other => nomatch other⟩
    · refine ⟨?_, ?_⟩
      · rintro _ _ ⟨⟩
        rfl
      · rintro _ _ _ ⟨⟩
        decide
  have run' : Node.Run AsksOnline {} (asked.drop lease) :=
    run.tail ⟨_, drops, fun _ _ other => (nomatch other), fun _ _ _ other => nomatch other⟩
  obtain ⟨online, -, -⟩ := buckets_end_with_connections run 0 7
  obtain ⟨-, gone, -⟩ := buckets_end_with_connections run' 0 7
  have inUse : (asked.scope 0).bucket? 7 = some ⟨0, ⟨1000, by decide, none⟩⟩ := by decide
  have none_left : (asked.drop lease).leases = [] := by decide
  refine ⟨asked, lease, _, run, by decide, inUse, online _ inUse, run', gone ?_⟩
  rw [none_left]
  exact fun _ member => nomatch member

/-- A user is removed while holding a lease, and the lease asks for a bucket. It is left when the
lease is dropped, and the next session is held to it with another cap in force. -/
theorem buckets_outlive_connections :
    ∃ (held asked left again : Node) (lease : Lease) (issued : IssuedBucket),
      Node.Run LeasesOnly {} held ∧ lease ∈ held.leases ∧ lease.isOf 0 7 = true ∧
      asked = held.operate 0 (.getBucket 7 ⟨0⟩) ∧ (asked.scope 0).bucket? 7 = some issued ∧
      (asked.scope 0).connectionsOf 7 = 0 ∧
      left = asked.drop lease ∧ left.leases = [] ∧ (left.scope 0).bucket? 7 = some issued ∧
      again = (left.operate 0 (.setLimits ⟨500, 0, 0⟩)).acquire 0 7 default ∧
      Node.Run LeasesOnly {} again ∧ ((again.scope 0).effectiveCap 7 ⟨0⟩).1 = 500 ∧
      ((again.scope 0).getBucket 7 ⟨0⟩).1 = some issued ∧ issued.bucket.capacity = 1000 := by
  let active : Node := { registry := (({} : Registry).activate "a" ⟨⟨1000, 0, 0⟩, none, false⟩).2 }
  let gone : RosterDiff := { removed := [⟨7, ⟨0⟩, 0, 0⟩] }
  let first := active.acquire 0 7 default
  let held := first.operate 0 (.applyRosterDiff gone)
  let asked := held.operate 0 (.getBucket 7 ⟨0⟩)
  let lease : Lease := ⟨0, 7, default, 0⟩
  let left := asked.drop lease
  let limited := left.operate 0 (.setLimits ⟨500, 0, 0⟩)
  let again := limited.acquire 0 7 default
  have activates : Node.Step {} (.activate "a" ⟨⟨1000, 0, 0⟩, none, false⟩) active :=
    .activate "a" _
  have acquires : active.Step (.acquire 0 7 default) first := .acquire (by decide) 7 default
  have removes : first.Step (.operate 0 (.applyRosterDiff gone)) held :=
    .operate (by decide) (fun other => nomatch other)
  have asks : held.Step (.operate 0 (.getBucket 7 ⟨0⟩)) asked :=
    .operate (by decide) (fun other => nomatch other)
  have drops : asked.Step (.drop lease) left := .drop (by decide)
  have limits : left.Step (.operate 0 (.setLimits ⟨500, 0, 0⟩)) limited :=
    .operate (by decide) (fun other => nomatch other)
  have reacquires : limited.Step (.acquire 0 7 default) again := .acquire (by decide) 7 default
  have run : Node.Run LeasesOnly {} held := by
    refine .tail (b := first) (.tail (b := active) (.tail .refl ⟨_, activates, ?_⟩)
      ⟨_, acquires, ?_⟩) ⟨_, removes, ?_⟩
    · exact .of_length_lt (fun _ _ other => nomatch other) (by decide)
    · exact .of_length_lt (fun _ _ other => nomatch other) (by decide)
    · refine .of_length_lt ?_ (by decide)
      rintro _ _ ⟨⟩
      rfl
  have run' : Node.Run LeasesOnly {} again := by
    refine .tail (b := limited) (.tail (b := left) (.tail (b := asked) (.tail run ⟨_, asks, ?_⟩)
      ⟨_, drops, ?_⟩) ⟨_, limits, ?_⟩) ⟨_, reacquires, ?_⟩
    · refine .of_length_lt ?_ (by decide)
      rintro _ _ ⟨⟩
      rfl
    · exact .of_length_lt (fun _ _ other => nomatch other) (by decide)
    · refine .of_length_lt ?_ (by decide)
      rintro _ _ ⟨⟩
      rfl
    · exact .of_length_lt (fun _ _ other => nomatch other) (by decide)
  refine ⟨held, asked, left, again, lease, ⟨0, ⟨1000, by decide, none⟩⟩, run, by decide, by decide,
    rfl, by decide, by decide, rfl, by decide, by decide, rfl, run', by decide, by decide, rfl⟩

end Tollgate
