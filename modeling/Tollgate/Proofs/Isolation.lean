import Tollgate.Proofs.Clients

/-!
# Users do not interfere

Leave out of a sequence of requests what concerns other scopes and other users, and of every batch
the entries of others: what the registry answers about the one user that is left stays the same
(`users_do_not_interfere`). Two registries run side by side, one with all requests and the other with
those that are left. They stay alike for the user (`Client.Alike`): a request that is left out spares
the user, and one that is not does the same for the user on both sides.
-/

namespace Tollgate

/-! ### Calls -/

theorem Reply.ofAdmission_map (names : Nat → Nat) (result : Except Error (Except Refusal Nat)) :
    Reply.ofAdmission (result.map (·.map names)) = Reply.ofAdmission result := by
  cases result with
  | error e => rfl
  | ok result => cases result <;> rfl

namespace Scope.Alike

variable {key : UserKey} {names names' : Nat → Nat} {unnamed : Nat} {scope scope' : Scope}

theorem userCall (h : Alike key names names' unnamed scope scope') (now : Timestamp)
    (call : UserCall) :
    scope'.replyToUser key.user now call = scope.replyToUser key.user now call ∧
      Alike key names names' unnamed (scope.perform (call.operation key.user now))
        (scope'.perform (call.operation key.user now)) := by
  cases call with
  | connect ip =>
    obtain ⟨same, after⟩ := h.connect ip
    refine ⟨?_, after⟩
    rw [replyToUser, replyToUser, ← Reply.ofAdmission_map names', same, Reply.ofAdmission_map]
  | release ip => exact ⟨rfl, h.release ip fun _ _ _ _ => rfl⟩
  | getBucket => exact ⟨congrArg Reply.bucket (h.getBucket_eq now), h.getBucket now⟩
  | effectiveCap =>
    obtain ⟨same, after⟩ := h.effectiveCap now
    exact ⟨congrArg Reply.cap same, after⟩
  | reportTraffic traffic => exact ⟨rfl, h.reportTraffic traffic⟩

theorem userCall_other (h : Alike key names names' unnamed scope scope') {user : UInt64}
    (differs : user ≠ key.user) (now : Timestamp) (call : UserCall) :
    Alike key names names' unnamed (scope.perform (call.operation user now)) scope' := by
  cases call with
  | connect ip => exact h.connect_other differs ip
  | release ip => exact h.release_other differs ip none
  | getBucket => exact h.getBucket_other differs now
  | effectiveCap => exact h.effectiveCap_other differs now
  | reportTraffic traffic => exact h.reportTraffic_other differs traffic

/-- A call and what of it is about the user keep two scopes alike, and the user sees the same
answer. -/
theorem call (h : Alike key names names' unnamed scope scope') (owned : scope.RecordsOwn)
    (now : Timestamp) {call call' : ScopeCall} (kept : call.restrict key = some call') :
    (scope'.reply now call').seenBy key = (scope.reply now call).seenBy key ∧
      Alike key names names' unnamed (scope.perform (call.operation now))
        (scope'.perform (call'.operation now)) := by
  cases call with
  | ofUser user call =>
    simp only [ScopeCall.restrict, Option.ite_none_right_eq_some] at kept
    obtain ⟨rfl, kept⟩ := kept
    obtain rfl := Option.some.inj kept
    obtain ⟨same, after⟩ := h.userCall now call
    exact ⟨congrArg (Reply.seenBy key) same, after⟩
  | applyRosterDiff diff =>
    obtain rfl := Option.some.inj kept
    obtain ⟨same, after⟩ := h.applyRosterDiff diff
    exact ⟨congrArg (fun result => (Reply.ofResult result).seenBy key) same, after⟩
  | replaceRules rules =>
    obtain rfl := Option.some.inj kept
    exact ⟨rfl, { h with name_eq := h.name_eq }⟩
  | setLimits limits =>
    obtain rfl := Option.some.inj kept
    refine ⟨?_, { h with limits_eq := rfl }⟩
    simp only [reply, Scope.setLimits, h.limits_eq]
  | setDynamicLimit config =>
    obtain rfl := Option.some.inj kept
    exact ⟨rfl, { h with dynamicLimit_eq := rfl, count_eq := h.count_eq }⟩
  | drainTraffic =>
    obtain rfl := Option.some.inj kept
    obtain ⟨same, after⟩ := h.drainTraffic
    exact ⟨congrArg Reply.drained same, after⟩
  | creditTraffic entries =>
    obtain rfl := Option.some.inj kept
    exact ⟨rfl, h.creditTraffic entries⟩
  | escalate entries =>
    obtain rfl := Option.some.inj kept
    obtain ⟨same, after⟩ := h.escalate owned now entries
    refine ⟨congrArg Reply.escalated ?_, after⟩
    rw [same, List.filter_filter]
    simp only [Bool.and_self]
  | endWindow =>
    obtain rfl := Option.some.inj kept
    exact ⟨rfl, h.endWindow⟩
  | mergeOnline entries =>
    obtain rfl := Option.some.inj kept
    exact ⟨rfl, h.mergeOnline entries⟩
  | discardWindow =>
    obtain rfl := Option.some.inj kept
    exact ⟨rfl, h.discardWindow⟩

/-- A call that is not about the user at all is one for another user. -/
theorem call_other (h : Alike key names names' unnamed scope scope') (now : Timestamp)
    {call : ScopeCall} (erased : call.restrict key = none) :
    Alike key names names' unnamed (scope.perform (call.operation now)) scope' := by
  cases call with
  | ofUser user call =>
    simp only [ScopeCall.restrict, ite_eq_right_iff, reduceCtorEq, imp_false] at erased
    exact h.userCall_other erased now call
  | _ => cases erased

theorem state_eq (h : Alike key names names' unnamed scope scope') :
    scope'.state key.user = scope.state key.user := by
  have sessions : scope'.connectionsOf key.user = scope.connectionsOf key.user ∧
      scope'.activeDevicesOf key.user = scope.activeDevicesOf key.user := by
    unfold connectionsOf activeDevicesOf ConnectionLimiter.connections
      ConnectionLimiter.activeDevices
    rw [key_of_name h.name_eq, key_of_name h.name_eq']
    rcases h.connections.session_cases with
      ⟨unknown, unknown'⟩ | ⟨session, session', found, found', renamed⟩
    · rw [unknown, unknown']
      exact ⟨rfl, rfl⟩
    · rw [found, found']
      exact ⟨(Session.contents_of_renamed renamed).1, Session.activeDevices_of_renamed renamed⟩
  unfold state record?
  rw [sessions.1, sessions.2, key_of_name h.name_eq, key_of_name h.name_eq', h.record_eq,
    h.traffic_eq, h.count_eq]

/-- Sessions may go by other names as long as that of the user goes by the same. -/
theorem rename (h : Alike key names names' unnamed scope scope') {names₁ names₁' : Nat → Nat}
    {unnamed₁ : Nat}
    (same : ∀ session, scope.connections.session? key = some session →
      names₁ session.id = names session.id)
    (same' : ∀ session, scope'.connections.session? key = some session →
      names₁' session.id = names' session.id)
    (fresh : ∀ number, scope.connections.nextSession ≤ number → names₁ number = unnamed₁)
    (fresh' : ∀ number, scope'.connections.nextSession ≤ number → names₁' number = unnamed₁) :
    Alike key names₁ names₁' unnamed₁ scope scope' := by
  refine { h with connections := ⟨?_, fresh, fresh'⟩ }
  rcases h.connections.session_cases with
    ⟨unknown, unknown'⟩ | ⟨session, session', found, found', renamed⟩
  · rw [unknown, unknown']
    rfl
  · have number := congrArg Session.id renamed
    obtain ⟨connections, devices⟩ := Session.contents_of_renamed renamed
    rw [found, found', Option.map_some, Option.map_some, Session.renamed, Session.renamed,
      same session found, same' session' found', connections, devices]
    exact congrArg (fun id => some { session with id }) number

end Scope.Alike

namespace Client

variable {client client' after : Client} {key : UserKey}

/-! ### Two registries in use -/

/-- What tells the leases of a user apart: the address, and the name of the session. -/
def describe (client : Client) (key : UserKey) (lease : Lease) : IpAddr × Nat :=
  (lease.ip, client.nameOf key lease.activation lease.session)

/-- Two registries in use that hold the same for a user. -/
structure Alike (key : UserKey) (client client' : Client) : Prop where
  clock_eq : client'.clock = client.clock
  scopes :
    (client.registry.active.get? key.scope = none ∧
      client'.registry.active.get? key.scope = none) ∨
    ∃ a a', client.registry.active.get? key.scope = some a ∧
      client'.registry.active.get? key.scope = some a' ∧
      Scope.Alike key (client.nameOf key a) (client'.nameOf key a') (client.sessions key).length
        (client.registry.scope a) (client'.registry.scope a')
  count_eq : (client'.sessions key).length = (client.sessions key).length
  leases_eq : (client'.held key).map (client'.describe key) =
    (client.held key).map (client.describe key)

namespace Alike

/-- Nothing happens to the user on the first side, and nothing at all on the second. -/
theorem of_spared (h : Alike key client client') (clock : after.clock = client.clock)
    (active : after.registry.active.get? key.scope = client.registry.active.get? key.scope)
    (sessions : after.sessions key = client.sessions key)
    (held : after.held key = client.held key)
    (scope : ∀ a, client.registry.active.get? key.scope = some a →
      ∀ {names names' unnamed scope'},
        Scope.Alike key names names' unnamed (client.registry.scope a) scope' →
          Scope.Alike key names names' unnamed (after.registry.scope a) scope') :
    Alike key after client' := by
  have named : after.nameOf key = client.nameOf key := by
    funext a number
    rw [nameOf, nameOf, sessions]
  have described : after.describe key = client.describe key := by
    funext lease
    rw [describe, describe, named]
  refine ⟨h.clock_eq.trans clock.symm, ?_, ?_, ?_⟩
  · rw [active, named, sessions]
    rcases h.scopes with unknown | ⟨a, a', found, found', alike⟩
    · exact Or.inl unknown
    · exact Or.inr ⟨a, a', found, found', scope a found alike⟩
  · rw [sessions, h.count_eq]
  · rw [held, described, h.leases_eq]

/-- An operation that spares the user is performed on the first side. -/
theorem operate_other (h : Alike key client client') {b : Nat} {operation : Operation}
    (spared : client.registry.active.get? key.scope = some b →
      ∀ {names names' unnamed scope'},
        Scope.Alike key names names' unnamed (client.registry.scope b) scope' →
          Scope.Alike key names names' unnamed ((client.registry.scope b).perform operation)
            scope') :
    Alike key (client.operate b operation) client' := by
  refine h.of_spared rfl rfl rfl rfl fun a found _ _ _ _ alike => ?_
  rw [scope_operate]
  split
  next same =>
    subst same
    exact spared found alike
  next => exact alike

theorem hold_other (h : Alike key client client') {other : UserKey} (differs : other ≠ key)
    (lease : Lease) : Alike key (client.hold other lease) client' :=
  h.of_spared rfl rfl (Function.update_of_ne differs.symm _ _) (Function.update_of_ne differs.symm _ _)
    fun _ _ _ _ _ _ alike => alike

theorem activate_other (h : Alike key client client') (sound : client.IsSound) {name : String}
    (differs : name ≠ key.scope) (config : ScopeConfig) :
    Alike key (client.serve (.activate name config)).2 client' := by
  refine h.of_spared rfl ?_ rfl rfl fun a found _ _ _ _ alike => ?_
  · exact (Registry.active_activate name config key.scope).trans (if_neg differs)
  · have begun := (sound.active key.scope a found).2
    have same : (client.serve (.activate name config)).2.registry.scope a =
        client.registry.scope a := Registry.scope_activate_of_lt begun name config
    rw [same]
    exact alike

theorem deactivate_other (h : Alike key client client') (sound : client.IsSound) {name : String}
    (differs : name ≠ key.scope) : Alike key (client.serve (.deactivate name)).2 client' := by
  refine h.of_spared rfl ?_ rfl rfl fun a found _ _ _ _ alike => ?_
  · exact (Registry.active_deactivate name key.scope).trans (if_neg differs)
  · have same : (client.serve (.deactivate name)).2.registry.scope a = _ :=
      Registry.scope_deactivate name a
    rw [same, if_neg]
    · exact alike
    · intro found'
      exact differs ((sound.active name a found').1.symm.trans (sound.active key.scope a found).1)

theorem onScope_other (h : Alike key client client') (sound : client.IsSound) {name : String}
    {call : ScopeCall} (erased : name = key.scope → call.restrict key = none) :
    Alike key (client.serve (.onScope name call)).2 client' := by
  cases found : client.registry.active.get? name with
  | none =>
    rw [serve_onScope_of_unknown found]
    exact h
  | some b =>
    rw [serve_onScope found]
    refine h.operate_other fun here _ _ _ _ alike => ?_
    have same : name = key.scope :=
      (sound.active name b found).1.symm.trans (sound.active key.scope b here).1
    exact alike.call_other client.clock (erased same)

theorem acquire_other (h : Alike key client client') (sound : client.IsSound) {other : UserKey}
    (differs : other ≠ key) (ip : IpAddr) :
    Alike key (client.serve (.acquire other ip)).2 client' := by
  cases found : client.registry.active.get? other.scope with
  | none =>
    rw [serve_acquire_of_unknown found]
    exact h
  | some b =>
    have moved : Alike key (client.operate b (.connect other.user ip)) client' := by
      refine h.operate_other fun here _ _ _ _ alike => ?_
      have same : other.scope = key.scope :=
        (sound.active other.scope b found).1.symm.trans (sound.active key.scope b here).1
      exact alike.connect_other (UserKey.user_ne differs same) ip
    rw [serve_acquire found]
    dsimp only
    split
    · exact moved
    · exact moved
    · exact moved.hold_other differs _

theorem drop_other (h : Alike key client client') (sound : client.IsSound) {other : UserKey}
    (differs : other ≠ key) (index : Nat) :
    Alike key (client.serve (.drop other index)).2 client' := by
  cases held : (client.held other)[index]? with
  | none =>
    rw [serve_drop_of_none held]
    exact h
  | some lease =>
    obtain ⟨user, named, -⟩ := sound.held other lease (List.mem_of_getElem? held)
    have moved : Alike key (client.operate lease.activation
        (.release lease.user lease.ip (some lease.session))) client' := by
      refine h.operate_other fun here _ _ _ _ alike => ?_
      have same : other.scope = key.scope := named.symm.trans (sound.active key.scope _ here).1
      rw [user]
      exact alike.release_other (UserKey.user_ne differs same) lease.ip _
    rw [serve_drop held]
    exact moved.of_spared rfl rfl rfl (Function.update_of_ne differs.symm _ _)
      fun _ _ _ _ _ _ alike => alike

/-- A request that is not about the user leaves the two alike where the first side has it and the
second has not. -/
theorem serve_other (h : Alike key client client') (sound : client.IsSound) {request : Request}
    (erased : request.restrict key = none) : Alike key (client.serve request).2 client' := by
  cases request with
  | activate name config =>
    simp only [Request.restrict, ite_eq_right_iff, reduceCtorEq, imp_false] at erased
    exact h.activate_other sound erased config
  | deactivate name =>
    simp only [Request.restrict, ite_eq_right_iff, reduceCtorEq, imp_false] at erased
    exact h.deactivate_other sound erased
  | onScope name call =>
    simp only [Request.restrict, ite_eq_right_iff, Option.map_eq_none_iff] at erased
    exact h.onScope_other sound erased
  | acquire other ip =>
    simp only [Request.restrict, ite_eq_right_iff, reduceCtorEq, imp_false] at erased
    exact h.acquire_other sound erased ip
  | drop other index =>
    simp only [Request.restrict, ite_eq_right_iff, reduceCtorEq, imp_false] at erased
    exact h.drop_other sound erased index
  | inspect other =>
    cases found : client.registry.active.get? other.scope with
    | none =>
      rw [serve_inspect_of_unknown found]
      exact h
    | some a =>
      rw [serve_inspect found]
      exact h
  | setClock now => cases erased

end Alike

namespace Alike

variable {a a' : Nat}

/-- What was performed on both sides keeps the scopes alike. -/
theorem operate (h : Alike key client client') {operation operation' : Operation}
    (found : client.registry.active.get? key.scope = some a)
    (found' : client'.registry.active.get? key.scope = some a')
    (alike : Scope.Alike key (client.nameOf key a) (client'.nameOf key a')
      (client.sessions key).length ((client.registry.scope a).perform operation)
      ((client'.registry.scope a').perform operation')) :
    Alike key (client.operate a operation) (client'.operate a' operation') := by
  refine ⟨h.clock_eq, Or.inr ⟨a, a', found, found', ?_⟩, h.count_eq, h.leases_eq⟩
  rw [scope_operate, scope_operate, if_pos rfl, if_pos rfl]
  exact alike

/-- The two sides agree on the activation of the user's scope. -/
theorem activate (h : Alike key client client') (sound : client.IsSound) (sound' : client'.IsSound)
    (config : ScopeConfig) :
    (client'.serve (.activate key.scope config)).1 = (client.serve (.activate key.scope config)).1 ∧
      Alike key (client.serve (.activate key.scope config)).2
        (client'.serve (.activate key.scope config)).2 := by
  rw [serve_activate, serve_activate]
  rcases h.scopes with ⟨unknown, unknown'⟩ | ⟨a, a', found, found', -⟩
  · rw [Registry.activate_of_unknown unknown, Registry.activate_of_unknown unknown']
    refine ⟨rfl, h.clock_eq, Or.inr ⟨client.registry.nextActivation, client'.registry.nextActivation,
      Table.get?_insert_self _ _ _, Table.get?_insert_self _ _ _, ?_⟩, h.count_eq, h.leases_eq⟩
    have placed := @Registry.scope_setScope client.registry client.registry.nextActivation
      client.registry.nextActivation (Scope.activate key.scope config)
    have placed' := @Registry.scope_setScope client'.registry client'.registry.nextActivation
      client'.registry.nextActivation (Scope.activate key.scope config)
    rw [if_pos rfl] at placed placed'
    have unnamed (number : Nat) : client.nameOf key client.registry.nextActivation number =
        (client.sessions key).length :=
      sound.nameOf_fresh fun begun => absurd begun (Nat.lt_irrefl _)
    have unnamed' (number : Nat) : client'.nameOf key client'.registry.nextActivation number =
        (client.sessions key).length := by
      rw [← h.count_eq]
      exact sound'.nameOf_fresh fun begun => absurd begun (Nat.lt_irrefl _)
    refine Eq.mpr (congrArg₂ (Scope.Alike key _ _ _) placed placed') ?_
    exact ⟨rfl, rfl, rfl, rfl, rfl, rfl, ⟨rfl, fun number _ => unnamed number,
      fun number _ => unnamed' number⟩, rfl, rfl, rfl⟩
  · rw [Registry.activate_of_known found, Registry.activate_of_known found']
    exact ⟨rfl, h⟩

theorem deactivate (h : Alike key client client') :
    (client'.serve (.deactivate key.scope)).1 = (client.serve (.deactivate key.scope)).1 ∧
      Alike key (client.serve (.deactivate key.scope)).2
        (client'.serve (.deactivate key.scope)).2 := by
  have freed := @Registry.active_deactivate client.registry key.scope key.scope
  have freed' := @Registry.active_deactivate client'.registry key.scope key.scope
  rw [if_pos rfl] at freed freed'
  refine ⟨?_, h.clock_eq, Or.inl ⟨freed, freed'⟩, h.count_eq, h.leases_eq⟩
  rw [serve_deactivate, serve_deactivate]
  unfold Registry.deactivate
  rcases h.scopes with ⟨unknown, unknown'⟩ | ⟨a, a', found, found', -⟩
  · rw [Registry.find_of_unknown unknown, Registry.find_of_unknown unknown']
  · rw [Registry.find_eq_ok_iff.2 found, Registry.find_eq_ok_iff.2 found']

/-- A call on the user's scope is answered alike, and what of it is about the user keeps the two
sides alike. -/
theorem onScope (h : Alike key client client') (sound : client.IsSound) {call call' : ScopeCall}
    (kept : call.restrict key = some call') :
    (client'.serve (.onScope key.scope call')).1.seenBy key =
        (client.serve (.onScope key.scope call)).1.seenBy key ∧
      Alike key (client.serve (.onScope key.scope call)).2
        (client'.serve (.onScope key.scope call')).2 := by
  rcases h.scopes with ⟨unknown, unknown'⟩ | ⟨a, a', found, found', alike⟩
  · rw [serve_onScope_of_unknown unknown, serve_onScope_of_unknown unknown']
    exact ⟨rfl, h⟩
  · obtain ⟨same, after⟩ := alike.call (sound.scopes a).1 client.clock kept
    rw [serve_onScope found, serve_onScope found', h.clock_eq]
    exact ⟨same, h.operate found found' after⟩

theorem inspect (h : Alike key client client') :
    (client'.serve (.inspect key)).1 = (client.serve (.inspect key)).1 ∧
      Alike key (client.serve (.inspect key)).2 (client'.serve (.inspect key)).2 := by
  rcases h.scopes with ⟨unknown, unknown'⟩ | ⟨a, a', found, found', alike⟩
  · rw [serve_inspect_of_unknown unknown, serve_inspect_of_unknown unknown']
    exact ⟨rfl, h⟩
  · rw [serve_inspect found, serve_inspect found']
    exact ⟨congrArg Reply.state alike.state_eq, h⟩

theorem name_eq_of_describe {lease lease' : Lease}
    (same : client'.describe key lease' = client.describe key lease) :
    lease'.ip = lease.ip ∧ client'.nameOf key lease'.activation lease'.session =
      client.nameOf key lease.activation lease.session :=
  Prod.mk.inj same

/-- A session of one name was granted before on both sides or on neither. -/
theorem granted_iff (h : Alike key client client') {lease lease' : Lease}
    (same : client'.describe key lease' = client.describe key lease) :
    (lease'.activation, lease'.session) ∈ client'.sessions key ↔
      (lease.activation, lease.session) ∈ client.sessions key := by
  have name := (name_eq_of_describe same).2
  unfold nameOf at name
  rw [← List.idxOf_lt_length_iff, ← List.idxOf_lt_length_iff, name, h.count_eq]

/-- Both sides hold a lease of the session that the user has now. -/
theorem hold (h : Alike key client client') {lease lease' : Lease} (sound : client.IsSound)
    (sound' : client'.IsSound) (later : (client.hold key lease).IsSound)
    (later' : (client'.hold key lease').IsSound)
    (current : ∀ a, client.registry.active.get? key.scope = some a →
      client.IsCurrent key a lease)
    (current' : ∀ a, client'.registry.active.get? key.scope = some a →
      client'.IsCurrent key a lease')
    (same : client'.describe key lease' = client.describe key lease) :
    Alike key (client.hold key lease) (client'.hold key lease') := by
  have count_eq : ((client'.hold key lease').sessions key).length =
      ((client.hold key lease).sessions key).length := by
    have granted := h.granted_iff same
    rw [sessions_hold, sessions_hold]
    by_cases known : (lease.activation, lease.session) ∈ client.sessions key
    · rw [if_neg fun fresh => fresh.2 (granted.2 known), if_neg fun fresh => fresh.2 known,
        h.count_eq]
    · rw [if_pos ⟨rfl, fun known' => known (granted.1 known')⟩, if_pos ⟨rfl, known⟩,
        List.length_append, List.length_append, h.count_eq]
      rfl
  refine ⟨h.clock_eq, ?_, count_eq, ?_⟩
  · rcases h.scopes with unknown | ⟨a, a', found, found', alike⟩
    · exact Or.inl unknown
    · obtain ⟨own, here, this⟩ := current a found
      obtain ⟨own', here', this'⟩ := current' a' found'
      refine Or.inr ⟨a, a', found, found', alike.rename ?_ ?_ ?_ ?_⟩
      · intro session known
        obtain rfl := Option.some.inj (here.symm.trans known)
        exact nameOf_hold (Or.inr this)
      · intro session known
        obtain rfl := Option.some.inj (here'.symm.trans known)
        exact nameOf_hold (Or.inr this')
      · exact fun number fresh => later.nameOf_fresh fun _ => fresh
      · rw [← count_eq]
        exact fun number fresh => later'.nameOf_fresh fun _ => fresh
  · have kept : (client.held key).map ((client.hold key lease).describe key) =
        (client.held key).map (client.describe key) := by
      refine List.map_congr_left fun l member => congrArg (Prod.mk l.ip) ?_
      exact nameOf_hold (Or.inl (sound.held key l member).2.2)
    have kept' : (client'.held key).map ((client'.hold key lease').describe key) =
        (client'.held key).map (client'.describe key) := by
      refine List.map_congr_left fun l member => congrArg (Prod.mk l.ip) ?_
      exact nameOf_hold (Or.inl (sound'.held key l member).2.2)
    have last : (client.hold key lease).describe key lease = client.describe key lease :=
      congrArg (Prod.mk lease.ip) (nameOf_hold_self client key lease)
    have last' : (client'.hold key lease').describe key lease' = client'.describe key lease' :=
      congrArg (Prod.mk lease'.ip) (nameOf_hold_self client' key lease')
    have held : (client.hold key lease).held key = client.held key ++ [lease] :=
      Function.update_self _ _ _
    have held' : (client'.hold key lease').held key = client'.held key ++ [lease'] :=
      Function.update_self _ _ _
    rw [held, held', List.map_append, List.map_append, kept, kept', h.leases_eq, List.map_singleton,
      List.map_singleton, last, last', same]

/-- Answers that agree up to names are refusals for one reason, or they grant a session of one name.
-/
theorem admission_cases {names names' : Nat → Nat}
    {result result' : Except Error (Except Refusal Nat)}
    (same : result'.map (·.map names') = result.map (·.map names)) :
    (∃ e, result = .error e ∧ result' = .error e) ∨
      (∃ refusal, result = .ok (.error refusal) ∧ result' = .ok (.error refusal)) ∨
        ∃ number number', result = .ok (.ok number) ∧ result' = .ok (.ok number') ∧
          names' number' = names number := by
  rcases result with e | refusal | number
  · rcases result' with e' | refusal' | number' <;> cases same
    exact Or.inl ⟨e, rfl, rfl⟩
  · rcases result' with e' | refusal' | number' <;> cases same
    exact Or.inr (Or.inl ⟨refusal, rfl, rfl⟩)
  · rcases result' with e' | refusal' | number'
    · cases same
    · cases same
    · refine Or.inr (Or.inr ⟨number, number', rfl, rfl, ?_⟩)
      exact Except.ok.inj (Except.ok.inj same)

/-- The user is granted a lease of the session of one name on both sides, or none on either. -/
theorem acquire (h : Alike key client client') (sound : client.IsSound) (sound' : client'.IsSound)
    (ip : IpAddr) :
    (client'.serve (.acquire key ip)).1 = (client.serve (.acquire key ip)).1 ∧
      Alike key (client.serve (.acquire key ip)).2 (client'.serve (.acquire key ip)).2 := by
  rcases h.scopes with ⟨unknown, unknown'⟩ | ⟨a, a', found, found', alike⟩
  · rw [serve_acquire_of_unknown unknown, serve_acquire_of_unknown unknown']
    exact ⟨rfl, h⟩
  · obtain ⟨same, after⟩ := alike.connect ip
    have moved : Alike key (client.operate a (.connect key.user ip))
        (client'.operate a' (.connect key.user ip)) := h.operate found found' after
    have later := sound.serve (.acquire key ip)
    have later' := sound'.serve (.acquire key ip)
    rw [serve_acquire found] at later ⊢
    rw [serve_acquire found'] at later' ⊢
    dsimp only at later later' ⊢
    rcases admission_cases same with
      ⟨e, refused, refused'⟩ | ⟨refusal, refused, refused'⟩ |
        ⟨number, number', granted, granted', name⟩
    · rw [refused, refused']
      exact ⟨rfl, moved⟩
    · rw [refused, refused']
      exact ⟨rfl, moved⟩
    · rw [granted] at later ⊢
      rw [granted'] at later' ⊢
      dsimp only at later later' ⊢
      have current := isCurrent_of_granted (sound.active key.scope a found).1 granted
      have current' := isCurrent_of_granted (sound'.active key.scope a' found').1 granted'
      refine ⟨congrArg (fun name => Reply.granted (some name)) ?_,
        moved.hold (sound.operate a _) (sound'.operate a' _) later later' ?_ ?_
          (congrArg (Prod.mk ip) name)⟩
      · have kept := nameOf_hold_self (client.operate a (.connect key.user ip)) key
          ⟨a, key.user, ip, number⟩
        have kept' := nameOf_hold_self (client'.operate a' (.connect key.user ip)) key
          ⟨a', key.user, ip, number'⟩
        exact kept'.trans (name.trans kept.symm)
      · intro b here
        obtain rfl := Option.some.inj (found.symm.trans here)
        exact current
      · intro b here
        obtain rfl := Option.some.inj (found'.symm.trans here)
        exact current'

/-- A lease is of the session that the user has on both sides or on neither. -/
theorem isCurrent_congr (sound : client.IsSound) (sound' : client'.IsSound) {lease lease' : Lease}
    (held : lease ∈ client.held key) (held' : lease' ∈ client'.held key)
    (same : client'.describe key lease' = client.describe key lease)
    (alike : Scope.Alike key (client.nameOf key a) (client'.nameOf key a')
      (client.sessions key).length (client.registry.scope a) (client'.registry.scope a')) :
    client'.IsCurrent key a' lease' ↔ client.IsCurrent key a lease := by
  rw [isCurrent_iff sound held, isCurrent_iff sound' held', (name_eq_of_describe same).2]
  rcases alike.connections.session_cases with
    ⟨unknown, unknown'⟩ | ⟨session, session', found, found', renamed⟩
  · rw [unknown, unknown']
    simp
  · have number : client'.nameOf key a' session'.id = client.nameOf key a session.id :=
      congrArg Session.id renamed
    rw [found, found']
    simp [number]

/-- To drop leases of one description closes a connection on both sides or on neither. -/
theorem scope_drop (sound : client.IsSound) (sound' : client'.IsSound) {lease lease' : Lease}
    (held : lease ∈ client.held key) (held' : lease' ∈ client'.held key)
    (same : client'.describe key lease' = client.describe key lease)
    (alike : Scope.Alike key (client.nameOf key a) (client'.nameOf key a')
      (client.sessions key).length (client.registry.scope a) (client'.registry.scope a')) :
    Scope.Alike key (client.nameOf key a) (client'.nameOf key a') (client.sessions key).length
      ((client.registry.drop lease).scope a) ((client'.registry.drop lease').scope a') := by
  have congr := isCurrent_congr sound sound' held held' same alike
  have dropped : (client.registry.drop lease).scope a = _ :=
    scope_operate lease.activation a (.release lease.user lease.ip (some lease.session))
  have dropped' : (client'.registry.drop lease').scope a' = _ :=
    scope_operate lease'.activation a' (.release lease'.user lease'.ip (some lease'.session))
  by_cases current : client.IsCurrent key a lease
  · obtain ⟨session', found', this'⟩ := congr.2 current
    obtain ⟨session, found, this⟩ := current
    obtain ⟨rfl, number⟩ := Prod.mk.inj this
    obtain ⟨rfl, number'⟩ := Prod.mk.inj this'
    rw [dropped, dropped', if_pos rfl, if_pos rfl, (sound.held key lease held).1,
      (sound'.held key lease' held').1, (name_eq_of_describe same).1]
    refine alike.release lease.ip fun s s' known known' => ?_
    obtain rfl := Option.some.inj (found.symm.trans known)
    obtain rfl := Option.some.inj (found'.symm.trans known')
    simp [number, number']
  · have ended := scope_drop_of_ended sound held alike.name_eq current
    have ended' := scope_drop_of_ended sound' held' alike.name_eq' fun current' =>
      current (congr.1 current')
    rw [scope_operate] at ended ended'
    rw [dropped, dropped', ended, ended']
    exact alike

/-- The user drops the lease at one place on both sides. -/
theorem drop (h : Alike key client client') (sound : client.IsSound) (sound' : client'.IsSound)
    (index : Nat) :
    (client'.serve (.drop key index)).1 = (client.serve (.drop key index)).1 ∧
      Alike key (client.serve (.drop key index)).2 (client'.serve (.drop key index)).2 := by
  have place : (client'.held key)[index]?.map (client'.describe key) =
      (client.held key)[index]?.map (client.describe key) := by
    rw [← List.getElem?_map, ← List.getElem?_map, h.leases_eq]
  cases held : (client.held key)[index]? with
  | none =>
    rw [held] at place
    rw [serve_drop_of_none held, serve_drop_of_none (Option.map_eq_none_iff.1 place)]
    exact ⟨rfl, h⟩
  | some lease =>
    rw [held] at place
    obtain ⟨lease', held', same⟩ := Option.map_eq_some_iff.1 place
    have member := List.mem_of_getElem? held
    have member' := List.mem_of_getElem? held'
    rw [serve_drop held, serve_drop held']
    refine ⟨rfl, h.clock_eq, ?_, h.count_eq, ?_⟩
    · rcases h.scopes with unknown | ⟨a, a', found, found', alike⟩
      · exact Or.inl unknown
      · exact Or.inr ⟨a, a', found, found', scope_drop sound sound' member member' same alike⟩
    · show (Function.update client'.held key _ key).map (client'.describe key) =
        (Function.update client.held key _ key).map (client.describe key)
      rw [Function.update_self, Function.update_self, ← List.eraseIdx_map, ← List.eraseIdx_map,
        h.leases_eq]

/-- A request, and what of it is about the user, are answered alike and leave the two alike. -/
theorem serve (h : Alike key client client') (sound : client.IsSound) (sound' : client'.IsSound)
    {request request' : Request} (kept : request.restrict key = some request') :
    (client'.serve request').1.seenBy key = (client.serve request).1.seenBy key ∧
      Alike key (client.serve request).2 (client'.serve request').2 := by
  cases request with
  | activate name config =>
    simp only [Request.restrict, Option.ite_none_right_eq_some, Option.some.injEq] at kept
    obtain ⟨rfl, rfl⟩ := kept
    obtain ⟨same, after⟩ := h.activate sound sound' config
    exact ⟨congrArg (Reply.seenBy key) same, after⟩
  | deactivate name =>
    simp only [Request.restrict, Option.ite_none_right_eq_some, Option.some.injEq] at kept
    obtain ⟨rfl, rfl⟩ := kept
    obtain ⟨same, after⟩ := h.deactivate
    exact ⟨congrArg (Reply.seenBy key) same, after⟩
  | onScope name call =>
    simp only [Request.restrict, Option.ite_none_right_eq_some, Option.map_eq_some_iff] at kept
    obtain ⟨rfl, call', kept, rfl⟩ := kept
    exact h.onScope sound kept
  | acquire other ip =>
    simp only [Request.restrict, Option.ite_none_right_eq_some, Option.some.injEq] at kept
    obtain ⟨rfl, rfl⟩ := kept
    obtain ⟨same, after⟩ := h.acquire sound sound' ip
    exact ⟨congrArg (Reply.seenBy other) same, after⟩
  | drop other index =>
    simp only [Request.restrict, Option.ite_none_right_eq_some, Option.some.injEq] at kept
    obtain ⟨rfl, rfl⟩ := kept
    obtain ⟨same, after⟩ := h.drop sound sound' index
    exact ⟨congrArg (Reply.seenBy other) same, after⟩
  | inspect other =>
    simp only [Request.restrict, Option.ite_none_right_eq_some, Option.some.injEq] at kept
    obtain ⟨rfl, rfl⟩ := kept
    obtain ⟨same, after⟩ := h.inspect
    exact ⟨congrArg (Reply.seenBy other) same, after⟩
  | setClock now =>
    obtain rfl := Option.some.inj kept
    exact ⟨rfl, rfl, h.scopes, h.count_eq, h.leases_eq⟩

/-- What is left of a run for the user gets the answers that the whole run gives to the user. -/
theorem replies_eq (h : Alike key client client') (sound : client.IsSound)
    (sound' : client'.IsSound) (requests : List Request) :
    client.repliesFor key requests =
      (client'.replies (requests.filterMap (·.restrict key))).map (·.seenBy key) := by
  induction requests generalizing client client' with
  | nil => rfl
  | cons request rest ih =>
    rw [repliesFor]
    cases kept : request.restrict key with
    | none =>
      rw [List.filterMap_cons_none kept]
      exact ih (h.serve_other sound kept) (sound.serve request) sound'
    | some request' =>
      obtain ⟨same, after⟩ := h.serve sound sound' kept
      rw [List.filterMap_cons_some kept, replies, List.map_cons, same,
        if_pos Option.isSome_some,
        ih after (sound.serve request) (sound'.serve request')]

end Alike

theorem alike_empty (key : UserKey) : Alike key {} {} :=
  ⟨rfl, Or.inl ⟨rfl, rfl⟩, rfl, rfl⟩

end Client

/-- Users and scopes do not interfere: leave out of a sequence of requests what concerns other
scopes and other users, of roster changes, of the word of other nodes and of traffic the entries of
others too, and all that is answered about the user that is left stays the same. -/
theorem users_do_not_interfere (requests : List Request) (key : UserKey) :
    ({} : Client).repliesFor key requests =
      (({} : Client).replies (requests.filterMap (·.restrict key))).map (·.seenBy key) :=
  (Client.alike_empty key).replies_eq Client.isSound_empty Client.isSound_empty requests

/-- The second session of a scope is the first one of its user. -/
example : ({} : Client).repliesFor ⟨"a", 7⟩
    [.activate "a" {}, .acquire ⟨"a", 8⟩ (.v4 1), .acquire ⟨"a", 7⟩ (.v4 2), .drop ⟨"a", 7⟩ 0] =
      [.done, .granted (some 0), .done] := rfl

end Tollgate
