import Mathlib.Data.List.Basic
import Mathlib.Logic.Function.Basic
import Tollgate.Proofs.Devices
import Tollgate.Proofs.Steps
import Tollgate.Proofs.UserAlike

/-!
# Registries in use

Whoever uses a registry sends it requests, about scopes and about single users, gets answers, and
holds the leases that it hands out. What of a request or of an answer is about one user is the same
request or answer without the entries of others, or nothing.

Sessions go by names here. The number of a session tells how many sessions its scope began before,
of whichever users; its name tells which of the sessions it is that its user was granted leases of.
-/

namespace Tollgate

/-- What can be done for one user of a scope. -/
inductive UserCall where
  | connect (ip : IpAddr)
  | release (ip : IpAddr)
  | getBucket
  | effectiveCap
  | reportTraffic (traffic : Traffic)

/-- What can be done with an active scope. -/
inductive ScopeCall where
  | ofUser (user : UInt64) (call : UserCall)
  | applyRosterDiff (diff : RosterDiff)
  | replaceRules (rules : RuleSet)
  | setLimits (limits : NodeLimits)
  | setDynamicLimit (config : Option DynamicLimit)
  | drainTraffic
  | creditTraffic (entries : List TrafficEntry)
  | escalate (entries : List TrafficEntry)
  | endWindow
  | mergeOnline (entries : List UserIps)
  | discardWindow

/-- What a registry is asked to do. Leases go by their places among those that are held of a user. -/
inductive Request where
  | activate (name : String) (config : ScopeConfig)
  | deactivate (name : String)
  | onScope (name : String) (call : ScopeCall)
  | acquire (key : UserKey) (ip : IpAddr)
  | drop (key : UserKey) (index : Nat)
  | inspect (key : UserKey)
  | setClock (now : Timestamp)

/-- All that a scope shows of a user. -/
structure UserState where
  record : Option LimitRecord
  connections : Nat
  activeDevices : Nat
  traffic : Traffic
  count : UInt64

/-- What a registry answers. A bucket shows its cap and how full it is, and no bucket is no limit. -/
inductive Reply where
  | done
  | refused (e : Error)
  | admission (refusal : Option Refusal)
  | granted (session : Option Nat)
  | bucket (bucket : Option TokenBucket)
  | cap (cap : UInt64)
  | changed (isChanged : Bool)
  | drained (entries : List TrafficEntry)
  | escalated (users : List UInt64)
  | state (state : UserState)

/-! ### What one user is left with -/

/-- What of a call is about one user. -/
def ScopeCall.restrict (key : UserKey) : ScopeCall → Option ScopeCall
  | .ofUser user call => if user = key.user then some (.ofUser user call) else none
  | .applyRosterDiff diff => some (.applyRosterDiff (diff.restrict key.user))
  | .creditTraffic entries => some (.creditTraffic (entries.filter (·.1 = key)))
  | .escalate entries => some (.escalate (entries.filter (·.1 = key)))
  | .mergeOnline entries => some (.mergeOnline (entries.filter (·.userId = key.user)))
  | call => some call

/-- What of a request is about one user. -/
def Request.restrict (key : UserKey) : Request → Option Request
  | .activate name config => if name = key.scope then some (.activate name config) else none
  | .deactivate name => if name = key.scope then some (.deactivate name) else none
  | .onScope name call =>
    if name = key.scope then (call.restrict key).map (.onScope name) else none
  | .acquire key' ip => if key' = key then some (.acquire key' ip) else none
  | .drop key' index => if key' = key then some (.drop key' index) else none
  | .inspect key' => if key' = key then some (.inspect key') else none
  | .setClock now => some (.setClock now)

/-- What of an answer is about one user. -/
def Reply.seenBy (key : UserKey) : Reply → Reply
  | .drained entries => .drained (entries.filter (·.1 = key))
  | .escalated users => .escalated (users.filter (· = key.user))
  | reply => reply

/-! ### A registry in use -/

/-- The operation on the state of a scope that a call for a user is. -/
def UserCall.operation (user : UInt64) (now : Timestamp) : UserCall → Operation
  | .connect ip => .connect user ip
  | .release ip => .release user ip none
  | .getBucket => .getBucket user now
  | .effectiveCap => .effectiveCap user now
  | .reportTraffic traffic => .reportTraffic user traffic

/-- The operation on the state of a scope that a call is. -/
def ScopeCall.operation (now : Timestamp) : ScopeCall → Operation
  | .ofUser user call => call.operation user now
  | .applyRosterDiff diff => .applyRosterDiff diff
  | .replaceRules rules => .replaceRules rules
  | .setLimits limits => .setLimits limits
  | .setDynamicLimit config => .setDynamicLimit config
  | .drainTraffic => .drainTraffic
  | .creditTraffic entries => .creditTraffic entries
  | .escalate entries => .escalate now entries
  | .endWindow => .endWindow
  | .mergeOnline entries => .mergeOnline entries
  | .discardWindow => .discardWindow

/-- The answer that says whether something was done. -/
def Reply.ofResult {α : Type} : Except Error α → Reply
  | .error e => .refused e
  | .ok _ => .done

/-- The answer to who asks for a connection without a lease; it does not tell the session. -/
def Reply.ofAdmission : Except Error (Except Refusal Nat) → Reply
  | .error e => .refused e
  | .ok (.error refusal) => .admission (some refusal)
  | .ok (.ok _) => .admission none

namespace Scope

/-- What a scope answers to a call for a user. -/
def replyToUser (scope : Scope) (user : UInt64) (now : Timestamp) : UserCall → Reply
  | .connect ip => .ofAdmission (scope.connect user ip).1
  | .getBucket => .bucket ((scope.getBucket user now).1.map (·.bucket))
  | .effectiveCap => .cap (scope.effectiveCap user now).1
  | .release _ | .reportTraffic _ => .done

/-- What a scope answers to a call. -/
def reply (scope : Scope) (now : Timestamp) : ScopeCall → Reply
  | .ofUser user call => scope.replyToUser user now call
  | .applyRosterDiff diff => .ofResult (scope.applyRosterDiff diff).1
  | .setLimits limits => .changed (scope.setLimits limits).1
  | .drainTraffic => .drained scope.drainTraffic.1
  | .escalate entries => .escalated (scope.escalate now entries).1
  | _ => .done

/-- All that a scope shows of a user. -/
def state (scope : Scope) (user : UInt64) : UserState where
  record := scope.record? user
  connections := scope.connectionsOf user
  activeDevices := scope.activeDevicesOf user
  traffic := scope.ledger.pending (scope.key user)
  count := scope.escalator.pending (scope.key user)

end Scope

/-- A registry, the clock, the leases that are held of each user, and the sessions that each user was
ever granted a lease of, by activation and number. -/
structure Client where
  registry : Registry := {}
  clock : Timestamp := default
  held : UserKey → List Lease := fun _ => []
  sessions : UserKey → List (Nat × Nat) := fun _ => []

namespace Client

variable (client : Client) (key : UserKey)

/-- The name of a session, by the sessions that a user was granted leases of. A session that it was
not granted a lease of yet has the name of the next one. -/
def nameOf (activation session : Nat) : Nat := (client.sessions key).idxOf (activation, session)

/-- Performs an operation on an activation. -/
def operate (a : Nat) (operation : Operation) : Client :=
  { client with registry := client.registry.modify a (·.perform operation) }

/-- Holds a lease of a user. -/
def hold (lease : Lease) : Client :=
  let session := (lease.activation, lease.session)
  { client with
    held := Function.update client.held key (client.held key ++ [lease])
    sessions := Function.update client.sessions key
      (if (client.sessions key).contains session then client.sessions key
        else client.sessions key ++ [session]) }

/-- Does what is asked for and answers. -/
def serve : Request → Reply × Client
  | .activate name config =>
    let (result, registry) := client.registry.activate name config
    (.ofResult result, { client with registry })
  | .deactivate name =>
    let (result, registry) := client.registry.deactivate name
    (.ofResult result, { client with registry })
  | .onScope name call =>
    match client.registry.find name with
    | .error e => (.refused e, client)
    | .ok a =>
      ((client.registry.scope a).reply client.clock call,
        client.operate a (call.operation client.clock))
  | .acquire key ip =>
    match client.registry.find key.scope with
    | .error e => (.refused e, client)
    | .ok a =>
      let (result, registry) := client.registry.acquire a key.user ip
      let client := { client with registry }
      match result with
      | .error e => (.refused e, client)
      | .ok none => (.granted none, client)
      | .ok (some lease) =>
        let client := client.hold key lease
        (.granted (some (client.nameOf key lease.activation lease.session)), client)
  | .drop key index =>
    match (client.held key)[index]? with
    | none => (.done, client)
    | some lease =>
      (.done, { client with
        registry := client.registry.drop lease
        held := Function.update client.held key ((client.held key).eraseIdx index) })
  | .inspect key =>
    match client.registry.find key.scope with
    | .error e => (.refused e, client)
    | .ok a => (.state ((client.registry.scope a).state key.user), client)
  | .setClock now => (.done, { client with clock := now })

/-- The answers to a sequence of requests. -/
def replies : Client → List Request → List Reply
  | _, [] => []
  | client, request :: rest => (client.serve request).1 :: replies (client.serve request).2 rest

/-- The answers about one user to a sequence of requests. -/
def repliesFor (key : UserKey) : Client → List Request → List Reply
  | _, [] => []
  | client, request :: rest =>
    let later := repliesFor key (client.serve request).2 rest
    if (request.restrict key).isSome then (client.serve request).1.seenBy key :: later else later

end Client

/-! ### Registries in use -/

namespace Scope

/-- The numbers of all sessions were given. -/
def SessionsBegun (scope : Scope) : Prop :=
  ∀ key session, scope.connections.session? key = some session →
    session.id < scope.connections.nextSession

variable {scope : Scope}

theorem SessionsBegun.perform (h : scope.SessionsBegun) (operation : Operation) :
    (scope.perform operation).SessionsBegun := by
  intro key session found
  have numbers := @keepsNumbers_perform scope operation
  have le := numbers.nextSession_le
  rcases numbers.id_cases key session found with ⟨old, known, same⟩ | ⟨-, begun⟩
  · have begun := h key old known
    omega
  · exact begun

/-- A connection that is granted is one of the session that the user has then. -/
theorem session_of_granted {user : UInt64} {ip : IpAddr} {number : Nat}
    (granted : (scope.connect user ip).1 = .ok (.ok number)) :
    ∃ session, (scope.connect user ip).2.connections.session? (scope.key user) = some session ∧
      session.id = number := by
  cases isOpen : scope.isOpen with
  | false =>
    rw [connect_of_closed isOpen] at granted
    cases granted
  | true =>
    rw [connect_of_open isOpen] at granted ⊢
    split at granted
    · cases granted
    · cases granted
      refine ⟨_, (ConnectionLimiter.session?_admitted ip _).trans (if_pos rfl), rfl⟩

end Scope

namespace Client

/-- What holds of a registry in use. -/
structure IsSound (client : Client) : Prop where
  active : ∀ name a, client.registry.active.get? name = some a →
    (client.registry.scope a).name = name ∧ a < client.registry.nextActivation
  scopes : ∀ a, (client.registry.scope a).RecordsOwn ∧ (client.registry.scope a).SessionsBegun
  sessions : ∀ key a number, (a, number) ∈ client.sessions key →
    a < client.registry.nextActivation ∧
      number < (client.registry.scope a).connections.nextSession
  held : ∀ key lease, lease ∈ client.held key →
    lease.user = key.user ∧ (client.registry.scope lease.activation).name = key.scope ∧
      (lease.activation, lease.session) ∈ client.sessions key

variable {client client' after : Client} {key : UserKey}

theorem isSound_empty : IsSound {} where
  active _ _ found := by cases found
  scopes _ := ⟨fun _ _ => rfl, fun _ _ found => by cases found⟩
  sessions _ _ _ member := by cases member
  held _ _ member := by cases member

/-- Scopes go on, and names become free. -/
theorem IsSound.of_evolves (h : client.IsSound)
    (scopes : ∀ a, Scope.Evolves (fun _ => True) (client.registry.scope a) (after.registry.scope a))
    (next : after.registry.nextActivation = client.registry.nextActivation)
    (active : ∀ name a, after.registry.active.get? name = some a →
      client.registry.active.get? name = some a)
    (sessions : after.sessions = client.sessions)
    (held : ∀ key lease, lease ∈ after.held key → lease ∈ client.held key) : after.IsSound := by
  have named (a : Nat) : (after.registry.scope a).name = (client.registry.scope a).name := by
    obtain ⟨operations, same, -⟩ := scopes a
    rw [same, Scope.name_performAll]
  have later (a : Nat) : (client.registry.scope a).connections.nextSession ≤
      (after.registry.scope a).connections.nextSession := by
    obtain ⟨operations, same, -⟩ := scopes a
    rw [same]
    exact Scope.performAll_induction
      (motive := fun s => _ ≤ s.connections.nextSession) (Nat.le_refl _)
      fun _ operation _ le => Nat.le_trans le (Scope.keepsNumbers_perform operation).nextSession_le
  refine ⟨fun name a found => ?_, fun a => ?_, fun key a number member => ?_,
    fun key lease member => ?_⟩
  · rw [named, next]
    exact h.active name a (active name a found)
  · obtain ⟨operations, same, -⟩ := scopes a
    rw [same]
    exact Scope.performAll_induction (motive := fun s => s.RecordsOwn ∧ s.SessionsBegun)
      (h.scopes a) fun _ operation _ sound => ⟨sound.1.perform operation, sound.2.perform operation⟩
  · rw [sessions] at member
    obtain ⟨begun, given⟩ := h.sessions key a number member
    rw [next]
    exact ⟨begun, Nat.lt_of_lt_of_le given (later a)⟩
  · rw [named, sessions]
    exact h.held key lease (held key lease member)

theorem IsSound.operate (h : client.IsSound) (a : Nat) (operation : Operation) :
    (client.operate a operation).IsSound := by
  have evolves := @Registry.evolves_modify (fun _ _ => True) client.registry a operation trivial
  exact h.of_evolves evolves.scope rfl (fun _ _ found => found) rfl fun _ _ member => member

theorem IsSound.activate (h : client.IsSound) (name : String) (config : ScopeConfig) :
    IsSound { client with registry := (client.registry.activate name config).2 } := by
  have kept {a : Nat} (begun : a < client.registry.nextActivation) :=
    Registry.scope_activate_of_lt begun name config
  have le := @Registry.le_nextActivation_activate client.registry name config
  refine ⟨fun name' a found => ?_, fun a => ?_, fun key a number member => ?_,
    fun key lease member => ?_⟩
  · dsimp only at found ⊢
    rw [Registry.active_activate] at found
    split at found
    next same =>
      subst same
      cases known : client.registry.active.get? name with
      | some b =>
        rw [known] at found
        obtain rfl := Option.some.inj found
        rw [Registry.activate_of_known known]
        exact h.active name b known
      | none =>
        rw [known] at found
        obtain rfl := Option.some.inj found
        rw [Registry.activate_of_unknown known]
        refine ⟨?_, Nat.lt_succ_self _⟩
        have placed := @Registry.scope_setScope client.registry client.registry.nextActivation
          client.registry.nextActivation (Scope.activate name config)
        rw [if_pos rfl] at placed
        exact congrArg Scope.name placed
    next =>
      obtain ⟨named, begun⟩ := h.active name' a found
      rw [kept begun]
      exact ⟨named, Nat.lt_of_lt_of_le begun le⟩
  · rcases @Registry.scope_activate client.registry name config a with same | ⟨-, started⟩
    · dsimp only
      rw [same]
      exact h.scopes a
    · dsimp only
      rw [started]
      exact ⟨fun _ _ => rfl, fun _ _ found => by cases found⟩
  · obtain ⟨begun, given⟩ := h.sessions key a number member
    dsimp only
    rw [kept begun]
    exact ⟨Nat.lt_of_lt_of_le begun le, given⟩
  · obtain ⟨own, named, granted⟩ := h.held key lease member
    dsimp only
    rw [kept (h.sessions key _ _ granted).1]
    exact ⟨own, named, granted⟩

theorem IsSound.deactivate (h : client.IsSound) (name : String) :
    IsSound { client with registry := (client.registry.deactivate name).2 } := by
  refine h.of_evolves (fun a => ?_) (Registry.nextActivation_deactivate name) ?_ rfl
    fun _ _ member => member
  · dsimp only
    rw [Registry.scope_deactivate]
    split
    · exact Scope.evolves_perform trivial
    · exact .refl
  · intro name' a found
    dsimp only at found
    rw [Registry.active_deactivate] at found
    split at found
    · cases found
    · exact found

/-- The lease of a user is one of the session that the user has in an activation. -/
def IsCurrent (client : Client) (key : UserKey) (a : Nat) (lease : Lease) : Prop :=
  ∃ session, (client.registry.scope a).connections.session? key = some session ∧
    (a, session.id) = (lease.activation, lease.session)

theorem sessions_hold (lease : Lease) (k : UserKey) :
    (client.hold key lease).sessions k =
      if k = key ∧ (lease.activation, lease.session) ∉ client.sessions key then
        client.sessions key ++ [(lease.activation, lease.session)]
      else client.sessions k := by
  unfold hold
  dsimp only
  by_cases own : k = key
  · subst own
    rw [Function.update_self]
    by_cases granted : (lease.activation, lease.session) ∈ client.sessions k
    · simp [granted]
    · simp [granted]
  · rw [Function.update_of_ne own, if_neg fun both => own both.1]

theorem mem_sessions_hold {lease : Lease} {k : UserKey} {session : Nat × Nat} :
    session ∈ (client.hold key lease).sessions k ↔
      session ∈ client.sessions k ∨ (k = key ∧ session = (lease.activation, lease.session)) := by
  rw [sessions_hold]
  split
  next fresh =>
    rw [fresh.1, List.mem_append, List.mem_singleton]
    simp
  next old =>
    refine ⟨Or.inl, ?_⟩
    rintro (member | ⟨rfl, rfl⟩)
    · exact member
    · by_cases granted : (lease.activation, lease.session) ∈ client.sessions k
      · exact granted
      · exact absurd ⟨rfl, granted⟩ old

/-- A lease is held that was just granted. -/
theorem IsSound.hold (h : client.IsSound) {lease : Lease} (own : lease.user = key.user)
    (named : (client.registry.scope lease.activation).name = key.scope)
    (begun : lease.activation < client.registry.nextActivation)
    (current : client.IsCurrent key lease.activation lease) :
    (client.hold key lease).IsSound := by
  obtain ⟨session, found, same⟩ := current
  refine ⟨h.active, h.scopes, fun k a number member => ?_, fun k later member => ?_⟩
  · rcases mem_sessions_hold.1 member with member | ⟨rfl, here⟩
    · exact h.sessions k a number member
    · obtain ⟨rfl, rfl⟩ := Prod.mk.inj here
      rw [← (Prod.mk.inj same).2]
      exact ⟨begun, (h.scopes _).2 k session found⟩
  · rw [mem_sessions_hold]
    by_cases this : k = key
    · subst this
      have member' : later ∈ Function.update client.held k (client.held k ++ [lease]) k := member
      rw [Function.update_self, List.mem_append, List.mem_singleton] at member'
      rcases member' with member | rfl
      · obtain ⟨user, scope, granted⟩ := h.held k later member
        exact ⟨user, scope, Or.inl granted⟩
      · exact ⟨own, named, Or.inr ⟨rfl, rfl⟩⟩
    · have member' : later ∈ Function.update client.held key (client.held key ++ [lease]) k := member
      rw [Function.update_of_ne this] at member'
      obtain ⟨user, scope, granted⟩ := h.held k later member'
      exact ⟨user, scope, Or.inl granted⟩

/-! ### One request -/

theorem scope_operate (a b : Nat) (operation : Operation) :
    (client.operate a operation).registry.scope b =
      if a = b then (client.registry.scope b).perform operation else client.registry.scope b :=
  Registry.scope_modify a b (·.perform operation)

theorem serve_activate (name : String) (config : ScopeConfig) :
    client.serve (.activate name config) =
      (.ofResult (client.registry.activate name config).1,
        { client with registry := (client.registry.activate name config).2 }) := rfl

theorem serve_deactivate (name : String) :
    client.serve (.deactivate name) =
      (.ofResult (client.registry.deactivate name).1,
        { client with registry := (client.registry.deactivate name).2 }) := rfl

theorem serve_onScope_of_unknown {name : String} (unknown : client.registry.active.get? name = none)
    (call : ScopeCall) :
    client.serve (.onScope name call) = (.refused (.unknownScope name), client) := by
  rw [serve, Registry.find_of_unknown unknown]

theorem serve_onScope {name : String} {a : Nat}
    (found : client.registry.active.get? name = some a) (call : ScopeCall) :
    client.serve (.onScope name call) =
      ((client.registry.scope a).reply client.clock call,
        client.operate a (call.operation client.clock)) := by
  rw [serve, Registry.find_eq_ok_iff.2 found]

theorem serve_acquire_of_unknown (unknown : client.registry.active.get? key.scope = none)
    (ip : IpAddr) :
    client.serve (.acquire key ip) = (.refused (.unknownScope key.scope), client) := by
  rw [serve, Registry.find_of_unknown unknown]

/-- A lease is one of a connection, and it is held from then on. -/
theorem serve_acquire {a : Nat} (found : client.registry.active.get? key.scope = some a)
    (ip : IpAddr) :
    client.serve (.acquire key ip) =
      let moved := client.operate a (.connect key.user ip)
      match ((client.registry.scope a).connect key.user ip).1 with
      | .error e => (.refused e, moved)
      | .ok (.error _) => (.granted none, moved)
      | .ok (.ok number) =>
        let held := moved.hold key ⟨a, key.user, ip, number⟩
        (.granted (some (held.nameOf key a number)), held) := by
  have moved := @Registry.acquire_registry client.registry a key.user ip
  rw [serve, Registry.find_eq_ok_iff.2 found]
  unfold Registry.acquire Registry.run at moved ⊢
  dsimp only at moved ⊢
  cases ((client.registry.scope a).connect key.user ip).1 with
  | error e => rfl
  | ok result =>
    cases result with
    | error refusal => rfl
    | ok number => rfl

theorem serve_inspect_of_unknown (unknown : client.registry.active.get? key.scope = none) :
    client.serve (.inspect key) = (.refused (.unknownScope key.scope), client) := by
  rw [serve, Registry.find_of_unknown unknown]

theorem serve_inspect {a : Nat} (found : client.registry.active.get? key.scope = some a) :
    client.serve (.inspect key) = (.state ((client.registry.scope a).state key.user), client) := by
  rw [serve, Registry.find_eq_ok_iff.2 found]

theorem serve_drop_of_none {index : Nat} (unheld : (client.held key)[index]? = none) :
    client.serve (.drop key index) = (.done, client) := by
  rw [serve, unheld]

theorem serve_drop {index : Nat} {lease : Lease}
    (held : (client.held key)[index]? = some lease) :
    client.serve (.drop key index) = (.done, { client with
      registry := client.registry.drop lease
      held := Function.update client.held key ((client.held key).eraseIdx index) }) := by
  rw [serve, held]

theorem isCurrent_of_granted {a : Nat} (named : (client.registry.scope a).name = key.scope)
    {ip : IpAddr} {number : Nat}
    (granted : ((client.registry.scope a).connect key.user ip).1 = .ok (.ok number)) :
    (client.operate a (.connect key.user ip)).IsCurrent key a ⟨a, key.user, ip, number⟩ := by
  obtain ⟨session, opened, same⟩ := Scope.session_of_granted granted
  rw [Scope.key_of_name named] at opened
  refine ⟨session, ?_, by rw [same]⟩
  rw [scope_operate, if_pos rfl]
  exact opened

/-- What holds of a registry in use holds after every request. -/
theorem IsSound.serve (h : client.IsSound) (request : Request) :
    (client.serve request).2.IsSound := by
  cases request with
  | activate name config => exact h.activate name config
  | deactivate name => exact h.deactivate name
  | onScope name call =>
    cases found : client.registry.active.get? name with
    | none =>
      rw [serve_onScope_of_unknown found]
      exact h
    | some a =>
      rw [serve_onScope found]
      exact h.operate a _
  | acquire key ip =>
    cases found : client.registry.active.get? key.scope with
    | none =>
      rw [serve_acquire_of_unknown found]
      exact h
    | some a =>
      have moved := h.operate a (.connect key.user ip)
      obtain ⟨named, begun⟩ := h.active key.scope a found
      rw [serve_acquire found]
      dsimp only
      split
      · exact moved
      · exact moved
      next number granted =>
        refine moved.hold rfl ?_ begun (isCurrent_of_granted named granted)
        dsimp only
        rw [scope_operate, if_pos rfl, Scope.name_perform, named]
  | drop key index =>
    cases held : (client.held key)[index]? with
    | none =>
      rw [serve_drop_of_none held]
      exact h
    | some lease =>
      rw [serve_drop held]
      have evolves := @Registry.evolves_modify (fun _ _ => True) client.registry lease.activation
        (.release lease.user lease.ip (some lease.session)) trivial
      refine h.of_evolves evolves.scope rfl (fun _ _ found => found) rfl ?_
      intro k later member
      dsimp only at member
      by_cases this : k = key
      · subst this
        rw [Function.update_self] at member
        exact List.mem_of_mem_eraseIdx member
      · rw [Function.update_of_ne this] at member
        exact member
  | inspect key =>
    cases found : client.registry.active.get? key.scope with
    | none =>
      rw [serve_inspect_of_unknown found]
      exact h
    | some a =>
      rw [serve_inspect found]
      exact h
  | setClock now => exact ⟨h.active, h.scopes, h.sessions, h.held⟩

/-! ### Names of sessions -/

/-- A session that was not begun yet has the name of the next one. -/
theorem IsSound.nameOf_fresh (h : client.IsSound) {a number : Nat}
    (fresh : a < client.registry.nextActivation →
      (client.registry.scope a).connections.nextSession ≤ number) :
    client.nameOf key a number = (client.sessions key).length := by
  refine List.idxOf_of_notMem fun member => ?_
  obtain ⟨begun, given⟩ := h.sessions key a number member
  have := fresh begun
  omega

/-- To hold a lease leaves the names of sessions as they are, that of its own included. -/
theorem nameOf_hold {lease : Lease} {a number : Nat}
    (known : (a, number) ∈ client.sessions key ∨
      (a, number) = (lease.activation, lease.session)) :
    (client.hold key lease).nameOf key a number = client.nameOf key a number := by
  rw [nameOf, nameOf, sessions_hold]
  split
  next fresh =>
    rcases known with member | same
    · exact List.idxOf_append_of_mem member
    · rw [same, List.idxOf_append_of_notMem fresh.2, List.idxOf_of_notMem fresh.2,
        List.idxOf_cons_self, Nat.add_zero]
  next => rfl

theorem isCurrent_iff (sound : client.IsSound) {lease : Lease} (held : lease ∈ client.held key)
    (a : Nat) :
    client.IsCurrent key a lease ↔
      ∃ session, (client.registry.scope a).connections.session? key = some session ∧
        client.nameOf key a session.id =
          client.nameOf key lease.activation lease.session := by
  obtain ⟨-, -, granted⟩ := sound.held key lease held
  unfold IsCurrent nameOf
  refine exists_congr fun session => and_congr_right fun _ => ?_
  rw [eq_comm, ← List.idxOf_inj granted, eq_comm]

theorem nameOf_hold_self (client : Client) (key : UserKey) (lease : Lease) :
    (client.hold key lease).nameOf key lease.activation lease.session =
      client.nameOf key lease.activation lease.session :=
  nameOf_hold (Or.inr rfl)

/-- Where the session of a lease has ended, to drop the lease leaves the scope as it is. -/
theorem scope_drop_of_ended (sound : client.IsSound) {lease : Lease}
    (held : lease ∈ client.held key) {a : Nat} (named : (client.registry.scope a).name = key.scope)
    (ended : ¬ client.IsCurrent key a lease) :
    (client.operate lease.activation
      (.release lease.user lease.ip (some lease.session))).registry.scope a =
        client.registry.scope a := by
  rw [scope_operate]
  split
  next here =>
    refine Scope.release_of_ended (fun session found same => ended ?_) lease.ip
    rw [(sound.held key lease held).1] at found
    rw [Scope.session?, Scope.key_of_name named] at found
    exact ⟨session, found, by rw [same, here]⟩
  next => rfl

end Client

end Tollgate
