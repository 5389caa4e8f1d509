import Mathlib.Data.List.Count
import Tollgate.Proofs.Steps

/-!
# The balance of leases

Where connections are opened and closed through leases only, the open connections of a user's
session are the leases that remember it, one by one and for each address. Sessions end and begin
anew under leases that are held all the while: by roster changes, by windows that close, by the word
of other nodes and by the end of the scope. The numbers of sessions tell such leases apart, since
none is given twice, so a lease of a session that has ended closes nothing.

`Balanced` is the invariant of one activation, with one lemma for each kind of step.
-/

namespace Tollgate

namespace Lease

/-- Whether a lease is one of a user's session. -/
def isIn (a : Nat) (user : UInt64) (session : Nat) (lease : Lease) : Bool :=
  lease.activation = a && lease.user = user && lease.session = session

/-- Whether a lease is one of a user's session and from an address. -/
def isAt (a : Nat) (user : UInt64) (ip : IpAddr) (session : Nat) (lease : Lease) : Bool :=
  lease.isIn a user session && lease.ip = ip

/-- Whether a lease is one of a user. -/
def isOf (a : Nat) (user : UInt64) (lease : Lease) : Bool :=
  lease.activation = a && lease.user = user

theorem isIn_of_isAt {a : Nat} {user : UInt64} {ip : IpAddr} {session : Nat} {lease : Lease}
    (h : lease.isAt a user ip session = true) : lease.isIn a user session = true :=
  (Bool.and_eq_true_iff.1 h).1

end Lease

/-- The open connections of the sessions of an activation are the leases that remember them. -/
structure Balanced (a : Nat) (scope : Scope) (leases : List Lease) : Prop where
  lease_begun : ∀ lease ∈ leases, lease.activation = a →
    lease.session < scope.connections.nextSession
  session_begun : ∀ user session, scope.session? user = some session →
    session.id < scope.connections.nextSession
  connections_eq : ∀ user session, scope.session? user = some session →
    session.connections = leases.countP (Lease.isIn a user session.id)
  device_eq : ∀ user session, scope.session? user = some session → ∀ ip,
    (session.device ip).connections = leases.countP (Lease.isAt a user ip session.id)

namespace Balanced

variable {a : Nat} {scope after : Scope} {leases leases' : List Lease}

/-- No lease remembers a session that is still to begin. -/
theorem count_eq_zero (h : Balanced a scope leases) {id : Nat}
    (late : scope.connections.nextSession ≤ id) {p : Lease → Bool} {user : UInt64}
    (narrow : ∀ lease, p lease = true → lease.isIn a user id = true) : leases.countP p = 0 := by
  rw [List.countP_eq_zero]
  intro lease member counted
  have found := narrow lease counted
  simp only [Lease.isIn, Bool.and_eq_true, decide_eq_true_eq] at found
  have begun := h.lease_begun lease member found.1.1
  omega

/-- What keeps the open connections of sessions keeps the balance. -/
theorem of_keeps (h : Balanced a scope leases) (named : after.name = scope.name)
    (kept : scope.connections.Keeps after.connections) : Balanced a after leases := by
  have keys (user : UInt64) : after.key user = scope.key user := by
    rw [Scope.key, Scope.key, named]
  have le := kept.nextSession_le
  have cases_of {user : UInt64} {session : Session} (found : after.session? user = some session) :=
    kept.session_cases (scope.key user) session (by rw [← keys]; exact found)
  refine ⟨?_, ?_, ?_, ?_⟩
  · intro lease member here
    exact Nat.lt_of_lt_of_le (h.lease_begun lease member here) le
  · intro user session found
    rcases cases_of found with ⟨old, known, same⟩ | ⟨-, -, below⟩
    · rw [same.id_eq]
      exact Nat.lt_of_lt_of_le (h.session_begun user old known) le
    · exact below
  · intro user session found
    rcases cases_of found with ⟨old, known, same⟩ | ⟨idle, late, -⟩
    · rw [same.connections_eq, same.id_eq]
      exact h.connections_eq user old known
    · rw [idle.connections_eq]
      exact (h.count_eq_zero late fun _ counted => counted).symm
  · intro user session found ip
    rcases cases_of found with ⟨old, known, same⟩ | ⟨idle, late, -⟩
    · rw [same.device_eq, same.id_eq]
      exact h.device_eq user old known ip
    · rw [idle.device_eq]
      exact (h.count_eq_zero late fun _ counted => Lease.isIn_of_isAt counted).symm

/-- Leases that no session of the activation counts may come and go. -/
theorem of_leases (h : Balanced a scope leases)
    (begun : ∀ lease ∈ leases', lease.activation = a →
      lease.session < scope.connections.nextSession)
    (same : ∀ user session, scope.session? user = some session → ∀ p : Lease → Bool,
      (∀ lease, p lease = true → lease.isIn a user session.id = true) →
      leases'.countP p = leases.countP p) : Balanced a scope leases' where
  lease_begun := begun
  session_begun := h.session_begun
  connections_eq user session found := by
    rw [same user session found _ fun _ counted => counted]
    exact h.connections_eq user session found
  device_eq user session found ip := by
    rw [same user session found (Lease.isAt a user ip session.id)
      fun _ counted => Lease.isIn_of_isAt counted]
    exact h.device_eq user session found ip

/-- A lease of another activation. -/
theorem cons_other (h : Balanced a scope leases) {lease : Lease} (other : lease.activation ≠ a) :
    Balanced a scope (lease :: leases) := by
  refine h.of_leases ?_ ?_
  · intro l member here
    rcases List.mem_cons.1 member with rfl | member
    · exact absurd here other
    · exact h.lease_begun l member here
  · intro user session found p narrow
    refine List.countP_cons_of_neg fun counted => ?_
    have matched := narrow lease counted
    simp [Lease.isIn, other] at matched

/-- A lease that the sessions of the activation do not count. -/
theorem erase_other (h : Balanced a scope leases) {lease : Lease}
    (uncounted : ∀ user session, scope.session? user = some session →
      lease.isIn a user session.id = false) : Balanced a scope (leases.erase lease) := by
  refine h.of_leases ?_ ?_
  · intro l member here
    exact h.lease_begun l (List.mem_of_mem_erase member) here
  · intro user session found p narrow
    rw [List.countP_erase, if_neg, Nat.sub_zero]
    rintro ⟨-, counted⟩
    have matched := narrow lease counted
    rw [uncounted user session found] at matched
    cases matched

/-- The session that a connection would join counts its leases, also if it would only begin. -/
theorem sessionOrNew (h : Balanced a scope leases) (user : UInt64) {session : Session}
    (joined : scope.connections.sessionOrNew (scope.key user) = session) :
    session.connections = leases.countP (Lease.isIn a user session.id) ∧
      ∀ ip, (session.device ip).connections = leases.countP (Lease.isAt a user ip session.id) := by
  cases found : scope.session? user with
  | some old =>
    obtain rfl := (ConnectionLimiter.sessionOrNew_of_some found).symm.trans joined
    exact ⟨h.connections_eq user old found, h.device_eq user old found⟩
  | none =>
    obtain rfl := (ConnectionLimiter.sessionOrNew_of_none found).symm.trans joined
    have late := Nat.le_refl scope.connections.nextSession
    refine ⟨?_, ?_⟩
    · exact (h.count_eq_zero late fun _ counted => counted).symm
    · intro ip
      exact (h.count_eq_zero late fun _ counted => Lease.isIn_of_isAt counted).symm

/-- After a connection the number of its session is below the next. -/
theorem id_lt_admitted (h : Balanced a scope leases) (user : UInt64) (ip : IpAddr) :
    (scope.connections.sessionOrNew (scope.key user)).id <
      (scope.connections.admitted (scope.key user) ip).nextSession := by
  cases found : scope.session? user with
  | some old =>
    rw [ConnectionLimiter.sessionOrNew_of_some found]
    exact Nat.lt_of_lt_of_le (h.session_begun user old found)
      (ConnectionLimiter.le_nextSession_admitted ip)
  | none =>
    have found' : scope.connections.session? (scope.key user) = none := found
    rw [ConnectionLimiter.sessionOrNew_of_none found, ConnectionLimiter.admitted, found']
    exact Nat.lt_succ_self _

/-- One session in place of another, with its leases in place of the other's. -/
theorem of_session (h : Balanced a scope leases) {user : UInt64} {session : Session}
    (look : ∀ user', after.session? user' =
      if user = user' then some session else scope.session? user')
    (le : scope.connections.nextSession ≤ after.connections.nextSession)
    (begun : ∀ lease ∈ leases', lease.activation = a →
      lease.session < after.connections.nextSession)
    (id_lt : session.id < after.connections.nextSession)
    (others : ∀ user', user ≠ user' → ∀ id (p : Lease → Bool),
      (∀ lease, p lease = true → lease.isIn a user' id = true) →
      leases'.countP p = leases.countP p)
    (counts : session.connections = leases'.countP (Lease.isIn a user session.id))
    (deviceCounts : ∀ ip, (session.device ip).connections =
      leases'.countP (Lease.isAt a user ip session.id)) : Balanced a after leases' := by
  refine ⟨begun, ?_, ?_, ?_⟩
  · intro user' session' found
    rw [look] at found
    split at found
    · cases found
      exact id_lt
    · exact Nat.lt_of_lt_of_le (h.session_begun user' session' found) le
  · intro user' session' found
    rw [look] at found
    split at found
    next same =>
      subst same
      cases found
      exact counts
    next other =>
      rw [others user' other session'.id _ fun _ counted => counted]
      exact h.connections_eq user' session' found
  · intro user' session' found ip
    rw [look] at found
    split at found
    next same =>
      subst same
      cases found
      exact deviceCounts ip
    next other =>
      rw [others user' other session'.id (Lease.isAt a user' ip session'.id)
        fun _ counted => Lease.isIn_of_isAt counted]
      exact h.device_eq user' session' found ip

/-- A lease that is granted is counted once, where it belongs. -/
theorem admitted (h : Balanced a scope leases) (user : UInt64) (ip : IpAddr) {lease : Lease}
    (granted : lease = ⟨a, user, ip, (scope.connections.sessionOrNew (scope.key user)).id⟩)
    (few : (lease :: leases).countP (Lease.isOf a user) < UInt32.size) :
    Balanced a
      { scope with
        connections := scope.connections.admitted (scope.key user) ip
        speed := scope.speed.ensureUser (scope.key user) } (lease :: leases) := by
  generalize joined : scope.connections.sessionOrNew (scope.key user) = session at granted
  obtain ⟨counts, deviceCounts⟩ := h.sessionOrNew user joined
  have le := @ConnectionLimiter.le_nextSession_admitted scope.connections (scope.key user) ip
  have below := h.id_lt_admitted user ip
  rw [joined] at below
  -- The new lease still fits, so no count stops at its greatest value.
  have room (p : Lease → Bool) (narrow : ∀ l, p l = true → l.isIn a user session.id = true) :
      leases.countP p + 1 ≤ maxConnections := by
    have wider : leases.countP p ≤ leases.countP (Lease.isOf a user) :=
      List.countP_mono_left fun l _ counted => (Bool.and_eq_true_iff.1 (narrow l counted)).1
    rw [List.countP_cons_of_pos (by simp [granted, Lease.isOf])] at few
    have size : maxConnections = UInt32.size - 1 := rfl
    omega
  refine h.of_session (scope.session?_admitted user ip joined) le ?_ below ?_ ?_ ?_
  · intro l member here
    rcases List.mem_cons.1 member with rfl | member
    · rw [granted]
      exact below
    · exact Nat.lt_of_lt_of_le (h.lease_begun l member here) le
  · intro user' other id p narrow
    refine List.countP_cons_of_neg fun counted => ?_
    have matched := narrow lease counted
    simp [Lease.isIn, granted, other] at matched
  · have full := room (Lease.isIn a user session.id) fun _ counted => counted
    rw [List.countP_cons_of_pos (by simp [granted, Lease.isIn, Session.connect])]
    show min (session.connections + 1) maxConnections = _
    rw [counts, Nat.min_eq_left full]
    rfl
  · intro ip'
    rw [Session.device_connect]
    split
    next here =>
      subst here
      have full := room (Lease.isAt a user ip session.id) fun _ counted =>
        Lease.isIn_of_isAt counted
      rw [List.countP_cons_of_pos (by simp [granted, Lease.isAt, Lease.isIn, Session.connect])]
      show min ((session.device ip).connections + 1) maxConnections = _
      rw [deviceCounts, Nat.min_eq_left full]
      rfl
    next elsewhere =>
      rw [List.countP_cons_of_neg (by simp [granted, Lease.isAt, elsewhere])]
      exact deviceCounts ip'

/-- A lease that is dropped closes the connection it was counted for, and no other. -/
theorem released (h : Balanced a scope leases) {lease : Lease} (held : lease ∈ leases)
    (here : lease.activation = a) :
    Balanced a (scope.release lease.user lease.ip (some lease.session)) (leases.erase lease) := by
  obtain ⟨speed, after, -⟩ := scope.release_frame lease.user lease.ip (some lease.session)
  rw [after]
  have begun : ∀ l ∈ leases.erase lease, l.activation = a →
      l.session < scope.connections.nextSession :=
    fun l member here => h.lease_begun l (List.mem_of_mem_erase member) here
  rcases scope.release_cases lease.user lease.ip (some lease.session) with
    ⟨session, found, same, -, closed⟩ | ⟨nothing, unopened⟩
  · have same : lease.session = session.id := by simpa using same
    have counted : lease.isAt a lease.user lease.ip session.id = true := by
      simp [Lease.isAt, Lease.isIn, here, same]
    rw [closed]
    refine h.of_session (scope.session?_setSession lease.user (session.disconnect lease.ip))
      (Nat.le_refl _) begun (h.session_begun lease.user session found) ?_ ?_ ?_
    · intro user other id p narrow
      rw [List.countP_erase, if_neg, Nat.sub_zero]
      rintro ⟨-, counted⟩
      have matched := narrow lease counted
      simp [Lease.isIn, other] at matched
    · rw [List.countP_erase, if_pos ⟨held, Lease.isIn_of_isAt counted⟩]
      show session.connections - 1 = _
      rw [h.connections_eq lease.user session found]
      rfl
    · intro ip
      rw [Session.device_disconnect, List.countP_erase]
      split
      next there =>
        subst there
        rw [if_pos ⟨held, counted⟩]
        show (session.device lease.ip).connections - 1 = _
        rw [h.device_eq lease.user session found]
        rfl
      next elsewhere =>
        rw [if_neg (by simp [Lease.isAt, elsewhere]), Nat.sub_zero]
        exact h.device_eq lease.user session found ip
  · rw [nothing]
    refine (h.erase_other ?_).of_keeps rfl .refl
    intro user session found
    rw [← Bool.not_eq_true]
    intro counted
    have matched := counted
    simp only [Lease.isIn, Bool.and_eq_true, decide_eq_true_eq] at matched
    obtain ⟨⟨-, rfl⟩, same⟩ := matched
    -- The lease would be one of the connections counted for its address, so there would be one.
    have idle := unopened session found (by simpa using same)
    rw [h.device_eq lease.user session found] at idle
    have counted' : lease.isAt a lease.user lease.ip session.id = true := by
      rw [Lease.isAt, counted, decide_eq_true rfl]
      rfl
    have positive := List.countP_pos_iff.2 ⟨lease, held, counted'⟩
    omega

end Balanced

/-- Steps of a node whose connections are opened and closed through leases only, and on which a user
never holds more leases than a count can tell. -/
structure LeasesOnly (_ : Node) (event : Event) (next : Node) : Prop where
  direct : ∀ a operation, event = .operate a operation → operation.movesConnections = false
  few : ∀ a user, next.leases.countP (Lease.isOf a user) < UInt32.size

theorem LeasesOnly.of_length_lt {node next : Node} {event : Event}
    (direct : ∀ a operation, event = .operate a operation → operation.movesConnections = false)
    (short : next.leases.length < UInt32.size) : LeasesOnly node event next where
  direct := direct
  few _ _ := Nat.lt_of_le_of_lt List.countP_le_length short

/-- All activations of a node are in balance with its leases. -/
structure Node.InBalance (node : Node) : Prop where
  balanced : ∀ a, Balanced a (node.scope a) node.leases
  known : ∀ lease ∈ node.leases, lease.activation < node.registry.nextActivation

namespace Node

variable {node next : Node} {event : Event}

theorem inBalance_empty : InBalance {} where
  balanced _ := by
    refine ⟨fun _ member => (nomatch member), ?_, ?_, ?_⟩
    · intro user session found
      cases found
    · intro user session found
      cases found
    · intro user session found
      cases found
  known := fun _ member => nomatch member

/-- A step that neither grants nor drops a lease nor opens or closes a connection. -/
theorem InBalance.of_evolves (h : node.InBalance) (same : next.leases = node.leases)
    (evolves : Registry.Evolves (fun _ operation => operation.movesConnections = false)
      node.registry next.registry) : next.InBalance where
  balanced a := by
    obtain ⟨operations, after, still⟩ := evolves.scope a
    have after' : next.scope a = (node.scope a).performAll operations := after
    rw [same, after']
    exact (h.balanced a).of_keeps (Scope.name_performAll _) (Scope.keeps_performAll still)
  known := by
    rw [same, evolves.nextActivation_eq]
    exact h.known

theorem InBalance.activate (h : node.InBalance) (name : String) (config : ScopeConfig) :
    InBalance { node with registry := (node.registry.activate name config).2 } where
  balanced a := by
    rcases Registry.scope_activate name config a with same | ⟨fresh, started⟩
    · have same' : scope { node with registry := (node.registry.activate name config).2 } a =
          node.scope a := same
      rw [same']
      exact h.balanced a
    · have started' : scope { node with registry := (node.registry.activate name config).2 } a =
          Scope.activate name config := started
      rw [started']
      refine ⟨?_, ?_, ?_, ?_⟩
      · intro lease member here
        have known := h.known lease member
        omega
      · intro user session found
        cases found
      · intro user session found
        cases found
      · intro user session found
        cases found
  known lease member := by
    exact Nat.lt_of_lt_of_le (h.known lease member)
      (Registry.le_nextActivation_activate name config)

theorem InBalance.deactivate (h : node.InBalance) (name : String) :
    InBalance { node with registry := (node.registry.deactivate name).2 } where
  balanced a := by
    have after : scope { node with registry := (node.registry.deactivate name).2 } a = _ :=
      Registry.scope_deactivate name a
    rw [after]
    split
    · exact (h.balanced a).of_keeps rfl (Scope.keeps_perform rfl)
    · exact h.balanced a
  known lease member := by
    show lease.activation < (node.registry.deactivate name).2.nextActivation
    rw [Registry.nextActivation_deactivate]
    exact h.known lease member

theorem InBalance.acquire (h : node.InBalance) {a : Nat} (known : a < node.registry.nextActivation)
    (user : UInt64) (ip : IpAddr)
    (few : (node.acquire a user ip).leases.countP (Lease.isOf a user) < UInt32.size) :
    (node.acquire a user ip).InBalance := by
  have next : (node.acquire a user ip).registry.nextActivation = node.registry.nextActivation := by
    rw [registry_acquire]
    rfl
  rcases acquire_cases a user ip with ⟨same, stays⟩ | ⟨granted, placed⟩
  · refine ⟨fun b => ?_, ?_⟩
    · rw [same, stays]
      exact h.balanced b
    · rw [same, next]
      exact h.known
  · rw [granted] at few
    refine ⟨fun b => ?_, ?_⟩
    · rw [granted, placed]
      split
      next here =>
        subst here
        exact (h.balanced a).admitted user ip rfl few
      next other => exact (h.balanced b).cons_other other
    · rw [granted, next]
      intro lease member
      rcases List.mem_cons.1 member with rfl | member
      · exact known
      · exact h.known lease member

theorem InBalance.drop (h : node.InBalance) {lease : Lease} (held : lease ∈ node.leases) :
    (node.drop lease).InBalance where
  balanced b := by
    have after : (node.drop lease).scope b = _ :=
      Registry.scope_modify lease.activation b (·.release lease.user lease.ip (some lease.session))
    rw [after]
    split
    next here => exact (h.balanced b).released held here
    next other =>
      refine (h.balanced b).erase_other fun user session _ => ?_
      simp [Lease.isIn, other]
  known l member := h.known l (List.mem_of_mem_erase member)

/-- Every step keeps the balance. -/
theorem InBalance.step (h : node.InBalance) (step : node.Step event next)
    (allowed : LeasesOnly node event next) : next.InBalance := by
  have quiet (lasting : event.isLifecycle = false) (kept : event.movesLeases = false) :
      next.InBalance :=
    h.of_evolves (step.leases_eq kept) <| (step.evolves lasting).imp fun _ _ may =>
      Event.movesConnections_of_mayPerform may kept allowed.direct
  cases step with
  | activate name config => exact h.activate name config
  | deactivate settled => exact h.deactivate _
  | acquire known user ip => exact h.acquire known user ip (allowed.few _ _)
  | drop held => exact h.drop held
  | _ => exact quiet rfl rfl

/-- Every run from an empty node keeps the balance. -/
theorem inBalance_of_run (run : Run LeasesOnly {} node) : node.InBalance := by
  induction run with
  | refl => exact inBalance_empty
  | tail _ last ih =>
    obtain ⟨event, step, allowed⟩ := last
    exact ih.step step allowed

end Node

/-! ### Sessions that have ended -/

/-- A session of a user that was begun once and is not there any more. -/
structure Scope.HasEnded (scope : Scope) (user : UInt64) (id : Nat) : Prop where
  begun : id < scope.connections.nextSession
  gone : ∀ session, scope.session? user = some session → session.id ≠ id

namespace Scope

variable {scope : Scope} {user : UInt64} {id : Nat}

/-- A session that has ended stays so, whatever is done to the scope. -/
theorem HasEnded.perform (h : scope.HasEnded user id) (operation : Operation) :
    (scope.perform operation).HasEnded user id := by
  have numbers := @keepsNumbers_perform scope operation
  refine ⟨Nat.lt_of_lt_of_le h.begun numbers.nextSession_le, fun session found => ?_⟩
  have begun := h.begun
  rw [session?, key, name_perform] at found
  rcases numbers.id_cases _ session found with ⟨old, known, same⟩ | ⟨late, -⟩
  · rw [← same]
    exact h.gone old known
  · omega

end Scope

namespace Node

variable {node next : Node} {event : Event}

/-- Numbers of sessions are not given twice, in whatever order things happen. -/
theorem hasEnded_of_run {allowed : Node → Event → Node → Prop} {later : Node}
    (run : Run allowed node later) {a : Nat} {user : UInt64} {id : Nat}
    (known : a < node.registry.nextActivation) (ended : (node.scope a).HasEnded user id) :
    a < later.registry.nextActivation ∧ (later.scope a).HasEnded user id := by
  induction run with
  | refl => exact ⟨known, ended⟩
  | @tail before after _ last ih =>
    obtain ⟨event, step, -⟩ := last
    obtain ⟨known, ended⟩ := ih
    refine ⟨Nat.lt_of_lt_of_le known step.nextActivation_le, ?_⟩
    obtain ⟨operations, same, -⟩ := step.scope_evolves known
    rw [same]
    exact Scope.performAll_induction (motive := fun s => s.HasEnded user id) ended
      fun _ operation _ held => held.perform operation

end Node

/-! ### Open connections and the leases that hold them -/

/-- The open connections of a user from an address. -/
def Scope.connectionsAt (scope : Scope) (user : UInt64) (ip : IpAddr) : Nat :=
  ((scope.session? user).map fun session => (session.device ip).connections).getD 0

/-- Whether the session that a lease remembers is its user's session now. -/
def Lease.isCurrent (scope : Scope) (lease : Lease) : Bool :=
  (scope.session? lease.user).any fun session => session.id = lease.session

/-- Whether a lease is one of the session that a user has now. -/
def Lease.isHeldIn (a : Nat) (scope : Scope) (user : UInt64) (lease : Lease) : Bool :=
  lease.isOf a user && lease.isCurrent scope

theorem Lease.isHeldIn_of_some {a : Nat} {scope : Scope} {user : UInt64} {session : Session}
    (found : scope.session? user = some session) (lease : Lease) :
    lease.isHeldIn a scope user = lease.isIn a user session.id := by
  by_cases own : lease.user = user
  · subst own
    simp [isHeldIn, isOf, isCurrent, isIn, found, eq_comm]
  · simp [isHeldIn, isOf, isIn, own]

theorem Lease.isHeldIn_of_none {a : Nat} {scope : Scope} {user : UInt64}
    (unknown : scope.session? user = none) (lease : Lease) :
    lease.isHeldIn a scope user = false := by
  by_cases own : lease.user = user
  · subst own
    simp [isHeldIn, isCurrent, unknown]
  · simp [isHeldIn, isOf, own]

namespace Balanced

variable {a : Nat} {scope : Scope} {leases : List Lease}

theorem connectionsOf_eq (h : Balanced a scope leases) (user : UInt64) :
    scope.connectionsOf user = leases.countP (Lease.isHeldIn a scope user) := by
  cases found : scope.session? user with
  | some session =>
    rw [Scope.connectionsOf_of_some found, h.connections_eq user session found]
    exact List.countP_congr fun lease _ => by rw [Lease.isHeldIn_of_some found]
  | none =>
    rw [Scope.connectionsOf_of_none found, eq_comm, List.countP_eq_zero]
    intro lease _
    rw [Lease.isHeldIn_of_none found]
    exact Bool.false_ne_true

theorem connectionsAt_eq (h : Balanced a scope leases) (user : UInt64) (ip : IpAddr) :
    scope.connectionsAt user ip =
      leases.countP fun lease => lease.isHeldIn a scope user && lease.ip = ip := by
  cases found : scope.session? user with
  | some session =>
    rw [Scope.connectionsAt, found, Option.map_some, Option.getD_some,
      h.device_eq user session found]
    exact List.countP_congr fun lease _ => by rw [Lease.isHeldIn_of_some found, Lease.isAt]
  | none =>
    rw [Scope.connectionsAt, found, Option.map_none, Option.getD_none, eq_comm,
      List.countP_eq_zero]
    intro lease _
    rw [Lease.isHeldIn_of_none found, Bool.false_and]
    exact Bool.false_ne_true

end Balanced

/-- Where connections are opened and closed through leases only, whatever else goes on, the open
connections of a user are the leases of the session the user has now, in all and from each address.
A lease of another session closes nothing, then or ever after; and who holds no lease has no open
connection. -/
theorem connections_are_leases {node : Node} (run : Node.Run LeasesOnly {} node) (a : Nat)
    (user : UInt64) :
    (∀ ip, (node.scope a).connectionsAt user ip =
      node.leases.countP fun lease =>
        lease.isHeldIn a (node.scope a) user && lease.ip = ip) ∧
    (node.scope a).connectionsOf user =
      node.leases.countP (Lease.isHeldIn a (node.scope a) user) ∧
    (∀ lease ∈ node.leases, lease.isOf a user = true →
      lease.isCurrent (node.scope a) = false →
      ∀ (allowed : Node → Event → Node → Prop) (later : Node), Node.Run allowed node later →
        ∀ b, (later.drop lease).scope b = later.scope b) ∧
    ((∀ lease ∈ node.leases, lease.isOf a user = false) →
      (node.scope a).connectionsOf user = 0) := by
  have balance := Node.inBalance_of_run run
  have balanced := balance.balanced a
  refine ⟨balanced.connectionsAt_eq user, balanced.connectionsOf_eq user, ?_, ?_⟩
  · intro lease held own old allowed later run' b
    obtain ⟨rfl, rfl⟩ : lease.activation = a ∧ lease.user = user := by
      simpa [Lease.isOf] using own
    have ended : (node.scope lease.activation).HasEnded lease.user lease.session := by
      refine ⟨balanced.lease_begun lease held rfl, ?_⟩
      intro session found same
      simp [Lease.isCurrent, found, same] at old
    obtain ⟨-, ended'⟩ := Node.hasEnded_of_run run' (balance.known lease held) ended
    have after : (later.drop lease).scope b = _ :=
      Registry.scope_modify lease.activation b (·.release lease.user lease.ip (some lease.session))
    rw [after]
    split
    next here =>
      subst here
      exact Scope.release_of_ended ended'.gone lease.ip
    next => rfl
  · intro none_held
    rw [balanced.connectionsOf_eq user, List.countP_eq_zero]
    intro lease member
    rw [Lease.isHeldIn, none_held lease member, Bool.false_and]
    exact Bool.false_ne_true

/-- A user who is removed while holding a lease, and is admitted again from the same address, has
one open connection; dropping the lease from before does not close it. -/
theorem connections_are_leases_readmitted :
    ∃ (node : Node) (old : Lease), Node.Run LeasesOnly {} node ∧ old ∈ node.leases ∧
      old.isOf 0 7 = true ∧ old.ip = default ∧ (node.scope 0).connectionsAt 7 default = 1 ∧
      (node.scope 0).connectionsOf 7 = 1 ∧ ∀ b, (node.drop old).scope b = node.scope b := by
  let active : Node := { registry := (({} : Registry).activate "a" {}).2 }
  let held := active.acquire 0 7 default
  let removed := held.operate 0 (.removeUser 7)
  let again := removed.acquire 0 7 default
  have activates : Node.Step {} (.activate "a" {}) active := .activate "a" {}
  have acquires : active.Step (.acquire 0 7 default) held := .acquire (by decide) 7 default
  have removes : held.Step (.operate 0 (.removeUser 7)) removed :=
    .operate (by decide) (fun other => nomatch other)
  have reacquires : removed.Step (.acquire 0 7 default) again := .acquire (by decide) 7 default
  have run : Node.Run LeasesOnly {} again := by
    refine Relation.ReflTransGen.tail (b := removed) (.tail (b := held) (.tail (b := active)
      (.tail .refl ⟨_, activates, ?_⟩) ⟨_, acquires, ?_⟩) ⟨_, removes, ?_⟩) ⟨_, reacquires, ?_⟩
    · exact .of_length_lt (fun _ _ other => nomatch other) (by decide)
    · exact .of_length_lt (fun _ _ other => nomatch other) (by decide)
    · refine .of_length_lt ?_ (by decide)
      rintro _ _ ⟨⟩
      rfl
    · exact .of_length_lt (fun _ _ other => nomatch other) (by decide)
  obtain ⟨counts, total, old_closes_nothing, -⟩ := connections_are_leases run 0 7
  have member : (⟨0, 7, default, 0⟩ : Lease) ∈ again.leases := by decide
  refine ⟨again, ⟨0, 7, default, 0⟩, run, member, rfl, rfl, ?_, ?_, ?_⟩
  · rw [counts]
    decide
  · rw [total]
    decide
  · exact old_closes_nothing _ member rfl (by decide) LeasesOnly again .refl

end Tollgate
