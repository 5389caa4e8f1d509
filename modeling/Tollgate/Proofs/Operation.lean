import Tollgate.Proofs.Records
import Tollgate.Proofs.Sessions
import Tollgate.Scope

/-!
# Operations on a scope

Everything that can be done to the state of a scope, as data, so that runs of a scope are lists of
operations in any order. A change of the roster is also there in its pieces, one user at a time:
whoever applies it does so piece by piece, and others may come in between.
`changeRoster_eq_performAll` says that a change in one go is its pieces without a break.
-/

namespace Tollgate

/-- What can be done to the state of a scope. -/
inductive Operation where
  | connect (user : UInt64) (ip : IpAddr)
  | release (user : UInt64) (ip : IpAddr) (session : Option Nat)
  | getBucket (user : UInt64) (now : Timestamp)
  | updateBucket (user : UInt64) (issued : IssuedBucket)
  | effectiveCap (user : UInt64) (now : Timestamp)
  | reportTraffic (user : UInt64) (traffic : Traffic)
  | removeUser (user : UInt64)
  | insertUser (entry : RosterUser)
  | applyRosterDiff (diff : RosterDiff)
  | replaceRules (rules : RuleSet)
  | setLimits (limits : NodeLimits)
  | setDynamicLimit (config : Option DynamicLimit)
  | drainTraffic
  | creditTraffic (entries : List TrafficEntry)
  | escalate (now : Timestamp) (entries : List TrafficEntry)
  | endWindow
  | mergeOnline (entries : List UserIps)
  | discardWindow
  | teardown

namespace Operation

/-- Whether the operation opens or closes a connection. -/
def movesConnections : Operation → Bool
  | .connect .. | .release .. => true
  | _ => false

/-- Whether the operation puts limit records in place of others or takes them away. -/
def changesRoster : Operation → Bool
  | .removeUser _ | .insertUser _ | .applyRosterDiff _ | .teardown => true
  | _ => false

/-- Whether the operation puts a user of a roster in place. -/
def isInsert : Operation → Bool
  | .insertUser _ => true
  | _ => false

/-- Whether the operation changes the roster in one go. -/
def isRosterDiff : Operation → Bool
  | .applyRosterDiff _ => true
  | _ => false

/-- Whether the operation brings in what other nodes report. -/
def isMerge : Operation → Bool
  | .mergeOnline _ => true
  | _ => false

end Operation

/-- A roster change, one user at a time. -/
def RosterDiff.pieces (diff : RosterDiff) : List Operation :=
  diff.removed.map (fun user => .removeUser user.id) ++ diff.added.map .insertUser

namespace Scope

variable (scope : Scope)

/-- The scope after an operation. -/
def perform : Operation → Scope
  | .connect user ip => (scope.connect user ip).2
  | .release user ip session => scope.release user ip session
  | .getBucket user now => (scope.getBucket user now).2
  | .updateBucket user issued => scope.updateBucket user issued
  | .effectiveCap user now => (scope.effectiveCap user now).2
  | .reportTraffic user traffic => scope.reportTraffic user traffic
  | .removeUser user => scope.removeUser user
  | .insertUser entry => scope.insertUser entry
  | .applyRosterDiff diff => (scope.applyRosterDiff diff).2
  | .replaceRules rules => scope.replaceRules rules
  | .setLimits limits => (scope.setLimits limits).2
  | .setDynamicLimit config => scope.setDynamicLimit config
  | .drainTraffic => scope.drainTraffic.2
  | .creditTraffic entries => scope.creditTraffic entries
  | .escalate now entries => (scope.escalate now entries).2
  | .endWindow => scope.endWindow
  | .mergeOnline entries => scope.mergeOnline entries
  | .discardWindow => scope.discardWindow
  | .teardown => scope.teardown

/-- The scope after operations, one after the other. -/
def performAll (operations : List Operation) : Scope := operations.foldl perform scope

variable {scope}

@[simp] theorem performAll_nil : scope.performAll [] = scope := rfl

@[simp] theorem performAll_cons (operation : Operation) (rest : List Operation) :
    scope.performAll (operation :: rest) = (scope.perform operation).performAll rest := rfl

theorem performAll_append (first second : List Operation) :
    scope.performAll (first ++ second) = (scope.performAll first).performAll second :=
  List.foldl_append

/-- What every operation keeps, a sequence of them keeps. -/
theorem performAll_induction {motive : Scope → Prop} {operations : List Operation}
    (start : motive scope)
    (step : ∀ (s : Scope) (operation), operation ∈ operations → motive s →
      motive (s.perform operation)) :
    motive (scope.performAll operations) := by
  induction operations generalizing scope with
  | nil => exact start
  | cons operation rest ih =>
    rw [performAll_cons]
    apply ih
    · exact step scope operation List.mem_cons_self start
    · intro s later member holds
      exact step s later (List.mem_cons_of_mem _ member) holds

/-- One scope comes of another by operations of a kind. -/
def Evolves (kind : Operation → Prop) (before after : Scope) : Prop :=
  ∃ operations, after = before.performAll operations ∧ ∀ operation ∈ operations, kind operation

theorem Evolves.refl {kind : Operation → Prop} : Evolves kind scope scope :=
  ⟨[], rfl, fun _ member => nomatch member⟩

theorem Evolves.trans {kind : Operation → Prop} {first second third : Scope}
    (h : Evolves kind first second) (h' : Evolves kind second third) :
    Evolves kind first third := by
  obtain ⟨operations, rfl, fits⟩ := h
  obtain ⟨operations', rfl, fits'⟩ := h'
  refine ⟨operations ++ operations', (performAll_append _ _).symm, ?_⟩
  intro operation member
  rcases List.mem_append.1 member with member | member
  · exact fits operation member
  · exact fits' operation member

theorem evolves_perform {kind : Operation → Prop} {operation : Operation} (fits : kind operation) :
    Evolves kind scope (scope.perform operation) :=
  ⟨[operation], rfl, fun _ member => List.mem_singleton.1 member ▸ fits⟩

/-! ### Roster changes in pieces -/

/-- A roster change in one go is its pieces without a break. -/
theorem changeRoster_eq_performAll (diff : RosterDiff) :
    scope.changeRoster diff = scope.performAll diff.pieces := by
  simp only [changeRoster, RosterDiff.pieces, performAll, List.foldl_append, List.foldl_map]
  rfl

/-- What taking a user away and putting one in keep, every roster change keeps. -/
theorem applyRosterDiff_induction {motive : Scope → Prop} {diff : RosterDiff} (start : motive scope)
    (remove : ∀ (s : Scope) (user), motive s → motive (s.removeUser user))
    (insert : ∀ (s : Scope) (entry), motive s → motive (s.insertUser entry)) :
    motive (scope.applyRosterDiff diff).2 := by
  unfold applyRosterDiff
  split
  · rw [changeRoster_eq_performAll]
    refine performAll_induction start ?_
    intro s operation member holds
    rcases List.mem_append.1 member with removed | added
    · obtain ⟨user, -, rfl⟩ := List.mem_map.1 removed
      exact remove s user.id holds
    · obtain ⟨entry, -, rfl⟩ := List.mem_map.1 added
      exact insert s entry holds
  · exact start

/-! ### Runs that keep to a rule -/

/-- A run in which every operation is allowed by a rule that looks at the scope before it. -/
def Follows (allowed : Scope → Operation → Prop) : Scope → List Operation → Prop
  | _, [] => True
  | scope, operation :: rest =>
    allowed scope operation ∧ Follows allowed (scope.perform operation) rest

/-- A rule for operations that change one user's place in the roster at most, for all operations: a
change of the roster is allowed if its pieces are, one after the other. -/
def Piecewise (allowed : Scope → Operation → Prop) (scope : Scope) : Operation → Prop
  | .applyRosterDiff diff => scope.isOpen = true → scope.Follows allowed diff.pieces
  | operation => allowed scope operation

variable {allowed : Scope → Operation → Prop}

/-- What every allowed operation keeps, a run keeps. -/
theorem Follows.keeps {motive : Scope → Prop} {operations : List Operation}
    (run : scope.Follows allowed operations) (start : motive scope)
    (step : ∀ (s : Scope) (operation), operation ∈ operations → allowed s operation → motive s →
      motive (s.perform operation)) :
    motive (scope.performAll operations) := by
  induction operations generalizing scope with
  | nil => exact start
  | cons operation rest ih =>
    obtain ⟨fits, run⟩ := run
    rw [performAll_cons]
    apply ih run
    · exact step scope operation List.mem_cons_self fits start
    · intro s later member
      exact step s later (List.mem_cons_of_mem _ member)

/-- What every allowed operation other than a whole change of the roster keeps, a run keeps. -/
theorem Follows.keeps_piecewise {motive : Scope → Prop} {operations : List Operation}
    (run : scope.Follows (Piecewise allowed) operations) (start : motive scope)
    (step : ∀ (s : Scope) (operation), operation.isRosterDiff = false → allowed s operation →
      motive s → motive (s.perform operation)) :
    motive (scope.performAll operations) := by
  refine run.keeps start ?_
  intro s operation _ fits holds
  cases operation with
  | applyRosterDiff diff =>
    rw [perform, applyRosterDiff]
    split
    next isOpen =>
      rw [changeRoster_eq_performAll]
      refine (fits isOpen).keeps holds ?_
      intro s' piece member fits' holds'
      refine step s' piece ?_ fits' holds'
      rcases List.mem_append.1 member with removed | added
      · obtain ⟨user, -, rfl⟩ := List.mem_map.1 removed
        rfl
      · obtain ⟨entry, -, rfl⟩ := List.mem_map.1 added
        rfl
    next => exact holds
  | _ => exact step s _ rfl fits holds

/-! ### What single operations leave -/

/-- The session of a user. -/
def session? (scope : Scope) (user : UInt64) : Option Session :=
  scope.connections.session? (scope.key user)

theorem connectionsOf_of_some {user : UInt64} {session : Session}
    (found : scope.session? user = some session) :
    scope.connectionsOf user = session.connections := by
  show ((scope.session? user).map _).getD 0 = _
  rw [found]
  rfl

theorem connectionsOf_of_none {user : UInt64} (unknown : scope.session? user = none) :
    scope.connectionsOf user = 0 := by
  show ((scope.session? user).map _).getD 0 = _
  rw [unknown]
  rfl

@[simp] theorem key_inj {user user' : UInt64} :
    scope.key user = scope.key user' ↔ user = user' := by
  simp [key]

/-- Another session of a user is put in place. -/
theorem session?_setSession (user : UInt64) (session : Session) (user' : UInt64) :
    (scope.connections.setSession (scope.key user) session).session? (scope.key user') =
      if user = user' then some session else scope.session? user' := by
  rw [ConnectionLimiter.session?_setSession]
  simp only [key_inj]
  rfl

/-- A connection of the session that is there is closed, or nothing happens. -/
theorem release_cases (user : UInt64) (ip : IpAddr) (id : Option Nat) :
    (∃ session, scope.session? user = some session ∧ id.all (· = session.id) = true ∧
        (session.device ip).connections ≠ 0 ∧
        (scope.connections.release (scope.key user) ip id).2 =
          scope.connections.setSession (scope.key user) (session.disconnect ip)) ∨
      (scope.connections.release (scope.key user) ip id = (false, scope.connections) ∧
        ∀ session, scope.session? user = some session → id.all (· = session.id) = true →
          (session.device ip).connections = 0) := by
  by_cases opened : ∃ session, scope.session? user = some session ∧
      id.all (· = session.id) = true ∧ (session.device ip).connections ≠ 0
  · obtain ⟨session, known, same, opened⟩ := opened
    refine Or.inl ⟨session, known, same, opened, ?_⟩
    rw [ConnectionLimiter.release_of_open known same opened]
  · have closed : ∀ session, scope.session? user = some session →
        id.all (· = session.id) = true → (session.device ip).connections = 0 := by
      intro session known same
      by_cases zero : (session.device ip).connections = 0
      · exact zero
      · exact absurd ⟨session, known, same, zero⟩ opened
    exact Or.inr ⟨ConnectionLimiter.release_of_not_open closed, closed⟩

/-- The connection of a session that the user does not have is not there to be closed. -/
theorem release_of_ended {user : UInt64} {id : Nat}
    (ended : ∀ session, scope.session? user = some session → session.id ≠ id) (ip : IpAddr) :
    scope.release user ip (some id) = scope := by
  have nothing := @ConnectionLimiter.release_of_not_open scope.connections (scope.key user) ip
    (some id) fun session found same =>
      absurd (by simpa [eq_comm] using same) (ended session found)
  simp [release, nothing]

/-- A connection more is put in the session of a user. -/
theorem session?_admitted (user : UInt64) (ip : IpAddr) {session : Session}
    (joined : scope.connections.sessionOrNew (scope.key user) = session) (user' : UInt64) :
    (scope.connections.admitted (scope.key user) ip).session? (scope.key user') =
      if user = user' then some (session.connect ip) else scope.session? user' := by
  rw [ConnectionLimiter.session?_admitted]
  simp only [key_inj]
  split
  next same => rw [← same, joined]
  next => rfl

theorem connect_of_closed (closed : scope.isOpen = false) (user : UInt64) (ip : IpAddr) :
    scope.connect user ip = (.error scope.closed, scope) := by
  simp [connect, closed]

/-- An open scope refuses a connection without a trace, or grants it and keeps a record. -/
theorem connect_of_open (isOpen : scope.isOpen = true) (user : UInt64) (ip : IpAddr) :
    scope.connect user ip =
      match (scope.connections.sessionOrNew (scope.key user)).refusal? ip
          (scope.admissionLimits user) with
      | some refusal => (.ok (.error refusal), scope)
      | none =>
        (.ok (.ok (scope.connections.sessionOrNew (scope.key user)).id),
          { scope with
            connections := scope.connections.admitted (scope.key user) ip
            speed := scope.speed.ensureUser (scope.key user) }) := by
  unfold connect
  rw [if_pos isOpen, ConnectionLimiter.connect_eq]
  cases (scope.connections.sessionOrNew (scope.key user)).refusal? ip
      (scope.admissionLimits user) with
  | some refusal => rfl
  | none => rfl

theorem release_frame (user : UInt64) (ip : IpAddr) (session : Option Nat) :
    ∃ speed, scope.release user ip session =
      { scope with
        connections := (scope.connections.release (scope.key user) ip session).2
        speed } ∧ ∀ k, speed.record? k = scope.speed.record? k := by
  cases offline : (scope.connections.release (scope.key user) ip session).1 with
  | false => exact ⟨scope.speed, by simp [release, offline], fun _ => rfl⟩
  | true =>
    exact ⟨scope.speed.dropBucket (scope.key user), by simp [release, offline],
      fun _ => SpeedLimiter.record?_dropBucket _⟩

/-- Escalations touch the escalator and the speed limiter only. -/
theorem escalate_frame (now : Timestamp) (entries : List TrafficEntry) :
    ∃ escalator speed, (scope.escalate now entries).2 = { scope with escalator, speed } := by
  induction entries generalizing scope with
  | nil => exact ⟨scope.escalator, scope.speed, rfl⟩
  | cons entry rest ih =>
    obtain ⟨escalator, speed, after⟩ := @ih (scope.escalateEntry entry now).2
    exact ⟨escalator, speed, after⟩

/-- The name of a scope never changes. -/
@[simp] theorem name_perform (operation : Operation) :
    (scope.perform operation).name = scope.name := by
  cases operation with
  | connect user ip =>
    cases isOpen : scope.isOpen with
    | false => rw [perform, connect_of_closed isOpen]
    | true =>
      rw [perform, connect_of_open isOpen]
      split <;> rfl
  | release user ip session =>
    obtain ⟨speed, after, -⟩ := scope.release_frame user ip session
    rw [perform, after]
  | applyRosterDiff diff =>
    exact applyRosterDiff_induction (motive := fun s => s.name = scope.name) rfl
      (fun _ _ same => same) (fun _ _ same => same)
  | escalate now entries =>
    obtain ⟨escalator, speed, after⟩ := scope.escalate_frame now entries
    rw [perform, after]
  | _ => rfl

@[simp] theorem name_performAll (operations : List Operation) :
    (scope.performAll operations).name = scope.name :=
  performAll_induction (motive := fun s => s.name = scope.name) rfl
    fun _ operation _ same => (name_perform operation).trans same

@[simp] theorem key_performAll (operations : List Operation) (user : UInt64) :
    (scope.performAll operations).key user = scope.key user := by
  rw [key, key, name_performAll]

/-! ### Sessions -/

/-- Only connections that are opened and closed change what is counted in a session that stays. -/
theorem keeps_perform {operation : Operation} (h : operation.movesConnections = false) :
    scope.connections.Keeps (scope.perform operation).connections := by
  cases operation with
  | connect user ip => simp [Operation.movesConnections] at h
  | release user ip session => simp [Operation.movesConnections] at h
  | removeUser user => exact ConnectionLimiter.keeps_removeUser
  | applyRosterDiff diff =>
    exact applyRosterDiff_induction (motive := fun s => scope.connections.Keeps s.connections)
      .refl (fun _ _ kept => kept.trans ConnectionLimiter.keeps_removeUser) (fun _ _ kept => kept)
  | escalate now entries =>
    obtain ⟨escalator, speed, after⟩ := scope.escalate_frame now entries
    rw [perform, after]
    exact .refl
  | endWindow => exact ConnectionLimiter.keeps_endWindow _
  | mergeOnline entries => exact ConnectionLimiter.keeps_mergeRemote _
  | discardWindow => exact ConnectionLimiter.keeps_resetWindow
  | teardown => exact ConnectionLimiter.keeps_clear
  | _ => exact .refl

theorem keeps_performAll {operations : List Operation}
    (h : ∀ operation ∈ operations, operation.movesConnections = false) :
    scope.connections.Keeps (scope.performAll operations).connections :=
  performAll_induction (motive := fun s => scope.connections.Keeps s.connections) .refl
    fun _ operation member kept => kept.trans (keeps_perform (h operation member))

theorem keepsNumbers_perform (operation : Operation) :
    scope.connections.KeepsNumbers (scope.perform operation).connections := by
  cases operation with
  | connect user ip =>
    cases isOpen : scope.isOpen with
    | false =>
      rw [perform, connect_of_closed isOpen]
      exact .refl
    | true =>
      rw [perform, connect_of_open isOpen]
      split
      · exact .refl
      · exact ConnectionLimiter.keepsNumbers_admitted ip
  | release user ip remembered =>
    obtain ⟨speed, after, -⟩ := scope.release_frame user ip remembered
    rw [perform, after]
    rcases scope.release_cases user ip remembered with ⟨old, known, -, -, closed⟩ | ⟨nothing, -⟩
    · rw [closed]
      exact ConnectionLimiter.keepsNumbers_setSession known rfl
    · rw [nothing]
      exact .refl
  | _ => exact (keeps_perform rfl).keepsNumbers

/-! ### Limit records -/

/-- The caps of the roster that hold for a user. -/
def standing? (scope : Scope) (user : UInt64) : Option (UInt64 × UInt32) :=
  scope.speed.standing? (scope.key user)

theorem standing?_escalate (now : Timestamp) (entries : List TrafficEntry) (user : UInt64) :
    (scope.escalate now entries).2.standing? user = scope.standing? user := by
  induction entries generalizing scope with
  | nil => rfl
  | cons entry rest ih =>
    have first : (scope.escalateEntry entry now).2.standing? user = scope.standing? user :=
      SpeedLimiter.standing?_accumulate _ _ now _
    exact (@ih (scope.escalateEntry entry now).2).trans first

/-- Only roster changes touch the caps of the roster. -/
theorem standing?_perform {operation : Operation} (h : operation.changesRoster = false)
    {user : UInt64} {caps : UInt64 × UInt32} (known : scope.standing? user = some caps) :
    (scope.perform operation).standing? user = some caps := by
  cases operation with
  | removeUser user => simp [Operation.changesRoster] at h
  | insertUser entry => simp [Operation.changesRoster] at h
  | applyRosterDiff diff => simp [Operation.changesRoster] at h
  | teardown => simp [Operation.changesRoster] at h
  | connect user ip =>
    cases isOpen : scope.isOpen with
    | false =>
      rw [perform, connect_of_closed isOpen]
      exact known
    | true =>
      rw [perform, connect_of_open isOpen]
      split
      · exact known
      · exact SpeedLimiter.standing?_ensureUser known
  | release user ip session =>
    obtain ⟨speed, after, same⟩ := scope.release_frame user ip session
    rw [perform, after]
    exact (SpeedLimiter.standing?_congr (same _)).trans known
  | getBucket user now => exact (SpeedLimiter.standing?_getBucket _ now _).trans known
  | updateBucket user issued =>
    exact (SpeedLimiter.standing?_congr (SpeedLimiter.record?_updateBucket issued _)).trans known
  | effectiveCap user now => exact (SpeedLimiter.standing?_clearExpired now _).trans known
  | escalate now entries => exact (standing?_escalate now entries user).trans known
  | _ => exact known

theorem record?_escalate_of_none (now : Timestamp) (entries : List TrafficEntry) {key : UserKey}
    (unknown : scope.speed.record? key = none) :
    (scope.escalate now entries).2.speed.record? key = none := by
  induction entries generalizing scope with
  | nil => exact unknown
  | cons entry rest ih =>
    refine @ih (scope.escalateEntry entry now).2 ?_
    have kept : (scope.escalateEntry entry now).2.speed.standing? key = scope.speed.standing? key :=
      SpeedLimiter.standing?_accumulate _ _ now _
    rw [SpeedLimiter.standing?, SpeedLimiter.standing?, unknown] at kept
    exact Option.map_eq_none_iff.1 kept

theorem record?_clearExpired_of_none (user : UInt64) (now : Timestamp) {key : UserKey}
    (unknown : scope.speed.record? key = none) :
    (scope.speed.clearExpired (scope.key user) now).record? key = none := by
  rw [SpeedLimiter.record?_clearExpired, unknown]
  split <;> rfl

/-- A limit record is made for a user of the scope only: by a connection or a change of the roster
as long as the scope is open, or by putting the user in place. -/
theorem record?_perform_of_none {operation : Operation} {key : UserKey}
    (unknown : scope.speed.record? key = none)
    (spared : key.scope = scope.name → scope.isOpen = false ∧ operation.isInsert = false) :
    (scope.perform operation).speed.record? key = none := by
  cases operation with
  | connect user ip =>
    cases isOpen : scope.isOpen with
    | false =>
      rw [perform, connect_of_closed isOpen]
      exact unknown
    | true =>
      rw [perform, connect_of_open isOpen]
      split
      · exact unknown
      · refine (SpeedLimiter.record?_ensureUser key).trans ?_
        rw [if_neg, unknown]
        rintro rfl
        rw [(spared rfl).1] at isOpen
        cases isOpen
  | release user ip session =>
    obtain ⟨speed, after, same⟩ := scope.release_frame user ip session
    rw [perform, after]
    exact (same key).trans unknown
  | getBucket user now =>
    exact (SpeedLimiter.record?_getBucket _ now key).trans
      (record?_clearExpired_of_none user now unknown)
  | updateBucket user issued => exact (SpeedLimiter.record?_updateBucket issued key).trans unknown
  | effectiveCap user now => exact record?_clearExpired_of_none user now unknown
  | removeUser user =>
    refine (SpeedLimiter.record?_removeUser key).trans ?_
    rw [unknown]
    split <;> rfl
  | insertUser entry =>
    refine (SpeedLimiter.record?_setRecord _ key).trans ?_
    rw [if_neg, unknown]
    rintro rfl
    cases (spared rfl).2
  | applyRosterDiff diff =>
    by_cases own : key.scope = scope.name
    · rw [perform, applyRosterDiff, (spared own).1]
      exact unknown
    · refine (applyRosterDiff_induction
        (motive := fun s => s.name = scope.name ∧ s.speed.record? key = none) ⟨rfl, unknown⟩
        ?_ ?_).2
      · rintro s user ⟨named, absent⟩
        refine ⟨named, (SpeedLimiter.record?_removeUser key).trans ?_⟩
        rw [absent]
        split <;> rfl
      · rintro s entry ⟨named, absent⟩
        refine ⟨named, (SpeedLimiter.record?_setRecord _ key).trans ?_⟩
        rw [if_neg, absent]
        rintro rfl
        exact own named
  | escalate now entries => exact record?_escalate_of_none now entries unknown
  | teardown => rfl
  | _ => exact unknown

end Scope

end Tollgate
