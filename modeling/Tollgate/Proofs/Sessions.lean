import Tollgate.Connections.Limiter

/-!
# Sessions under the operations of the limiter

What each operation of the connection limiter makes of the session of a user: a connection that is
granted or closed changes one session by one connection from one address (`connect_eq`,
`release_of_open`), and a refusal leaves the limiter as it was. All that is not a connection
granted or closed keeps the counts of open connections of the sessions that stay, and begins
sessions under numbers that were not given before (`ConnectionLimiter.Keeps`).
-/

namespace Tollgate

namespace Session

variable {session : Session}

/-- One connection from an address fewer. -/
def disconnect (session : Session) (ip : IpAddr) : Session :=
  { session with
    connections := session.connections - 1
    devices := session.devices.insert ip
      { session.device ip with connections := (session.device ip).connections - 1 } }

theorem disconnect?_eq (ip : IpAddr) :
    session.disconnect? ip =
      if (session.device ip).connections = 0 then none else some (session.disconnect ip) := rfl

theorem device_disconnect (ip ip' : IpAddr) :
    (session.disconnect ip).device ip' =
      if ip = ip' then
        { session.device ip' with connections := (session.device ip').connections - 1 }
      else session.device ip' := by
  simp only [device, disconnect, Table.get?_insert]
  split
  next same => subst same; rfl
  next => rfl

/-- A session that has just begun takes every connection. -/
theorem refusal?_new (id : Nat) (ip : IpAddr) (limits : AdmissionLimits) :
    ({ id := id } : Session).refusal? ip limits = none := by
  have none_active : ({ id := id } : Session).activeDevices = 0 := rfl
  have none_open : ({ id := id } : Session).connections = 0 := rfl
  unfold refusal?
  rw [none_active, none_open, if_neg (by omega), if_neg (by omega)]

/-! ### Counts of open connections -/

/-- The same session with the same open connections; devices that other nodes report may differ. -/
structure SameConnections (before after : Session) : Prop where
  id_eq : after.id = before.id
  connections_eq : after.connections = before.connections
  device_eq : ∀ ip, (after.device ip).connections = (before.device ip).connections

/-- A session without open connections. -/
structure IsIdle (session : Session) : Prop where
  connections_eq : session.connections = 0
  device_eq : ∀ ip, (session.device ip).connections = 0

theorem SameConnections.refl : session.SameConnections session := ⟨rfl, rfl, fun _ => rfl⟩

theorem SameConnections.trans {first second third : Session} (h : first.SameConnections second)
    (h' : second.SameConnections third) : first.SameConnections third where
  id_eq := h'.id_eq.trans h.id_eq
  connections_eq := h'.connections_eq.trans h.connections_eq
  device_eq ip := (h'.device_eq ip).trans (h.device_eq ip)

theorem SameConnections.isIdle {before after : Session} (h : before.SameConnections after)
    (idle : before.IsIdle) : after.IsIdle where
  connections_eq := h.connections_eq.trans idle.connections_eq
  device_eq ip := (h.device_eq ip).trans (idle.device_eq ip)

theorem isIdle_new (id : Nat) : ({ id := id } : Session).IsIdle := ⟨rfl, fun _ => rfl⟩

theorem sameConnections_afterWindow : session.SameConnections session.afterWindow where
  id_eq := rfl
  connections_eq := rfl
  device_eq ip := by rw [device_afterWindow]

theorem sameConnections_markRemote (ip : IpAddr) :
    session.SameConnections (session.markRemote ip) where
  id_eq := rfl
  connections_eq := rfl
  device_eq ip' := by
    rw [device_markRemote]
    split <;> rfl

theorem sameConnections_markAllRemote (ips : List IpAddr) :
    session.SameConnections (session.markAllRemote ips) := by
  induction ips generalizing session with
  | nil => exact SameConnections.refl
  | cons ip rest ih => exact (sameConnections_markRemote ip).trans ih

end Session

namespace ConnectionLimiter

variable {limiter : ConnectionLimiter} {key : UserKey}

/-! ### Connections granted and closed -/

/-- The session of a user, or the one that would begin now. -/
def sessionOrNew (limiter : ConnectionLimiter) (key : UserKey) : Session :=
  (limiter.session? key).getD { id := limiter.nextSession }

theorem sessionOrNew_of_some {session : Session} (found : limiter.session? key = some session) :
    limiter.sessionOrNew key = session := by
  rw [sessionOrNew, found, Option.getD_some]

theorem sessionOrNew_of_none (unknown : limiter.session? key = none) :
    limiter.sessionOrNew key = { id := limiter.nextSession } := by
  rw [sessionOrNew, unknown, Option.getD_none]

/-- The limiter with a connection more. -/
def admitted (limiter : ConnectionLimiter) (key : UserKey) (ip : IpAddr) : ConnectionLimiter where
  sessions := limiter.sessions.insert key ((limiter.sessionOrNew key).connect ip)
  nextSession :=
    if (limiter.session? key).isSome then limiter.nextSession else limiter.nextSession + 1

theorem le_nextSession_admitted (ip : IpAddr) :
    limiter.nextSession ≤ (limiter.admitted key ip).nextSession := by
  unfold admitted
  dsimp only
  split
  · exact Nat.le_refl _
  · exact Nat.le_succ _

theorem session?_admitted (ip : IpAddr) (k : UserKey) :
    (limiter.admitted key ip).session? k =
      if key = k then some ((limiter.sessionOrNew k).connect ip) else limiter.session? k := by
  simp only [session?, admitted, Table.get?_insert]
  split
  next same => subst same; rfl
  next => rfl

/-- A connection is refused by the session that is there, without a trace, or else it is counted. -/
theorem connect_eq (ip : IpAddr) (limits : AdmissionLimits) :
    limiter.connect key ip limits =
      match (limiter.sessionOrNew key).refusal? ip limits with
      | some refusal => (.error refusal, limiter)
      | none => (.ok (limiter.sessionOrNew key).id, limiter.admitted key ip) := by
  cases found : limiter.session? key with
  | some session =>
    have here := sessionOrNew_of_some found
    simp only [connect, openSession_of_some found, here]
    cases session.refusal? ip limits with
    | some refusal => rfl
    | none => simp [admitted, setSession, here, found]
  | none =>
    have here := sessionOrNew_of_none found
    simp only [connect, openSession_of_none found, here, Session.refusal?_new]
    simp [admitted, setSession, here, found, Table.insert_insert]

theorem release_of_open {session : Session} {ip : IpAddr} {id : Option Nat}
    (found : limiter.session? key = some session) (same : id.all (· = session.id) = true)
    (opened : (session.device ip).connections ≠ 0) :
    limiter.release key ip id =
      (decide (session.connections - 1 = 0), limiter.setSession key (session.disconnect ip)) := by
  have kept : (some session).filter (fun s => id.all (· = s.id)) = some session := by
    rw [Option.filter_some, if_pos same]
  simp only [release, found, kept, Session.disconnect?_eq, if_neg opened]
  rfl

/-- Where there is no such connection of such a session, nothing happens. -/
theorem release_of_not_open {ip : IpAddr} {id : Option Nat}
    (closed : ∀ session, limiter.session? key = some session → id.all (· = session.id) = true →
      (session.device ip).connections = 0) :
    limiter.release key ip id = (false, limiter) := by
  unfold release
  cases kept : (limiter.session? key).filter (fun s => id.all (· = s.id)) with
  | none => rfl
  | some session =>
    obtain ⟨found, same⟩ := Option.filter_eq_some_iff.1 kept
    simp only [Session.disconnect?_eq, if_pos (closed session found same)]

/-! ### What keeps the counts of open connections -/

/-- Sessions are kept with their open connections, or end, or begin without any and under a number
that was not given before. -/
structure Keeps (before after : ConnectionLimiter) : Prop where
  nextSession_le : before.nextSession ≤ after.nextSession
  session_cases : ∀ key session, after.session? key = some session →
    (∃ old, before.session? key = some old ∧ old.SameConnections session) ∨
      (session.IsIdle ∧ before.nextSession ≤ session.id ∧ session.id < after.nextSession)

theorem Keeps.refl : limiter.Keeps limiter where
  nextSession_le := Nat.le_refl _
  session_cases _ session found := Or.inl ⟨session, found, Session.SameConnections.refl⟩

theorem Keeps.trans {first second third : ConnectionLimiter} (h : first.Keeps second)
    (h' : second.Keeps third) : first.Keeps third where
  nextSession_le := Nat.le_trans h.nextSession_le h'.nextSession_le
  session_cases key session found := by
    have le := h.nextSession_le
    have le' := h'.nextSession_le
    rcases h'.session_cases key session found with ⟨middle, found', same'⟩ | ⟨idle, above, below⟩
    · rcases h.session_cases key middle found' with ⟨old, found'', same⟩ | ⟨idle, above, below⟩
      · exact Or.inl ⟨old, found'', same.trans same'⟩
      · have id_eq := same'.id_eq
        exact Or.inr ⟨same'.isIdle idle, by omega, by omega⟩
    · exact Or.inr ⟨idle, by omega, below⟩

/-- Sessions that only end, and none that begins. -/
theorem keeps_of_subset {after : ConnectionLimiter} (next : after.nextSession = limiter.nextSession)
    (subset : ∀ k session, after.session? k = some session →
      ∃ old, limiter.session? k = some old ∧ old.SameConnections session) :
    limiter.Keeps after where
  nextSession_le := Nat.le_of_eq next.symm
  session_cases k session found := Or.inl (subset k session found)

theorem keeps_removeUser : limiter.Keeps (limiter.removeUser key) := by
  refine keeps_of_subset rfl ?_
  intro k session found
  rw [session?_removeUser] at found
  split at found
  · cases found
  · exact ⟨session, found, Session.SameConnections.refl⟩

theorem keeps_clear : limiter.Keeps limiter.clear := by
  refine keeps_of_subset rfl ?_
  intro k session found
  cases found

theorem keeps_closeWindow {update : UserKey → Session → Session}
    (same : ∀ k (session : Session), session.SameConnections (update k session)) :
    limiter.Keeps (limiter.closeWindow update) := by
  refine keeps_of_subset rfl ?_
  intro k session found
  rw [session?_closeWindow, Option.filter_eq_some_iff, Option.map_eq_some_iff] at found
  obtain ⟨⟨old, found, rfl⟩, -⟩ := found
  exact ⟨old, found, Session.sameConnections_afterWindow.trans (same k _)⟩

theorem keeps_resetWindow : limiter.Keeps limiter.resetWindow :=
  keeps_closeWindow fun _ _ => Session.SameConnections.refl

theorem keeps_endWindow (recorderEnabled : Bool) :
    limiter.Keeps (limiter.endWindow recorderEnabled) := by
  unfold endWindow
  split
  · exact Keeps.refl
  · exact keeps_resetWindow

theorem keeps_markRemote (ips : List IpAddr) : limiter.Keeps (limiter.markRemote key ips) := by
  unfold markRemote
  split
  · exact Keeps.refl
  cases found : limiter.session? key with
  | some old =>
    rw [openSession_of_some found]
    refine keeps_of_subset rfl ?_
    intro k session found'
    rw [session?_setSession] at found'
    split at found'
    next same =>
      subst same
      cases found'
      exact ⟨old, found, Session.sameConnections_markAllRemote ips⟩
    next => exact ⟨session, found', Session.SameConnections.refl⟩
  | none =>
    rw [openSession_of_none found]
    refine ⟨Nat.le_succ _, ?_⟩
    intro k session found'
    rw [session?_setSession] at found'
    split at found'
    next same =>
      cases found'
      have marked := @Session.sameConnections_markAllRemote { id := limiter.nextSession } ips
      exact Or.inr ⟨marked.isIdle (Session.isIdle_new _), Nat.le_of_eq marked.id_eq.symm,
        Nat.lt_succ_of_le (Nat.le_of_eq marked.id_eq)⟩
    next differs =>
      have untouched : limiter.session? k = some session := by
        have looked := @session?_setSession limiter key { id := limiter.nextSession } k
        rw [if_neg differs] at looked
        exact looked.symm.trans found'
      exact Or.inl ⟨session, untouched, Session.SameConnections.refl⟩

/-- What the end of the window keeps, and what is kept whoever is marked, a merge keeps. -/
theorem mergeRemote_induction {motive : ConnectionLimiter → Prop} {view : OnlineView}
    (close : motive (limiter.closeWindow fun key session =>
      session.markAllRemote ((view.get? key).getD [])))
    (mark : ∀ (l : ConnectionLimiter) (key : UserKey) (ips : List IpAddr), motive l →
      motive (l.markRemote key ips)) : motive (limiter.mergeRemote view) := by
  unfold mergeRemote
  refine List.foldlRecOn _ _ close ?_
  intro l kept entry _
  exact mark l entry.1 entry.2 kept

theorem keeps_mergeRemote (view : OnlineView) : limiter.Keeps (limiter.mergeRemote view) := by
  apply mergeRemote_induction
  · exact keeps_closeWindow fun _ _ => Session.sameConnections_markAllRemote _
  · intro l key ips kept
    exact kept.trans (keeps_markRemote ips)

/-! ### Numbers of sessions -/

/-- Sessions keep their numbers, and a session that begins gets one that was not given before. -/
structure KeepsNumbers (before after : ConnectionLimiter) : Prop where
  nextSession_le : before.nextSession ≤ after.nextSession
  id_cases : ∀ key session, after.session? key = some session →
    (∃ old, before.session? key = some old ∧ old.id = session.id) ∨
      (before.nextSession ≤ session.id ∧ session.id < after.nextSession)

theorem KeepsNumbers.refl : limiter.KeepsNumbers limiter where
  nextSession_le := Nat.le_refl _
  id_cases _ session found := Or.inl ⟨session, found, rfl⟩

theorem Keeps.keepsNumbers {after : ConnectionLimiter} (h : limiter.Keeps after) :
    limiter.KeepsNumbers after where
  nextSession_le := h.nextSession_le
  id_cases key session found := by
    rcases h.session_cases key session found with ⟨old, known, same⟩ | ⟨-, late, begun⟩
    · exact Or.inl ⟨old, known, same.id_eq.symm⟩
    · exact Or.inr ⟨late, begun⟩

theorem keepsNumbers_setSession {old session : Session} (known : limiter.session? key = some old)
    (same : session.id = old.id) : limiter.KeepsNumbers (limiter.setSession key session) where
  nextSession_le := Nat.le_refl _
  id_cases k later found := by
    rw [session?_setSession] at found
    split at found
    next own =>
      obtain rfl := Option.some.inj found
      exact Or.inl ⟨old, own ▸ known, same.symm⟩
    next => exact Or.inl ⟨later, found, rfl⟩

theorem keepsNumbers_admitted (ip : IpAddr) : limiter.KeepsNumbers (limiter.admitted key ip) where
  nextSession_le := le_nextSession_admitted ip
  id_cases k later found := by
    rw [session?_admitted] at found
    split at found
    next own =>
      subst own
      obtain rfl := Option.some.inj found
      cases known : limiter.session? key with
      | some old =>
        rw [sessionOrNew_of_some known]
        exact Or.inl ⟨old, rfl, rfl⟩
      | none =>
        rw [sessionOrNew_of_none known]
        refine Or.inr ⟨Nat.le_refl _, ?_⟩
        simp [Session.connect, admitted, known]
    next => exact Or.inl ⟨later, found, rfl⟩

/-! ### The number of open connections -/

theorem connections_of_some {session : Session} (found : limiter.session? key = some session) :
    limiter.connections key = session.connections := by
  rw [connections, found]
  rfl

theorem connections_of_none (unknown : limiter.session? key = none) :
    limiter.connections key = 0 := by
  rw [connections, unknown]
  rfl

theorem connections_congr {after : ConnectionLimiter}
    (same : after.session? key = limiter.session? key) :
    after.connections key = limiter.connections key := by
  rw [connections, connections, same]

/-- A session that ends with a window has no open connection. -/
theorem connections_closeWindow {update : UserKey → Session → Session}
    (same : ∀ k (session : Session), session.SameConnections (update k session)) :
    (limiter.closeWindow update).connections key = limiter.connections key := by
  have look := @session?_closeWindow limiter update key
  cases found : limiter.session? key with
  | none =>
    rw [found] at look
    rw [connections_of_none found, connections_of_none look]
  | some session =>
    have kept : session.SameConnections (update key session.afterWindow) :=
      Session.sameConnections_afterWindow.trans (same key _)
    rw [found, Option.map_some, Option.filter_some] at look
    rw [connections_of_some found, ← kept.connections_eq]
    split at look
    · exact connections_of_some look
    next ended =>
      simp only [Session.isEmpty, Bool.not_eq_true', Bool.not_eq_false, Bool.and_eq_true,
        decide_eq_true_eq] at ended
      rw [connections_of_none look, ended.1]

theorem connections_resetWindow : limiter.resetWindow.connections key = limiter.connections key :=
  connections_closeWindow fun _ _ => Session.SameConnections.refl

theorem connections_endWindow (recorderEnabled : Bool) :
    (limiter.endWindow recorderEnabled).connections key = limiter.connections key := by
  unfold endWindow
  split
  · rfl
  · exact connections_resetWindow

theorem connections_markRemote (k : UserKey) (ips : List IpAddr) :
    (limiter.markRemote k ips).connections key = limiter.connections key := by
  unfold markRemote
  split
  · rfl
  cases found : limiter.session? k with
  | some session =>
    rw [openSession_of_some found]
    by_cases own : k = key
    · subst own
      have marked := @Session.sameConnections_markAllRemote session ips
      have look := @session?_setSession limiter k (session.markAllRemote ips) k
      rw [if_pos rfl] at look
      rw [connections_of_some look, connections_of_some found, marked.connections_eq]
    · have look := @session?_setSession limiter k (session.markAllRemote ips) key
      rw [if_neg own] at look
      exact connections_congr look
  | none =>
    rw [openSession_of_none found]
    by_cases own : k = key
    · subst own
      have marked := @Session.sameConnections_markAllRemote { id := limiter.nextSession } ips
      rw [connections_of_none found]
      refine (connections_of_some ?_).trans marked.connections_eq
      rw [session?_setSession, if_pos rfl]
    · refine connections_congr ?_
      rw [session?_setSession, if_neg own]
      have look := @session?_setSession limiter k { id := limiter.nextSession } key
      rw [if_neg own] at look
      exact look

/-- The word of other nodes neither opens nor closes a connection. -/
theorem connections_mergeRemote (view : OnlineView) :
    (limiter.mergeRemote view).connections key = limiter.connections key := by
  refine mergeRemote_induction (motive := fun l => l.connections key = limiter.connections key) ?_ ?_
  · exact connections_closeWindow fun _ _ => Session.sameConnections_markAllRemote _
  · intro l k ips same
    exact (connections_markRemote k ips).trans same

end ConnectionLimiter

end Tollgate
