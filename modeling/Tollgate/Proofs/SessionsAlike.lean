import Tollgate.Proofs.Sessions

/-!
# Sessions that are alike for one user

The limiter numbers sessions with a counter that all users share. So the same done for one user
among different others gives sessions under different numbers, and two limiters that hold the same
for a user agree up to names for the numbers (`ConnectionLimiter.Alike`).

What is done for the user keeps two limiters alike if it is done to both, and what is done for
another user if it is done to the first only. The word of other nodes is about many users; it keeps
them alike if the second limiter gets what is about the user alone (`Alike.mergeReported`).
-/

namespace Tollgate

/-- What steps keep that are taken on both sides, or on the first side only where the second leaves
them out, the whole list keeps. -/
theorem foldl_filter_induction {σ τ β : Type} {motive : σ → τ → Prop} {f : σ → β → σ}
    {g : τ → β → τ} {kept : β → Bool} {first : σ} {second : τ} (steps : List β)
    (start : motive first second)
    (both : ∀ s t step, kept step = true → motive s t → motive (f s step) (g t step))
    (one : ∀ s t step, kept step = false → motive s t → motive (f s step) t) :
    motive (steps.foldl f first) ((steps.filter kept).foldl g second) := by
  induction steps generalizing first second with
  | nil => exact start
  | cons step rest ih =>
    cases own : kept step with
    | true =>
      rw [List.filter_cons_of_pos own, List.foldl_cons, List.foldl_cons]
      exact ih (both first second step own start)
    | false =>
      rw [List.filter_cons_of_neg (by simp [own]), List.foldl_cons]
      exact ih (one first second step own start)

/-! ### One key of a table -/

namespace Table

variable {κ α : Type} [Ord κ] [Std.LawfulEqOrd κ] [DecidableEq κ]

/-- A table lists at most one entry for a key. -/
theorem filter_toList (t : Table κ α) (k : κ) :
    t.toList.filter (·.1 = k) = ((t.get? k).map fun v => (k, v)).toList := by
  have members : ∀ x, x ∈ t.toList.filter (·.1 = k) ↔
      x ∈ ((t.get? k).map fun v => (k, v)).toList := by
    rintro ⟨k', v⟩
    simp only [List.mem_filter, mem_toList_iff, decide_eq_true_eq, Option.mem_toList,
      Option.map_eq_some_iff, Prod.mk.injEq]
    grind
  have once : (t.toList.filter (·.1 = k)).Nodup := (nodup_of_ascending t.ascending).filter _
  cases found : t.get? k with
  | none =>
    rw [found] at members
    exact List.eq_nil_iff_forall_not_mem.2 fun x member => by simpa using (members x).1 member
  | some v =>
    rw [found] at members
    have single : (((some v).map fun v => (k, v)).toList).Nodup := by simp
    exact List.perm_singleton.1 ((List.perm_ext_iff_of_nodup once single).2 members)

/-- Of several entries for a key the last counts. -/
theorem get?_ofList [Std.TransOrd κ] (es : List (κ × α)) (k : κ) :
    (ofList es).get? k = (es.filter (·.1 = k)).foldl (fun _ e => some e.2) none := by
  refine foldl_filter_induction (motive := fun (t : Table κ α) found => t.get? k = found) es
    (get?_empty k) ?_ ?_
  · intro t found e own _
    rw [get?_insert, if_pos (by simpa using own)]
  · intro t found e other same
    rw [get?_insert, if_neg (by simpa using other), same]

end Table

/-! ### Sessions -/

namespace Session

/-- A session under the name of its number. -/
def renamed (names : Nat → Nat) (session : Session) : Session :=
  { session with id := names session.id }

variable {names names' : Nat → Nat} {session session' : Session}

/-- Sessions that agree up to their names have the same connections and devices. -/
theorem contents_of_renamed (same : session'.renamed names' = session.renamed names) :
    session'.connections = session.connections ∧ session'.devices = session.devices := by
  have connections := congrArg Session.connections same
  have devices := congrArg Session.devices same
  exact ⟨connections, devices⟩

theorem activeDevices_of_renamed (same : session'.renamed names' = session.renamed names) :
    session'.activeDevices = session.activeDevices := by
  obtain ⟨-, devices⟩ := contents_of_renamed same
  rw [activeDevices, activeDevices, activeIps, activeIps, devices]

/-- Nobody is refused on account of the number of a session. -/
theorem refusal?_of_renamed (same : session'.renamed names' = session.renamed names) (ip : IpAddr)
    (limits : AdmissionLimits) : session'.refusal? ip limits = session.refusal? ip limits := by
  obtain ⟨connections, devices⟩ := contents_of_renamed same
  have active : session'.isActive ip = session.isActive ip := by
    rw [isActive, isActive, device, device, devices]
  rw [refusal?, refusal?, connections, active, activeDevices_of_renamed same]

theorem renamed_markAllRemote (ips : List IpAddr) :
    (session.markAllRemote ips).renamed names = (session.renamed names).markAllRemote ips := by
  induction ips generalizing session with
  | nil => rfl
  | cons ip rest ih => exact @ih (session.markRemote ip)

end Session

namespace ConnectionLimiter

/-- Two limiters with the same session of a user, up to the name of its number. Numbers that were
not given yet have no name. -/
structure Alike (key : UserKey) (names names' : Nat → Nat) (unnamed : Nat)
    (limiter limiter' : ConnectionLimiter) : Prop where
  session_eq : (limiter'.session? key).map (·.renamed names') =
    (limiter.session? key).map (·.renamed names)
  fresh : ∀ number, limiter.nextSession ≤ number → names number = unnamed
  fresh' : ∀ number, limiter'.nextSession ≤ number → names' number = unnamed

variable {key : UserKey} {names names' : Nat → Nat} {unnamed : Nat}
  {limiter limiter' : ConnectionLimiter}

namespace Alike

theorem session_cases (h : Alike key names names' unnamed limiter limiter') :
    (limiter.session? key = none ∧ limiter'.session? key = none) ∨
      ∃ session session', limiter.session? key = some session ∧
        limiter'.session? key = some session' ∧
        session'.renamed names' = session.renamed names := by
  have same := h.session_eq
  cases found : limiter.session? key with
  | none =>
    rw [found] at same
    exact Or.inl ⟨rfl, Option.map_eq_none_iff.1 same⟩
  | some session =>
    rw [found] at same
    obtain ⟨session', found', renamed⟩ := Option.map_eq_some_iff.1 same
    exact Or.inr ⟨session, session', rfl, found', renamed⟩

theorem sessionOrNew_eq (h : Alike key names names' unnamed limiter limiter') :
    (limiter'.sessionOrNew key).renamed names' = (limiter.sessionOrNew key).renamed names := by
  rcases h.session_cases with ⟨unknown, unknown'⟩ | ⟨session, session', found, found', same⟩
  · rw [sessionOrNew_of_none unknown, sessionOrNew_of_none unknown', Session.renamed,
      Session.renamed, h.fresh _ (Nat.le_refl _), h.fresh' _ (Nat.le_refl _)]
  · rw [sessionOrNew_of_some found, sessionOrNew_of_some found', same]

/-- The user has a session on both sides from now on. -/
theorem of_some (h : Alike key names names' unnamed limiter limiter') {session session' : Session}
    {after after' : ConnectionLimiter} (found : after.session? key = some session)
    (found' : after'.session? key = some session')
    (same : session'.renamed names' = session.renamed names)
    (next : limiter.nextSession ≤ after.nextSession)
    (next' : limiter'.nextSession ≤ after'.nextSession) :
    Alike key names names' unnamed after after' where
  session_eq := by rw [found, found', Option.map_some, Option.map_some, same]
  fresh number later := h.fresh number (Nat.le_trans next later)
  fresh' number later := h.fresh' number (Nat.le_trans next' later)

/-- Nothing happens to the session of the user on the first side, and nothing at all on the second.
-/
theorem of_spared (h : Alike key names names' unnamed limiter limiter')
    {after : ConnectionLimiter} (spared : after.session? key = limiter.session? key)
    (next : limiter.nextSession ≤ after.nextSession) :
    Alike key names names' unnamed after limiter' where
  session_eq := by rw [spared, h.session_eq]
  fresh number later := h.fresh number (Nat.le_trans next later)
  fresh' := h.fresh'

theorem admitted (h : Alike key names names' unnamed limiter limiter') (ip : IpAddr) :
    Alike key names names' unnamed (limiter.admitted key ip) (limiter'.admitted key ip) := by
  have joined := @session?_admitted limiter key ip key
  have joined' := @session?_admitted limiter' key ip key
  rw [if_pos rfl] at joined joined'
  exact h.of_some joined joined' (congrArg (Session.connect · ip) h.sessionOrNew_eq)
    (le_nextSession_admitted ip) (le_nextSession_admitted ip)

theorem admitted_other (h : Alike key names names' unnamed limiter limiter') {other : UserKey}
    (differs : other ≠ key) (ip : IpAddr) :
    Alike key names names' unnamed (limiter.admitted other ip) limiter' := by
  refine h.of_spared ?_ (le_nextSession_admitted ip)
  rw [session?_admitted, if_neg differs]

/-- A connection is closed on both sides, of whatever session it is or of the session that the user
has. -/
theorem release (h : Alike key names names' unnamed limiter limiter') (ip : IpAddr)
    {id id' : Option Nat}
    (same : ∀ session session', limiter.session? key = some session →
      limiter'.session? key = some session' →
        id'.all (· = session'.id) = id.all (· = session.id)) :
    (limiter'.release key ip id').1 = (limiter.release key ip id).1 ∧
      Alike key names names' unnamed (limiter.release key ip id).2
        (limiter'.release key ip id').2 := by
  rcases h.session_cases with ⟨unknown, unknown'⟩ | ⟨session, session', found, found', renamed⟩
  · have nothing : limiter.release key ip id = (false, limiter) :=
      release_of_not_open fun _ known _ => by cases unknown.symm.trans known
    have nothing' : limiter'.release key ip id' = (false, limiter') :=
      release_of_not_open fun _ known _ => by cases unknown'.symm.trans known
    rw [nothing, nothing']
    exact ⟨rfl, h⟩
  · have named := same session session' found found'
    obtain ⟨connections, devices⟩ := Session.contents_of_renamed renamed
    have device : session'.device ip = session.device ip := by
      rw [Session.device, Session.device, devices]
    by_cases opened : id.all (· = session.id) = true ∧ (session.device ip).connections ≠ 0
    · rw [release_of_open found opened.1 opened.2,
        release_of_open found' (named.trans opened.1) (by rw [device]; exact opened.2)]
      refine ⟨by rw [connections], ?_⟩
      have closed := @session?_setSession limiter key (session.disconnect ip) key
      have closed' := @session?_setSession limiter' key (session'.disconnect ip) key
      rw [if_pos rfl] at closed closed'
      exact h.of_some closed closed' (congrArg (Session.disconnect · ip) renamed) (Nat.le_refl _)
        (Nat.le_refl _)
    · have shut : ∀ s, limiter.session? key = some s → id.all (· = s.id) = true →
          (s.device ip).connections = 0 := by
        intro s known fits
        rw [found] at known
        obtain rfl := Option.some.inj known
        by_cases zero : (session.device ip).connections = 0
        · exact zero
        · exact absurd ⟨fits, zero⟩ opened
      have shut' : ∀ s, limiter'.session? key = some s → id'.all (· = s.id) = true →
          (s.device ip).connections = 0 := by
        intro s known fits
        rw [found'] at known
        obtain rfl := Option.some.inj known
        rw [device]
        exact shut session found (named.symm.trans fits)
      rw [release_of_not_open shut, release_of_not_open shut']
      exact ⟨rfl, h⟩

theorem release_other (h : Alike key names names' unnamed limiter limiter') {other : UserKey}
    (differs : other ≠ key) (ip : IpAddr) (id : Option Nat) :
    Alike key names names' unnamed (limiter.release other ip id).2 limiter' := by
  by_cases opened : ∃ session, limiter.session? other = some session ∧
      id.all (· = session.id) = true ∧ (session.device ip).connections ≠ 0
  · obtain ⟨session, known, fits, opened⟩ := opened
    rw [release_of_open known fits opened]
    refine h.of_spared ?_ (Nat.le_refl _)
    rw [session?_setSession, if_neg differs]
  · have shut : ∀ session, limiter.session? other = some session →
        id.all (· = session.id) = true → (session.device ip).connections = 0 := by
      intro session known fits
      by_cases zero : (session.device ip).connections = 0
      · exact zero
      · exact absurd ⟨session, known, fits, zero⟩ opened
    rw [release_of_not_open shut]
    exact h

theorem removeUser (h : Alike key names names' unnamed limiter limiter') :
    Alike key names names' unnamed (limiter.removeUser key) (limiter'.removeUser key) where
  session_eq := by rw [session?_removeUser, session?_removeUser, if_pos rfl, if_pos rfl]; rfl
  fresh := h.fresh
  fresh' := h.fresh'

theorem removeUser_other (h : Alike key names names' unnamed limiter limiter') {other : UserKey}
    (differs : other ≠ key) : Alike key names names' unnamed (limiter.removeUser other) limiter' := by
  refine h.of_spared ?_ (Nat.le_refl _)
  rw [session?_removeUser, if_neg differs]

/-- The window closes on both sides with the same word about the user. -/
theorem closeWindow (h : Alike key names names' unnamed limiter limiter')
    {update update' : UserKey → Session → Session}
    (same : ∀ session session', session'.renamed names' = session.renamed names →
      (update' key session').renamed names' = (update key session).renamed names) :
    Alike key names names' unnamed (limiter.closeWindow update) (limiter'.closeWindow update') where
  session_eq := by
    rw [session?_closeWindow, session?_closeWindow]
    rcases h.session_cases with ⟨unknown, unknown'⟩ | ⟨session, session', found, found', renamed⟩
    · rw [unknown, unknown']
      rfl
    · have later := same session.afterWindow session'.afterWindow
        (congrArg Session.afterWindow renamed)
      obtain ⟨connections, devices⟩ := Session.contents_of_renamed later
      have ended : (update' key session'.afterWindow).isEmpty =
          (update key session.afterWindow).isEmpty := by
        rw [Session.isEmpty, Session.isEmpty, connections, devices]
      rw [found, found', Option.map_some, Option.map_some, Option.filter_some, Option.filter_some,
        ended]
      split
      · exact congrArg some later
      · rfl
  fresh := h.fresh
  fresh' := h.fresh'

theorem resetWindow (h : Alike key names names' unnamed limiter limiter') :
    Alike key names names' unnamed limiter.resetWindow limiter'.resetWindow :=
  h.closeWindow fun _ _ renamed => renamed

end Alike

/-- Devices that are reported are marked in the session that is there, or in a new one. -/
theorem session?_markRemote (ips : List IpAddr) (k : UserKey) :
    (limiter.markRemote key ips).session? k =
      if key = k ∧ ips.isEmpty = false then some ((limiter.sessionOrNew k).markAllRemote ips)
      else limiter.session? k := by
  unfold markRemote
  cases ips.isEmpty with
  | true => simp
  | false =>
    by_cases same : key = k
    · subst same
      cases found : limiter.session? key with
      | some session =>
        rw [openSession_of_some found, sessionOrNew_of_some found]
        simp [session?_setSession]
      | none =>
        rw [openSession_of_none found, sessionOrNew_of_none found]
        simp [session?_setSession]
    · cases found : limiter.session? key with
      | some session =>
        rw [openSession_of_some found]
        simp [session?_setSession, same]
      | none =>
        have untouched := @session?_setSession limiter key { id := limiter.nextSession } k
        rw [if_neg same] at untouched
        rw [openSession_of_none found]
        simp [session?_setSession, same]
        exact untouched

namespace Alike

theorem markRemote (h : Alike key names names' unnamed limiter limiter') (ips : List IpAddr) :
    Alike key names names' unnamed (limiter.markRemote key ips) (limiter'.markRemote key ips) := by
  have next := (@keeps_markRemote limiter key ips).nextSession_le
  have next' := (@keeps_markRemote limiter' key ips).nextSession_le
  have marked := @session?_markRemote key limiter ips key
  have marked' := @session?_markRemote key limiter' ips key
  cases empty : ips.isEmpty with
  | true =>
    obtain rfl := List.isEmpty_iff.1 empty
    exact h
  | false =>
    rw [if_pos ⟨rfl, empty⟩] at marked marked'
    refine h.of_some marked marked' ?_ next next'
    rw [Session.renamed_markAllRemote, Session.renamed_markAllRemote, h.sessionOrNew_eq]

theorem markRemote_other (h : Alike key names names' unnamed limiter limiter') {other : UserKey}
    (differs : other ≠ key) (ips : List IpAddr) :
    Alike key names names' unnamed (limiter.markRemote other ips) limiter' := by
  refine h.of_spared ?_ (keeps_markRemote ips).nextSession_le
  rw [session?_markRemote, if_neg fun both => differs both.1]

end Alike

/-- What is reported of one user is what is reported of all, looked up for that user. -/
theorem get?_ofUserIps_filter (scope : String) (entries : List UserIps) (user : UInt64)
    (k : UserKey) :
    (OnlineView.ofUserIps scope (entries.filter (·.userId = user))).get? k =
      if k = ⟨scope, user⟩ then (OnlineView.ofUserIps scope entries).get? k else none := by
  simp only [OnlineView.ofUserIps, Table.get?_ofList, List.filter_map, List.filter_filter]
  split
  next own =>
    subst own
    congr 2
    refine List.filter_congr fun entry _ => ?_
    simp only [Function.comp, UserKey.mk.injEq, true_and]
    by_cases same : entry.userId = user <;> simp [same]
  next other =>
    rw [List.filter_eq_nil_iff.2]
    · rfl
    · intro entry _ fits
      simp only [Function.comp, Bool.and_eq_true, decide_eq_true_eq] at fits
      exact other (fits.1.symm.trans (by rw [fits.2.2]))

namespace Alike

/-- The window ends with the word of other nodes about everybody on the first side, and about the
user alone on the second. -/
theorem mergeReported (h : Alike key names names' unnamed limiter limiter') (entries : List UserIps) :
    Alike key names names' unnamed (limiter.mergeReported key.scope entries)
      (limiter'.mergeReported key.scope (entries.filter (·.userId = key.user))) := by
  unfold ConnectionLimiter.mergeReported
  have looked := get?_ofUserIps_filter key.scope entries key.user
  generalize OnlineView.ofUserIps key.scope entries = view at looked
  generalize OnlineView.ofUserIps key.scope (entries.filter (·.userId = key.user)) = view' at looked
  have same : view'.get? key = view.get? key := by rw [looked, if_pos rfl]
  have alone : view'.toList = view.toList.filter (·.1 = key) := by
    have own : view'.toList.filter (·.1 = key) = view'.toList := by
      refine List.filter_eq_self.2 ?_
      rintro ⟨k, ips⟩ member
      have found := looked k
      rw [Table.mem_toList_iff.1 member] at found
      by_cases this : k = key
      · simpa using this
      · rw [if_neg this] at found
        cases found
    rw [← own, Table.filter_toList, Table.filter_toList, same]
  unfold mergeRemote
  rw [alone]
  refine foldl_filter_induction (motive := Alike key names names' unnamed) view.toList ?_ ?_ ?_
  · refine h.closeWindow fun session session' renamed => ?_
    rw [Session.renamed_markAllRemote, Session.renamed_markAllRemote, renamed, same]
  · rintro s t ⟨k, ips⟩ own alike
    obtain rfl : k = key := by simpa using own
    exact alike.markRemote ips
  · rintro s t ⟨k, ips⟩ other alike
    exact alike.markRemote_other (by simpa using other) ips

end Alike

end ConnectionLimiter

end Tollgate
