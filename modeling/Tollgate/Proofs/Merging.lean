import Tollgate.Proofs.SessionsAlike

/-!
# Windows that end with the word of other nodes

What a merge leaves of one session is known device by device: it has the open connections that it
had, and it is remote exactly if it is reported (`Session.get?_merged`). A second merge of the same
addresses finds nothing to do.

The limiter merges in two passes, over its own sessions and over the view. The second pass goes in
whatever order the view is visited in (`ConnectionLimiter.Merges`); that shows in the numbers of
sessions that begin and in nothing else (`Merges.session?_eq`).
-/

namespace Tollgate

/-- The addresses that a view gives for a user. -/
def OnlineView.addresses (view : OnlineView) (key : UserKey) : List IpAddr :=
  (view.get? key).getD []

/-! ### Sessions -/

namespace Session

variable {session other : Session} {ips : List IpAddr} {ip : IpAddr}

/-- What a window that ends with reported addresses leaves of a session. -/
def merged (session : Session) (ips : List IpAddr) : Session :=
  session.afterWindow.markAllRemote ips

/-- A session with the same connections and devices is the same. -/
theorem SameConnections.eq_of_get? (same : session.SameConnections other)
    (devices : ∀ ip, other.devices.get? ip = session.devices.get? ip) : other = session := by
  cases session
  cases other
  rw [mk.injEq]
  exact ⟨same.id_eq, same.connections_eq, Table.ext_get? devices⟩

theorem get?_afterWindow :
    session.afterWindow.devices.get? ip =
      if 0 < (session.device ip).connections then
        some { session.device ip with isRemote := false }
      else none := by
  rw [afterWindow, Table.get?_filterMap, device]
  cases session.devices.get? ip with
  | none => rfl
  | some device => rfl

theorem get?_markAllRemote :
    (session.markAllRemote ips).devices.get? ip =
      if ip ∈ ips then some { session.device ip with isRemote := true }
      else session.devices.get? ip := by
  induction ips generalizing session with
  | nil => simp [markAllRemote]
  | cons first rest ih =>
    have step : session.markAllRemote (first :: rest) =
        (session.markRemote first).markAllRemote rest := rfl
    have marked : (session.markRemote first).devices.get? ip =
        if first = ip then some { session.device first with isRemote := true }
        else session.devices.get? ip := Table.get?_insert _ _ _ _
    rw [step, ih, device_markRemote, marked]
    by_cases own : first = ip
    · subst own
      simp
    · simp [own, Ne.symm own]

/-- A device is left if it has open connections or is reported. -/
theorem get?_merged :
    (session.merged ips).devices.get? ip =
      if 0 < (session.device ip).connections ∨ ip ∈ ips then
        some { connections := (session.device ip).connections, isRemote := decide (ip ∈ ips) }
      else none := by
  rw [merged, get?_markAllRemote, device_afterWindow, get?_afterWindow]
  by_cases reported : ip ∈ ips
  · simp [reported]
  · simp [reported]

theorem device_merged :
    (session.merged ips).device ip =
      { connections := (session.device ip).connections, isRemote := decide (ip ∈ ips) } := by
  rw [device, get?_merged]
  split
  next => rfl
  next gone =>
    rw [not_or, Nat.not_lt, Nat.le_zero] at gone
    simp [gone.1, gone.2]

theorem sameConnections_merged : session.SameConnections (session.merged ips) :=
  sameConnections_afterWindow.trans (sameConnections_markAllRemote ips)

/-- What is marked already stays as it is. -/
theorem markAllRemote_merged : (session.merged ips).markAllRemote ips = session.merged ips := by
  refine (sameConnections_markAllRemote ips).eq_of_get? fun ip => ?_
  rw [get?_markAllRemote]
  split
  next reported =>
    rw [device_merged, get?_merged, if_pos (Or.inr reported), decide_eq_true reported]
  next => rfl

theorem merged_merged : (session.merged ips).merged ips = session.merged ips := by
  refine sameConnections_merged.eq_of_get? fun ip => ?_
  rw [get?_merged, get?_merged, device_merged]

/-! ### Sessions with nothing left -/

theorem isEmpty_iff :
    session.isEmpty = true ↔ session.connections = 0 ∧ ∀ ip, session.devices.get? ip = none := by
  rw [isEmpty, Bool.and_eq_true, decide_eq_true_eq, decide_eq_true_eq, Table.size_eq_zero_iff]

/-- A session ends with a window if it has no open connections and nothing is reported. -/
theorem isEmpty_merged_iff : (session.merged ips).isEmpty = true ↔ session.IsIdle ∧ ips = [] := by
  rw [isEmpty_iff, sameConnections_merged.connections_eq]
  constructor
  · rintro ⟨connections, devices⟩
    have gone (ip : IpAddr) : (session.device ip).connections = 0 ∧ ip ∉ ips := by
      have left := devices ip
      rw [get?_merged] at left
      split at left
      · cases left
      next none_ =>
        rw [not_or, Nat.not_lt, Nat.le_zero] at none_
        exact none_
    exact ⟨⟨connections, fun ip => (gone ip).1⟩,
      List.eq_nil_iff_forall_not_mem.2 fun ip => (gone ip).2⟩
  · rintro ⟨idle, rfl⟩
    refine ⟨idle.connections_eq, fun ip => ?_⟩
    rw [get?_merged, if_neg]
    simp [idle.device_eq ip]

end Session

namespace ConnectionLimiter

variable {limiter after : ConnectionLimiter} {view : OnlineView} {key : UserKey} {ip : IpAddr}

/-- Limiters with the same sessions and the same next number are the same. -/
theorem ext_session? (sessions : ∀ key, limiter.session? key = after.session? key)
    (next : limiter.nextSession = after.nextSession) : limiter = after := by
  cases limiter
  cases after
  rw [mk.injEq]
  exact ⟨Table.ext_get? sessions, next⟩

/-! ### Devices of a user -/

/-- What is kept of a device of a user, if it is known. -/
def device? (limiter : ConnectionLimiter) (key : UserKey) (ip : IpAddr) : Option Device :=
  (limiter.session? key).bind (·.devices.get? ip)

/-- The device of a user at an address. -/
def deviceOf (limiter : ConnectionLimiter) (key : UserKey) (ip : IpAddr) : Device :=
  (limiter.device? key ip).getD {}

theorem deviceOf_of_some {session : Session} (found : limiter.session? key = some session) :
    limiter.deviceOf key ip = session.device ip := by
  rw [deviceOf, device?, found]
  rfl

theorem deviceOf_of_none (unknown : limiter.session? key = none) :
    limiter.deviceOf key ip = {} := by
  rw [deviceOf, device?, unknown]
  rfl

/-- A session that would begin has the devices and the connections of a user without one. -/
theorem device_getD (id : Nat) :
    ((limiter.session? key).getD { id }).device ip = limiter.deviceOf key ip := by
  cases found : limiter.session? key with
  | none => rw [deviceOf_of_none found]; rfl
  | some session => rw [deviceOf_of_some found]; rfl

theorem connections_getD (id : Nat) :
    ((limiter.session? key).getD { id }).connections = limiter.connections key := by
  cases found : limiter.session? key with
  | none => rw [connections_of_none found]; rfl
  | some session => rw [connections_of_some found]; rfl

/-- A session that ends for having nothing left leaves the same behind as one that stays. -/
theorem contents_of_filter {session : Session}
    (look : after.session? key = (some session).filter (!·.isEmpty)) :
    after.connections key = session.connections ∧
      ∀ ip, after.device? key ip = session.devices.get? ip := by
  rw [Option.filter_some] at look
  split at look
  next =>
    refine ⟨connections_of_some look, fun ip => ?_⟩
    rw [device?, look, Option.bind_some]
  next ended =>
    rw [Bool.not_eq_true', Bool.not_eq_false, Session.isEmpty_iff] at ended
    refine ⟨?_, fun ip => ?_⟩
    · rw [connections_of_none look, ended.1]
    · rw [device?, look, Option.bind_none, ended.2 ip]

/-! ### Merges -/

/-- Marks the devices of one entry of a view. -/
def markEntry (limiter : ConnectionLimiter) (entry : UserKey × List IpAddr) : ConnectionLimiter :=
  limiter.markRemote entry.1 entry.2

/-- Begins a new window with a view whose entries are visited in an order. -/
def mergeInOrder (limiter : ConnectionLimiter) (view : OnlineView)
    (order : List (UserKey × List IpAddr)) : ConnectionLimiter :=
  order.foldl markEntry
    (limiter.closeWindow fun key session => session.markAllRemote (view.addresses key))

/-- A limiter comes of another by a merge of a view, visited in any order. -/
def Merges (limiter : ConnectionLimiter) (view : OnlineView) (after : ConnectionLimiter) : Prop :=
  ∃ order, order.Perm view.toList ∧ after = limiter.mergeInOrder view order

theorem merges_mergeRemote (view : OnlineView) : limiter.Merges view (limiter.mergeRemote view) :=
  ⟨view.toList, .refl _, rfl⟩

/-- What a list of entries says about a user. -/
def reported (order : List (UserKey × List IpAddr)) (key : UserKey) : List IpAddr :=
  (order.filter (·.1 = key)).flatMap (·.2)

/-- The order of a view is of no account for what it says about one user. -/
theorem reported_of_perm {order : List (UserKey × List IpAddr)} (perm : order.Perm view.toList) :
    reported order key = view.addresses key := by
  have own := perm.filter (·.1 = key)
  rw [Table.filter_toList] at own
  unfold reported OnlineView.addresses
  cases found : view.get? key with
  | none =>
    rw [found] at own
    rw [List.perm_nil.1 own]
    rfl
  | some ips =>
    rw [found] at own
    rw [List.perm_singleton.1 own]
    simp

/-- What entries say about a user is marked in the session that is there, or else in one that
begins. -/
theorem session?_foldl_markEntry (order : List (UserKey × List IpAddr)) :
    ∃ number, limiter.nextSession ≤ number ∧
      (order.foldl markEntry limiter).session? key =
        if reported order key = [] then limiter.session? key
        else some (((limiter.session? key).getD { id := number }).markAllRemote
          (reported order key)) := by
  induction order generalizing limiter with
  | nil => exact ⟨_, Nat.le_refl _, rfl⟩
  | cons entry rest ih =>
    obtain ⟨k, ips⟩ := entry
    obtain ⟨number, later, look⟩ := @ih (limiter.markRemote k ips)
    have next := (@keeps_markRemote limiter k ips).nextSession_le
    have marked := @session?_markRemote k limiter ips key
    have step : ((k, ips) :: rest).foldl markEntry limiter =
        rest.foldl markEntry (limiter.markRemote k ips) := rfl
    rw [step, look]
    by_cases own : k = key
    · have more : reported ((k, ips) :: rest) key = ips ++ reported rest key := by
        simp [reported, own]
      rw [more]
      cases ips with
      | nil => exact ⟨number, later, rfl⟩
      | cons first others =>
        -- The session is there from this entry on, so the next number is the one it got.
        refine ⟨limiter.nextSession, Nat.le_refl _, ?_⟩
        have both (session : Session) (tail : List IpAddr) :
            (session.markAllRemote (first :: others)).markAllRemote tail =
              session.markAllRemote (first :: others ++ tail) := by
          simp [Session.markAllRemote]
        rw [if_pos ⟨own, rfl⟩] at marked
        rw [marked, Option.getD_some, both, sessionOrNew]
        split
        next nothing => rw [nothing, List.append_nil, if_neg (List.cons_ne_nil _ _)]
        next => rw [List.cons_append, if_neg (List.cons_ne_nil _ _)]
    · have same : reported ((k, ips) :: rest) key = reported rest key := by
        simp [reported, own]
      rw [if_neg fun both => own both.1] at marked
      rw [same, marked]
      exact ⟨number, Nat.le_trans next later, rfl⟩

namespace Merges

/-- A merge leaves of every session what it leaves of its devices, and nothing of a session with
nothing left. -/
theorem session?_eq (h : limiter.Merges view after) (key : UserKey) :
    ∃ number, limiter.nextSession ≤ number ∧
      after.session? key =
        (some (((limiter.session? key).getD { id := number }).merged (view.addresses key))).filter
          (!·.isEmpty) := by
  obtain ⟨order, perm, rfl⟩ := h
  obtain ⟨number, later, look⟩ := @session?_foldl_markEntry
    (limiter.closeWindow fun key session => session.markAllRemote (view.addresses key)) key order
  refine ⟨number, later, ?_⟩
  rw [mergeInOrder, look, reported_of_perm perm, session?_closeWindow]
  generalize view.addresses key = ips
  cases limiter.session? key with
  | none =>
    have fresh : ({ id := number } : Session).merged ips =
        ({ id := number } : Session).markAllRemote ips := rfl
    have ends := @Session.isEmpty_merged_iff { id := number } ips
    simp only [Option.map_none, Option.filter_none, Option.getD_none, Option.filter_some]
    rw [← fresh]
    by_cases nothing : ips = []
    · rw [if_pos nothing, ends.2 ⟨Session.isIdle_new _, nothing⟩]
      rfl
    · have stays : (({ id := number } : Session).merged ips).isEmpty = false := by
        rw [← Bool.not_eq_true, ends]
        exact fun both => nothing both.2
      rw [if_neg nothing, stays]
      rfl
  | some session =>
    have first : (some session).map (fun s => s.afterWindow.markAllRemote ips) =
        some (session.merged ips) := rfl
    rw [first, Option.getD_some, Option.filter_some]
    cases ended : (session.merged ips).isEmpty with
    | true =>
      rw [if_pos (Session.isEmpty_merged_iff.1 ended).2]
    | false =>
      have again := @Session.markAllRemote_merged session ips
      split
      · rfl
      · exact congrArg some again

theorem connections_eq (h : limiter.Merges view after) (key : UserKey) :
    after.connections key = limiter.connections key := by
  obtain ⟨number, -, look⟩ := h.session?_eq key
  obtain ⟨connections, -⟩ := contents_of_filter look
  rw [connections, Session.sameConnections_merged.connections_eq, connections_getD]

theorem device?_eq (h : limiter.Merges view after) (key : UserKey) (ip : IpAddr) :
    after.device? key ip =
      if 0 < (limiter.deviceOf key ip).connections ∨ ip ∈ view.addresses key then
        some { connections := (limiter.deviceOf key ip).connections,
               isRemote := decide (ip ∈ view.addresses key) }
      else none := by
  obtain ⟨number, -, look⟩ := h.session?_eq key
  obtain ⟨-, devices⟩ := contents_of_filter look
  rw [devices, Session.get?_merged, device_getD]

theorem deviceOf_eq (h : limiter.Merges view after) (key : UserKey) (ip : IpAddr) :
    after.deviceOf key ip =
      { connections := (limiter.deviceOf key ip).connections,
        isRemote := decide (ip ∈ view.addresses key) } := by
  obtain ⟨number, -, look⟩ := h.session?_eq key
  obtain ⟨-, devices⟩ := contents_of_filter look
  have left : after.deviceOf key ip =
      (((limiter.session? key).getD { id := number }).merged (view.addresses key)).device ip := by
    rw [deviceOf, devices, Session.device]
  rw [left, Session.device_merged, device_getD]

/-- A session is left of whoever has open connections or is reported. -/
theorem isSome_session?_iff (h : limiter.Merges view after) (key : UserKey) :
    (after.session? key).isSome = true ↔
      (0 < limiter.connections key ∨ ∃ ip, 0 < (limiter.deviceOf key ip).connections) ∨
        view.addresses key ≠ [] := by
  obtain ⟨number, -, look⟩ := h.session?_eq key
  have ended := @Session.isEmpty_merged_iff ((limiter.session? key).getD { id := number })
    (view.addresses key)
  have idle : ((limiter.session? key).getD { id := number }).IsIdle ↔
      ¬ (0 < limiter.connections key ∨ ∃ ip, 0 < (limiter.deviceOf key ip).connections) := by
    simp only [not_or, not_exists, Nat.not_lt, Nat.le_zero, ← device_getD number,
      ← connections_getD number]
    exact ⟨fun idle => ⟨idle.connections_eq, idle.device_eq⟩, fun both => ⟨both.1, both.2⟩⟩
  rw [look, Option.filter_some]
  split
  next stays =>
    rw [Bool.not_eq_true', ← Bool.not_eq_true, ended, idle, Classical.not_and_iff_not_or_not,
      Classical.not_not] at stays
    exact ⟨fun _ => stays, fun _ => rfl⟩
  next gone =>
    rw [Bool.not_eq_true', Bool.not_eq_false, ended, idle] at gone
    constructor
    · intro left
      cases left
    · rintro (online | reported)
      · exact absurd online gone.1
      · exact absurd gone.2 reported

/-- A session that was there is left under its number. -/
theorem id_eq (h : limiter.Merges view after) {old session : Session}
    (known : limiter.session? key = some old) (found : after.session? key = some session) :
    session.id = old.id := by
  obtain ⟨number, -, look⟩ := h.session?_eq key
  rw [known, Option.getD_some, found] at look
  obtain ⟨same, -⟩ := Option.filter_eq_some_iff.1 look.symm
  obtain rfl := Option.some.inj same
  exact Session.sameConnections_merged.id_eq

/-- A merge finds nothing to do in a session that a merge of the same view left. -/
theorem settled (h : limiter.Merges view after) {session : Session}
    (found : after.session? key = some session) :
    session.isEmpty = false ∧ session.merged (view.addresses key) = session ∧
      session.markAllRemote (view.addresses key) = session := by
  obtain ⟨number, -, look⟩ := h.session?_eq key
  rw [found] at look
  obtain ⟨same, stays⟩ := Option.filter_eq_some_iff.1 look.symm
  obtain rfl := Option.some.inj same
  rw [Bool.not_eq_true'] at stays
  exact ⟨stays, Session.merged_merged, Session.markAllRemote_merged⟩

theorem closeWindow_eq (h : limiter.Merges view after) :
    after.closeWindow (fun key session => session.markAllRemote (view.addresses key)) = after := by
  refine ext_session? (fun key => ?_) rfl
  rw [session?_closeWindow]
  cases found : after.session? key with
  | none => rfl
  | some session =>
    obtain ⟨stays, same, -⟩ := h.settled found
    have left : session.afterWindow.markAllRemote (view.addresses key) = session := same
    rw [Option.map_some, left, Option.filter_some, stays]
    rfl

theorem markEntry_eq (h : limiter.Merges view after) {entry : UserKey × List IpAddr}
    (member : entry ∈ view.toList) : after.markEntry entry = after := by
  obtain ⟨k, ips⟩ := entry
  have listed : view.addresses k = ips := by
    rw [OnlineView.addresses, Table.mem_toList_iff.1 member, Option.getD_some]
  unfold markEntry markRemote
  split
  next => rfl
  next more =>
    have there : (after.session? k).isSome = true := by
      refine (h.isSome_session?_iff k).2 (Or.inr ?_)
      rw [listed]
      rintro rfl
      exact more rfl
    obtain ⟨session, found⟩ := Option.isSome_iff_exists.1 there
    obtain ⟨-, -, marked⟩ := h.settled found
    rw [listed] at marked
    simp only [openSession_of_some found, marked]
    refine ext_session? (fun key => ?_) rfl
    rw [session?_setSession]
    split
    next own => rw [← own, found]
    next => rfl

/-- To merge a view twice is to merge it once, in whatever orders. -/
theorem again {twice : ConnectionLimiter} (h : limiter.Merges view after)
    (h' : after.Merges view twice) : twice = after := by
  obtain ⟨order, perm, rfl⟩ := h'
  rw [mergeInOrder, h.closeWindow_eq]
  refine List.foldlRecOn (motive := (· = after)) order markEntry rfl ?_
  rintro _ rfl entry member
  exact h.markEntry_eq (perm.subset member)

/-- A window that ends with word of nobody just begins anew. -/
theorem eq_resetWindow (h : limiter.Merges .empty after) : after = limiter.resetWindow := by
  obtain ⟨order, perm, rfl⟩ := h
  rw [List.perm_nil.1 perm]
  rfl

end Merges

end ConnectionLimiter

end Tollgate
