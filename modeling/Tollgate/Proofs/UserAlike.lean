import Tollgate.Proofs.EscalationCounts
import Tollgate.Proofs.SessionsAlike

/-!
# Scopes that are alike for one user

A scope keeps what it knows of a user under the key of that user. Two scopes are alike for a user
if they hold the same under that key and the same for everybody (`Scope.Alike`), up to the names of
sessions and the numbers of buckets, which say nothing to anybody.

What is done for the user keeps two scopes alike if it is done to both, and what is done for others
if it is done to the first only. A batch is made of both kinds, so it is done to the second with the
entries of the user alone.
-/

namespace Tollgate

/-! ### Undelivered traffic -/

/-- What a ledger would hand out of one user. -/
theorem Ledger.filter_entries (ledger : Ledger) (key : UserKey) :
    ledger.entries.filter (·.1 = key) =
      if (ledger.pending key).isZero then []
      else [(key, ⟨key.user, (ledger.pending key).upload, (ledger.pending key).download⟩)] := by
  have own := ledger.counts.filter_toList key
  have swapped : (ledger.counts.toList.filter fun e => !e.2.isZero).filter (·.1 = key) =
      (ledger.counts.toList.filter (·.1 = key)).filter fun e => !e.2.isZero := by
    simp only [List.filter_filter, Bool.and_comm]
  unfold Ledger.entries Ledger.pending
  rw [List.filter_map]
  refine (congrArg _ (swapped.trans (congrArg _ own))).trans ?_
  cases ledger.counts.get? key with
  | none => rfl
  | some traffic =>
    rw [Option.map_some, Option.toList_some, Option.getD_some]
    cases zero : traffic.isZero with
    | true => simp [zero]
    | false => simp [zero]

/-! ### Throttles -/

namespace Throttle

/-- The throttle without the number of its bucket. -/
def unnumbered (throttle : Throttle) : Throttle :=
  { throttle with bucket := throttle.bucket.map fun issued => { issued with serial := 0 } }

variable {throttle : Throttle}

theorem unnumbered_current (now : Timestamp) :
    (throttle.current now).unnumbered = throttle.unnumbered.current now := by
  have expired : throttle.unnumbered.hasExpired now = throttle.hasExpired now := rfl
  unfold current
  rw [expired]
  split
  · rfl
  · rfl

theorem unnumbered_supplied (nodeCap : UInt64) (now : Timestamp) (serial : Nat) :
    (throttle.supplied nodeCap now serial).unnumbered =
      throttle.unnumbered.supplied nodeCap now 0 := by
  obtain ⟨record, bucket⟩ := throttle
  cases bucket with
  | some issued => rfl
  | none =>
    unfold supplied
    dsimp only [unnumbered, Option.map_none]
    rw [Option.map_map]
    rfl

end Throttle

/-! ### Scopes -/

/-- Two keys of one scope are those of two users. -/
theorem UserKey.user_ne {key other : UserKey} (differs : other ≠ key)
    (scope : other.scope = key.scope) : other.user ≠ key.user := by
  intro user
  refine differs ?_
  calc other
    _ = ⟨key.scope, other.user⟩ := congrArg (UserKey.mk · other.user) scope
    _ = key := congrArg (UserKey.mk key.scope) user

namespace Scope

/-- Two scopes that hold the same for a user, up to the names of the numbers of its sessions. -/
structure Alike (key : UserKey) (names names' : Nat → Nat) (unnamed : Nat)
    (scope scope' : Scope) : Prop where
  name_eq : scope.name = key.scope
  name_eq' : scope'.name = key.scope
  isOpen_eq : scope'.isOpen = scope.isOpen
  limits_eq : scope'.limits = scope.limits
  dynamicLimit_eq : scope'.escalator.config = scope.escalator.config
  recorder_eq : scope'.recorderEnabled = scope.recorderEnabled
  connections : scope.connections.Alike key names names' unnamed scope'.connections
  throttle_eq : (scope'.speed.throttle key).unnumbered = (scope.speed.throttle key).unnumbered
  traffic_eq : scope'.ledger.pending key = scope.ledger.pending key
  count_eq : scope'.escalator.pending key = scope.escalator.pending key

variable {key : UserKey} {names names' : Nat → Nat} {unnamed : Nat} {scope scope' : Scope}

theorem key_of_name (named : scope.name = key.scope) : scope.key key.user = key := by
  rw [Scope.key, named]

theorem key_ne_of_name (named : scope.name = key.scope) {user : UInt64} (differs : user ≠ key.user) :
    scope.key user ≠ key := by
  rw [← key_of_name named, ne_eq, key_inj]
  exact differs

namespace Alike

/-! ### What is read -/

theorem record_eq (h : Alike key names names' unnamed scope scope') :
    scope'.speed.record? key = scope.speed.record? key := by
  have record := congrArg Throttle.record h.throttle_eq
  exact record

theorem bucket_eq (h : Alike key names names' unnamed scope scope') :
    (scope'.speed.bucket? key).map (·.bucket) = (scope.speed.bucket? key).map (·.bucket) := by
  have bucket := congrArg (fun throttle => throttle.bucket.map (·.bucket)) h.throttle_eq
  simp only [Throttle.unnumbered, Option.map_map] at bucket
  exact bucket

theorem cap_eq (h : Alike key names names' unnamed scope scope') (now : Timestamp) :
    (scope'.speed.throttle key).cap scope'.limits.speedLimit now =
      (scope.speed.throttle key).cap scope.limits.speedLimit now := by
  have cap := congrArg (fun throttle => throttle.cap scope.limits.speedLimit now) h.throttle_eq
  rw [h.limits_eq]
  exact cap

theorem admissionLimits_eq (h : Alike key names names' unnamed scope scope') :
    scope'.admissionLimits key.user = scope.admissionLimits key.user := by
  have record := h.record_eq
  unfold admissionLimits SpeedLimiter.deviceLimit
  rw [key_of_name h.name_eq, key_of_name h.name_eq', h.limits_eq, record]

/-! ### What is done for the user -/

/-- The user gets a connection on both sides, of the session of the same name, or on neither. -/
theorem connect (h : Alike key names names' unnamed scope scope') (ip : IpAddr) :
    (scope'.connect key.user ip).1.map (·.map names') =
        (scope.connect key.user ip).1.map (·.map names) ∧
      Alike key names names' unnamed (scope.connect key.user ip).2
        (scope'.connect key.user ip).2 := by
  cases isOpen : scope.isOpen with
  | false =>
    rw [connect_of_closed isOpen, connect_of_closed (h.isOpen_eq.trans isOpen), closed, closed,
      h.name_eq, h.name_eq']
    exact ⟨rfl, h⟩
  | true =>
    have joined := h.connections.sessionOrNew_eq
    have refusal := Session.refusal?_of_renamed joined ip (scope.admissionLimits key.user)
    rw [connect_of_open isOpen, connect_of_open (h.isOpen_eq.trans isOpen), h.admissionLimits_eq,
      key_of_name h.name_eq, key_of_name h.name_eq', refusal]
    split
    · exact ⟨rfl, h⟩
    · refine ⟨?_, { h with connections := h.connections.admitted ip, throttle_eq := ?_ }⟩
      · have number := congrArg Session.id joined
        exact congrArg (fun number => Except.ok (Except.ok number)) number
      · rw [SpeedLimiter.throttle_ensureUser, SpeedLimiter.throttle_ensureUser, if_pos rfl,
          if_pos rfl, h.record_eq]
        exact congrArg (fun throttle : Throttle =>
          { throttle with record := some ((scope.speed.record? key).getD {}) }) h.throttle_eq

/-- A connection of the user is closed on both sides, of whatever session it is or of the session
that the user has. -/
theorem release (h : Alike key names names' unnamed scope scope') (ip : IpAddr) {id id' : Option Nat}
    (same : ∀ session session', scope.connections.session? key = some session →
      scope'.connections.session? key = some session' →
        id'.all (· = session'.id) = id.all (· = session.id)) :
    Alike key names names' unnamed (scope.release key.user ip id)
      (scope'.release key.user ip id') := by
  obtain ⟨offline, connections⟩ := h.connections.release ip same
  unfold Scope.release
  rw [key_of_name h.name_eq, key_of_name h.name_eq']
  dsimp only
  rw [offline]
  split
  · refine { h with connections, throttle_eq := ?_ }
    rw [SpeedLimiter.throttle_dropBucket, SpeedLimiter.throttle_dropBucket, if_pos rfl, if_pos rfl]
    exact congrArg (fun throttle : Throttle => { throttle with bucket := none }) h.throttle_eq
  · exact { h with connections }

theorem getBucket (h : Alike key names names' unnamed scope scope') (now : Timestamp) :
    Alike key names names' unnamed (scope.getBucket key.user now).2
      (scope'.getBucket key.user now).2 := by
  unfold Scope.getBucket
  rw [key_of_name h.name_eq, key_of_name h.name_eq']
  refine { h with throttle_eq := ?_ }
  rw [SpeedLimiter.throttle_getBucket, SpeedLimiter.throttle_getBucket, if_pos rfl, if_pos rfl,
    Throttle.unnumbered_supplied, Throttle.unnumbered_supplied, Throttle.unnumbered_current,
    Throttle.unnumbered_current, h.throttle_eq, h.limits_eq]

/-- The user gets a bucket of the same cap, full to the same mark, on both sides, or on neither. -/
theorem getBucket_eq (h : Alike key names names' unnamed scope scope') (now : Timestamp) :
    (scope'.getBucket key.user now).1.map (·.bucket) =
      (scope.getBucket key.user now).1.map (·.bucket) := by
  have after := h.getBucket now
  rw [Scope.getBucket_fst, Scope.getBucket_fst, bucket?, bucket?, key_of_name after.name_eq,
    key_of_name after.name_eq', after.bucket_eq]

theorem effectiveCap (h : Alike key names names' unnamed scope scope') (now : Timestamp) :
    (scope'.effectiveCap key.user now).1 = (scope.effectiveCap key.user now).1 ∧
      Alike key names names' unnamed (scope.effectiveCap key.user now).2
        (scope'.effectiveCap key.user now).2 := by
  have throttle_eq : ((scope'.speed.clearExpired key now).throttle key).unnumbered =
      ((scope.speed.clearExpired key now).throttle key).unnumbered := by
    rw [SpeedLimiter.throttle_clearExpired, SpeedLimiter.throttle_clearExpired, if_pos rfl,
      if_pos rfl, Throttle.unnumbered_current, Throttle.unnumbered_current, h.throttle_eq]
  unfold Scope.effectiveCap SpeedLimiter.effectiveCap
  rw [key_of_name h.name_eq, key_of_name h.name_eq']
  have after : Alike key names names' unnamed
      { scope with speed := scope.speed.clearExpired key now }
      { scope' with speed := scope'.speed.clearExpired key now } := { h with throttle_eq }
  exact ⟨after.cap_eq now, after⟩

theorem reportTraffic (h : Alike key names names' unnamed scope scope') (traffic : Traffic) :
    Alike key names names' unnamed (scope.reportTraffic key.user traffic)
      (scope'.reportTraffic key.user traffic) := by
  unfold Scope.reportTraffic
  rw [key_of_name h.name_eq, key_of_name h.name_eq']
  refine { h with traffic_eq := ?_ }
  rw [Ledger.pending_record, Ledger.pending_record, if_pos rfl, if_pos rfl, h.traffic_eq]

theorem removeUser (h : Alike key names names' unnamed scope scope') :
    Alike key names names' unnamed (scope.removeUser key.user) (scope'.removeUser key.user) := by
  unfold Scope.removeUser
  rw [key_of_name h.name_eq, key_of_name h.name_eq']
  refine { h with connections := h.connections.removeUser, throttle_eq := ?_, count_eq := ?_ }
  · rw [SpeedLimiter.throttle_removeUser, SpeedLimiter.throttle_removeUser, if_pos rfl, if_pos rfl]
  · rw [Escalator.pending_removeUser, Escalator.pending_removeUser, if_pos rfl, if_pos rfl]

theorem insertUser (h : Alike key names names' unnamed scope scope') {entry : RosterUser}
    (own : entry.id = key.user) :
    Alike key names names' unnamed (scope.insertUser entry) (scope'.insertUser entry) := by
  unfold Scope.insertUser
  rw [own, key_of_name h.name_eq, key_of_name h.name_eq']
  refine { h with throttle_eq := ?_ }
  rw [SpeedLimiter.throttle_insertUser, SpeedLimiter.throttle_insertUser, if_pos rfl, if_pos rfl]
  exact congrArg (fun throttle : Throttle => { throttle with
    record := some { staticSpeed := entry.speedLimit, deviceLimit := entry.deviceLimit } })
    h.throttle_eq

/-! ### What is done for others -/

theorem connect_other (h : Alike key names names' unnamed scope scope') {user : UInt64}
    (differs : user ≠ key.user) (ip : IpAddr) :
    Alike key names names' unnamed (scope.connect user ip).2 scope' := by
  have apart := key_ne_of_name h.name_eq differs
  cases isOpen : scope.isOpen with
  | false =>
    rw [connect_of_closed isOpen]
    exact h
  | true =>
    rw [connect_of_open isOpen]
    split
    · exact h
    · refine { h with connections := h.connections.admitted_other apart ip, throttle_eq := ?_ }
      rw [SpeedLimiter.throttle_ensureUser, if_neg apart, h.throttle_eq]

theorem release_other (h : Alike key names names' unnamed scope scope') {user : UInt64}
    (differs : user ≠ key.user) (ip : IpAddr) (id : Option Nat) :
    Alike key names names' unnamed (scope.release user ip id) scope' := by
  have apart := key_ne_of_name h.name_eq differs
  have connections := h.connections.release_other apart ip id
  unfold Scope.release
  dsimp only
  split
  · refine { h with connections, throttle_eq := ?_ }
    rw [SpeedLimiter.throttle_dropBucket, if_neg apart, h.throttle_eq]
  · exact { h with connections }

theorem getBucket_other (h : Alike key names names' unnamed scope scope') {user : UInt64}
    (differs : user ≠ key.user) (now : Timestamp) :
    Alike key names names' unnamed (scope.getBucket user now).2 scope' := by
  refine { h with throttle_eq := ?_ }
  rw [h.throttle_eq]
  refine congrArg Throttle.unnumbered ?_
  exact (SpeedLimiter.throttle_getBucket _ now key).trans
    (if_neg (key_ne_of_name h.name_eq differs)) |>.symm

theorem effectiveCap_other (h : Alike key names names' unnamed scope scope') {user : UInt64}
    (differs : user ≠ key.user) (now : Timestamp) :
    Alike key names names' unnamed (scope.effectiveCap user now).2 scope' := by
  refine { h with throttle_eq := ?_ }
  rw [h.throttle_eq]
  refine congrArg Throttle.unnumbered ?_
  exact (SpeedLimiter.throttle_clearExpired now key).trans
    (if_neg (key_ne_of_name h.name_eq differs)) |>.symm

theorem reportTraffic_other (h : Alike key names names' unnamed scope scope') {user : UInt64}
    (differs : user ≠ key.user) (traffic : Traffic) :
    Alike key names names' unnamed (scope.reportTraffic user traffic) scope' := by
  refine { h with traffic_eq := ?_ }
  rw [h.traffic_eq]
  exact (Ledger.pending_record _ _ key traffic).trans
    (if_neg (key_ne_of_name h.name_eq differs)) |>.symm

theorem removeUser_other (h : Alike key names names' unnamed scope scope') {user : UInt64}
    (differs : user ≠ key.user) : Alike key names names' unnamed (scope.removeUser user) scope' := by
  have apart := key_ne_of_name h.name_eq differs
  unfold Scope.removeUser
  refine { h with connections := h.connections.removeUser_other apart, throttle_eq := ?_, count_eq := ?_ }
  · rw [SpeedLimiter.throttle_removeUser, if_neg apart, h.throttle_eq]
  · rw [Escalator.pending_removeUser, if_neg apart, h.count_eq]

theorem insertUser_other (h : Alike key names names' unnamed scope scope') {entry : RosterUser}
    (differs : entry.id ≠ key.user) :
    Alike key names names' unnamed (scope.insertUser entry) scope' := by
  unfold Scope.insertUser
  refine { h with throttle_eq := ?_ }
  rw [SpeedLimiter.throttle_insertUser, if_neg (key_ne_of_name h.name_eq differs), h.throttle_eq]

end Alike

end Scope

/-! ### What is done for everybody -/

/-- What of a roster change is about one user. -/
def RosterDiff.restrict (diff : RosterDiff) (user : UInt64) : RosterDiff where
  added := diff.added.filter (·.id = user)
  removed := diff.removed.filter (·.id = user)

namespace Scope

variable {key : UserKey} {names names' : Nat → Nat} {unnamed : Nat} {scope scope' : Scope}

/-- Limit records are those of users of the scope. -/
def RecordsOwn (scope : Scope) : Prop :=
  ∀ key : UserKey, key.scope ≠ scope.name → scope.speed.record? key = none

theorem RecordsOwn.perform (h : scope.RecordsOwn) (operation : Operation) :
    (scope.perform operation).RecordsOwn := by
  intro key foreign
  rw [name_perform] at foreign
  exact record?_perform_of_none (h key foreign) fun own => absurd own foreign

theorem isSome_of_escalateEntry {entry : TrafficEntry} {now : Timestamp}
    (isEscalated : (scope.escalateEntry entry now).1 = true) :
    (scope.speed.record? entry.1).isSome = true := by
  cases inForce : scope.dynamicLimit? with
  | none =>
    rw [escalateEntry_of_disabled inForce] at isEscalated
    cases isEscalated
  | some limit =>
    rw [escalateEntry_of_enabled inForce] at isEscalated
    split at isEscalated
    · cases isEscalated
    · rw [← isEscalated, SpeedLimiter.installTemporary_fst]

namespace Alike

/-- A roster is changed on both sides, on the second for the user alone. -/
theorem applyRosterDiff (h : Alike key names names' unnamed scope scope') (diff : RosterDiff) :
    (scope'.applyRosterDiff (diff.restrict key.user)).1 = (scope.applyRosterDiff diff).1 ∧
      Alike key names names' unnamed (scope.applyRosterDiff diff).2
        (scope'.applyRosterDiff (diff.restrict key.user)).2 := by
  unfold Scope.applyRosterDiff
  rw [h.isOpen_eq]
  split
  · refine ⟨rfl, ?_⟩
    refine foldl_filter_induction (motive := Alike key names names' unnamed) diff.added ?_ ?_ ?_
    · refine foldl_filter_induction (motive := Alike key names names' unnamed) diff.removed h ?_ ?_
      · intro s t entry own alike
        rw [of_decide_eq_true own]
        exact alike.removeUser
      · intro s t entry other alike
        exact alike.removeUser_other (of_decide_eq_false other)
    · intro s t entry own alike
      exact alike.insertUser (of_decide_eq_true own)
    · intro s t entry other alike
      exact alike.insertUser_other (of_decide_eq_false other)
  · rw [closed, closed, h.name_eq, h.name_eq']
    exact ⟨rfl, h⟩

/-- What is drained of the user is the same on both sides. -/
theorem drainTraffic (h : Alike key names names' unnamed scope scope') :
    scope'.drainTraffic.1.filter (·.1 = key) = scope.drainTraffic.1.filter (·.1 = key) ∧
      Alike key names names' unnamed scope.drainTraffic.2 scope'.drainTraffic.2 := by
  have entries := scope.ledger.filter_entries key
  have entries' := scope'.ledger.filter_entries key
  rw [h.traffic_eq] at entries'
  exact ⟨entries'.trans entries.symm, { h with traffic_eq := rfl }⟩

theorem creditTraffic (h : Alike key names names' unnamed scope scope')
    (entries : List TrafficEntry) :
    Alike key names names' unnamed (scope.creditTraffic entries)
      (scope'.creditTraffic (entries.filter (·.1 = key))) := by
  refine { h with traffic_eq := ?_ }
  refine foldl_filter_induction
    (motive := fun ledger ledger' : Ledger => ledger'.pending key = ledger.pending key) entries
    h.traffic_eq ?_ ?_
  · intro ledger ledger' entry own same
    rw [Ledger.pending_record, Ledger.pending_record, same]
  · intro ledger ledger' entry other same
    rw [Ledger.pending_record, if_neg (of_decide_eq_false other), same]

theorem escalateEntry (h : Alike key names names' unnamed scope scope') (traffic : UserTraffic)
    (now : Timestamp) :
    (scope'.escalateEntry (key, traffic) now).1 = (scope.escalateEntry (key, traffic) now).1 ∧
      Alike key names names' unnamed (scope.escalateEntry (key, traffic) now).2
        (scope'.escalateEntry (key, traffic) now).2 := by
  have sameLimit : scope'.dynamicLimit? = scope.dynamicLimit? :=
    congrArg (Option.filter _) h.dynamicLimit_eq
  cases inForce : scope.dynamicLimit? with
  | none =>
    rw [escalateEntry_of_disabled inForce, escalateEntry_of_disabled (sameLimit.trans inForce)]
    exact ⟨rfl, h⟩
  | some limit =>
    rw [escalateEntry_of_enabled inForce, escalateEntry_of_enabled (sameLimit.trans inForce)]
    dsimp only
    rw [h.count_eq]
    split
    · refine ⟨rfl, { h with dynamicLimit_eq := h.dynamicLimit_eq, count_eq := ?_ }⟩
      rw [Escalator.pending_setCount, Escalator.pending_setCount, if_pos rfl, if_pos rfl]
    · refine ⟨?_, { h with
        dynamicLimit_eq := h.dynamicLimit_eq, throttle_eq := ?_, count_eq := ?_ }⟩
      · rw [SpeedLimiter.installTemporary_fst, SpeedLimiter.installTemporary_fst, h.record_eq]
      · rw [SpeedLimiter.throttle_installTemporary, SpeedLimiter.throttle_installTemporary,
          if_pos rfl, if_pos rfl, h.record_eq]
        cases scope.speed.record? key with
        | none => exact h.throttle_eq
        | some record => rfl
      · rw [Escalator.pending_setCount, Escalator.pending_setCount, if_pos rfl, if_pos rfl]

theorem escalateEntry_other (h : Alike key names names' unnamed scope scope')
    {entry : TrafficEntry} (differs : entry.1 ≠ key) (now : Timestamp) :
    Alike key names names' unnamed (scope.escalateEntry entry now).2 scope' := by
  obtain ⟨throttle, count⟩ := escalateEntry_frame entry now differs
  refine { h with dynamicLimit_eq := ?_, throttle_eq := ?_, count_eq := ?_ }
  · rw [config_escalateEntry, h.dynamicLimit_eq]
  · rw [throttle, h.throttle_eq]
  · rw [count, h.count_eq]

/-- Delivered traffic is counted on both sides, on the second for the user alone. The user is
reported at the same entries. -/
theorem escalate (h : Alike key names names' unnamed scope scope') (owned : scope.RecordsOwn)
    (now : Timestamp) (entries : List TrafficEntry) :
    (scope'.escalate now (entries.filter (·.1 = key))).1 =
        (scope.escalate now entries).1.filter (· = key.user) ∧
      Alike key names names' unnamed (scope.escalate now entries).2
        (scope'.escalate now (entries.filter (·.1 = key))).2 := by
  induction entries generalizing scope scope' with
  | nil => exact ⟨rfl, h⟩
  | cons entry rest ih =>
    obtain ⟨k, traffic⟩ := entry
    have owned' : (scope.escalateEntry (k, traffic) now).2.RecordsOwn :=
      owned.perform (.escalate now [(k, traffic)])
    rw [escalate_cons]
    by_cases own : k = key
    · subst own
      obtain ⟨reported, alike⟩ := h.escalateEntry traffic now
      obtain ⟨later, alike⟩ := ih alike owned'
      rw [List.filter_cons_of_pos (by simp), escalate_cons]
      refine ⟨?_, alike⟩
      dsimp only
      rw [reported, later]
      split
      · rw [List.filter_cons_of_pos (by simp)]
      · rfl
    · obtain ⟨later, alike⟩ := ih (h.escalateEntry_other own now) owned'
      rw [List.filter_cons_of_neg (by simpa using own)]
      refine ⟨?_, alike⟩
      dsimp only
      rw [later]
      split
      next isEscalated =>
        -- Whoever is reported has a record, so it is a user of this scope, and another one.
        have known := isSome_of_escalateEntry isEscalated
        rw [List.filter_cons_of_neg]
        intro sameUser
        by_cases sameScope : k.scope = scope.name
        · rw [h.name_eq] at sameScope
          exact UserKey.user_ne own sameScope (of_decide_eq_true sameUser)
        · rw [owned k sameScope] at known
          cases known
      next => rfl

theorem endWindow (h : Alike key names names' unnamed scope scope') :
    Alike key names names' unnamed scope.endWindow scope'.endWindow := by
  refine { h with connections := ?_ }
  unfold Scope.endWindow ConnectionLimiter.endWindow
  dsimp only
  rw [h.recorder_eq]
  split
  · exact h.connections
  · exact h.connections.resetWindow

theorem mergeOnline (h : Alike key names names' unnamed scope scope') (entries : List UserIps) :
    Alike key names names' unnamed (scope.mergeOnline entries)
      (scope'.mergeOnline (entries.filter (·.userId = key.user))) := by
  refine { h with connections := ?_ }
  unfold Scope.mergeOnline
  rw [h.name_eq, h.name_eq']
  exact h.connections.mergeReported entries

theorem discardWindow (h : Alike key names names' unnamed scope scope') :
    Alike key names names' unnamed scope.discardWindow scope'.discardWindow :=
  { h with connections := h.connections.resetWindow }

end Alike

end Scope

end Tollgate
