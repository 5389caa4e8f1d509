import Tollgate.Proofs.Bookkeeping
import Tollgate.Proofs.Reactivation

/-!
# What a change of the roster does to each user

A roster change takes users away and puts users in, both by their numbers, and touches four tables.
What it leaves is said for one user at a time: all that the scope keeps for a user are its
`Scope.Holdings`, a removal empties them and an entry puts a fresh record among them
(`holdings_removeAll`, `holdings_insertAll_of_mem`).

With one entry for each user in the old roster and in the new one, a user is in both with the same
entry, in both with different entries, in one only or in none, and `RosterEffect` says what becomes
of it in each case. Nothing else in the scope changes.
-/

namespace Tollgate

/-- The record that a user of a roster gets. -/
def RosterUser.freshRecord (user : RosterUser) : LimitRecord where
  staticSpeed := user.speedLimit
  deviceLimit := user.deviceLimit

namespace Scope

/-- What a scope keeps for one user. -/
@[ext]
structure Holdings where
  session : Option Session := none
  record : Option LimitRecord := none
  bucket : Option IssuedBucket := none
  count : Option UInt64 := none

/-- The holdings with another record. -/
def Holdings.withRecord (holdings : Holdings) (record : LimitRecord) : Holdings :=
  { holdings with record := some record }

variable {scope : Scope} {key : UserKey}

/-- What the scope keeps under a key. -/
def holdings (scope : Scope) (key : UserKey) : Holdings where
  session := scope.connections.session? key
  record := scope.speed.record? key
  bucket := scope.speed.bucket? key
  count := scope.escalator.counts.get? key

/-! ### One user at a time -/

theorem holdings_removeUser (user : UInt64) (key : UserKey) :
    (scope.removeUser user).holdings key =
      if scope.key user = key then {} else scope.holdings key := by
  have session := @ConnectionLimiter.session?_removeUser scope.connections (scope.key user) key
  have record := @SpeedLimiter.record?_removeUser scope.speed (scope.key user) key
  have bucket := @SpeedLimiter.bucket?_removeUser scope.speed (scope.key user) key
  have count : (scope.escalator.removeUser (scope.key user)).counts.get? key =
      if scope.key user = key then none else scope.escalator.counts.get? key :=
    Table.get?_erase _ _ _
  by_cases own : scope.key user = key
  · rw [if_pos own] at session record bucket count ⊢
    exact Holdings.ext session record bucket count
  · rw [if_neg own] at session record bucket count ⊢
    exact Holdings.ext session record bucket count

theorem holdings_insertUser (entry : RosterUser) (key : UserKey) :
    (scope.insertUser entry).holdings key =
      if scope.key entry.id = key then (scope.holdings key).withRecord entry.freshRecord
      else scope.holdings key := by
  have record := @SpeedLimiter.record?_setRecord scope.speed (scope.key entry.id) entry.freshRecord key
  by_cases own : scope.key entry.id = key
  · rw [if_pos own] at record ⊢
    exact Holdings.ext rfl record rfl rfl
  · rw [if_neg own] at record ⊢
    exact Holdings.ext rfl record rfl rfl

/-! ### All users of a list -/

theorem holdings_removeAll (removed : List RosterUser) (key : UserKey) :
    (scope.performAll (removed.map fun user => .removeUser user.id)).holdings key =
      if ∃ user ∈ removed, scope.key user.id = key then {} else scope.holdings key := by
  induction removed generalizing scope with
  | nil => simp
  | cons user rest ih =>
    have name : (scope.removeUser user.id).key = scope.key := rfl
    rw [List.map_cons, performAll_cons, perform, ih, name, holdings_removeUser]
    by_cases own : scope.key user.id = key
    · simp [own]
    · simp [own]

theorem holdings_insertAll_of_apart {added : List RosterUser}
    (apart : ∀ entry ∈ added, scope.key entry.id ≠ key) :
    (scope.performAll (added.map .insertUser)).holdings key = scope.holdings key := by
  induction added generalizing scope with
  | nil => rfl
  | cons entry rest ih =>
    obtain ⟨first, later⟩ := List.forall_mem_cons.1 apart
    rw [List.map_cons, performAll_cons, perform, @ih (scope.insertUser entry) later,
      holdings_insertUser, if_neg first]

/-- Entries for the same user are the same entry here, so that it does not matter which is last. -/
theorem holdings_insertAll_of_mem {added : List RosterUser} {user : RosterUser}
    (listed : user ∈ added) (own : scope.key user.id = key)
    (same : ∀ entry ∈ added, scope.key entry.id = key → entry = user) :
    (scope.performAll (added.map .insertUser)).holdings key =
      (scope.holdings key).withRecord user.freshRecord := by
  induction added generalizing scope with
  | nil => cases listed
  | cons entry rest ih =>
    obtain ⟨first, later⟩ := List.forall_mem_cons.1 same
    rw [List.map_cons, performAll_cons, perform]
    by_cases again : user ∈ rest
    · rw [@ih (scope.insertUser entry) again own later, holdings_insertUser]
      split
      · rfl
      · rfl
    · -- no entry for the user is left, and this was the one
      have apart : ∀ other ∈ rest, scope.key other.id ≠ key := fun other member same' =>
        again (later other member same' ▸ member)
      obtain rfl : user = entry := (List.mem_cons.1 listed).resolve_right again
      rw [@holdings_insertAll_of_apart (scope.insertUser user) _ _ apart, holdings_insertUser,
        if_pos own]

end Scope

/-! ### The effect of a change -/

/-- What the change from an old roster to a new one does to a scope. -/
structure RosterEffect (old new : List RosterUser) (before after : Scope) : Prop where
  /-- Who has the same entry in both rosters is left alone. -/
  kept : ∀ user ∈ new, user ∈ old →
    after.holdings (before.key user.id) = before.holdings (before.key user.id)
  /-- So is who has an entry in none. -/
  bystander : ∀ key, (∀ user ∈ old, before.key user.id ≠ key) →
    (∀ user ∈ new, before.key user.id ≠ key) → after.holdings key = before.holdings key
  /-- Nothing is left of a user who has an entry in the old roster only. -/
  gone : ∀ user ∈ old, (∀ other ∈ new, other.id ≠ user.id) →
    after.holdings (before.key user.id) = {}
  /-- A user whose entry is another one begins anew with a fresh record. -/
  changed : ∀ user ∈ new, ∀ was ∈ old, was.id = user.id → was ≠ user →
    after.holdings (before.key user.id) = { record := some user.freshRecord }
  /-- A user who is new gets a fresh record and keeps what else there is. -/
  added : ∀ user ∈ new, (∀ was ∈ old, was.id ≠ user.id) →
    after.holdings (before.key user.id) =
      (before.holdings (before.key user.id)).withRecord user.freshRecord
  /-- Nothing changes but sessions, records, buckets and counts. -/
  frame : ∃ sessions records buckets counts, after =
    { before with
      connections := { before.connections with sessions }
      speed := { before.speed with records, buckets }
      escalator := { before.escalator with counts } }
  /-- Whose entry is not taken away is online as before. -/
  online : ∀ key, (∀ user ∈ old, before.key user.id = key → user ∈ new) →
    after.onlineView.get? key = before.onlineView.get? key

namespace Scope

variable {scope : Scope} {key : UserKey} {old new : List RosterUser}

/-- Whoever is not added has what the removals leave. -/
theorem holdings_of_not_added
    (apart : ∀ entry ∈ new, entry ∉ old → scope.key entry.id ≠ key) :
    (scope.performAll (RosterDiff.between old new).pieces).holdings key =
      if ∃ user ∈ old, user ∉ new ∧ scope.key user.id = key then {} else scope.holdings key := by
  have spared : ∀ entry ∈ (RosterDiff.between old new).added, scope.key entry.id ≠ key := by
    intro entry listed
    obtain ⟨member, isNew⟩ := RosterDiff.mem_missing.1 listed
    exact apart entry member isNew
  rw [RosterDiff.pieces, performAll_append, holdings_insertAll_of_apart, holdings_removeAll]
  · simp only [RosterDiff.between, RosterDiff.mem_missing, and_assoc]
  · simpa only [key_performAll] using spared

/-- Who is added has a fresh record beside what the removals leave. -/
theorem holdings_of_added (distinct : DistinctUsers new) {user : RosterUser} (member : user ∈ new)
    (isNew : user ∉ old) :
    (scope.performAll (RosterDiff.between old new).pieces).holdings (scope.key user.id) =
      if ∃ was ∈ old, was ∉ new ∧ was.id = user.id then { record := some user.freshRecord }
      else (scope.holdings (scope.key user.id)).withRecord user.freshRecord := by
  have same : ∀ entry ∈ (RosterDiff.between old new).added,
      scope.key entry.id = scope.key user.id → entry = user := by
    intro entry listed own
    exact distinct.eq_of_id_eq (RosterDiff.mem_missing.1 listed).1 member (key_inj.1 own)
  rw [RosterDiff.pieces, performAll_append, @holdings_insertAll_of_mem _ _ _ user,
    holdings_removeAll]
  · simp only [RosterDiff.between, RosterDiff.mem_missing, and_assoc, key_inj]
    split
    · rfl
    · rfl
  · exact RosterDiff.mem_missing.2 ⟨member, isNew⟩
  · rw [key_performAll]
  · simpa only [key_performAll] using same

/-- A roster change touches sessions, records, buckets and counts only. -/
theorem pieces_frame (diff : RosterDiff) :
    ∃ sessions records buckets counts, scope.performAll diff.pieces =
      { scope with
        connections := { scope.connections with sessions }
        speed := { scope.speed with records, buckets }
        escalator := { scope.escalator with counts } } := by
  refine performAll_induction (motive := fun after => ∃ sessions records buckets counts, after =
      { scope with
        connections := { scope.connections with sessions }
        speed := { scope.speed with records, buckets }
        escalator := { scope.escalator with counts } }) ⟨_, _, _, _, rfl⟩ ?_
  rintro _ operation member ⟨sessions, records, buckets, counts, rfl⟩
  rcases List.mem_append.1 member with removed | added
  · obtain ⟨user, -, rfl⟩ := List.mem_map.1 removed
    exact ⟨_, _, _, _, rfl⟩
  · obtain ⟨entry, -, rfl⟩ := List.mem_map.1 added
    exact ⟨_, _, _, _, rfl⟩

/-- Who is online is a matter of its session. -/
theorem onlineView_congr {after : Scope}
    (same : (after.holdings key).session = (scope.holdings key).session) :
    after.onlineView.get? key = scope.onlineView.get? key := by
  have same' : after.connections.session? key = scope.connections.session? key := same
  rw [onlineView, onlineView, ConnectionLimiter.get?_snapshot, ConnectionLimiter.get?_snapshot, same']

/-- The pieces of the difference between two rosters have the effect of the change. -/
theorem rosterEffect_pieces (oldDistinct : DistinctUsers old) (newDistinct : DistinctUsers new) :
    RosterEffect old new scope (scope.performAll (RosterDiff.between old new).pieces) where
  kept user member known := by
    rw [holdings_of_not_added, if_neg]
    · rintro ⟨was, listed, isGone, own⟩
      rw [oldDistinct.eq_of_id_eq listed known (key_inj.1 own)] at isGone
      exact isGone member
    · intro entry listed isNew own
      rw [newDistinct.eq_of_id_eq listed member (key_inj.1 own)] at isNew
      exact isNew known
  bystander key inOld inNew := by
    rw [holdings_of_not_added fun entry listed _ => inNew entry listed, if_neg]
    rintro ⟨was, listed, -, own⟩
    exact inOld was listed own
  gone user known absent := by
    have left : user ∉ new := fun member => absent user member rfl
    rw [holdings_of_not_added fun entry listed _ own => absent entry listed (key_inj.1 own),
      if_pos ⟨user, known, left, rfl⟩]
  changed user member was known own other := by
    -- the old entry is not in the new roster and the new one not in the old: there is one for each
    have isNew : user ∉ old := fun listed => other (oldDistinct.eq_of_id_eq known listed own)
    have isGone : was ∉ new := fun listed => other (newDistinct.eq_of_id_eq listed member own)
    rw [holdings_of_added newDistinct member isNew, if_pos ⟨was, known, isGone, own⟩]
  added user member unknown := by
    rw [holdings_of_added newDistinct member fun listed => unknown user listed rfl, if_neg]
    rintro ⟨was, listed, -, own⟩
    exact unknown was listed own
  frame := pieces_frame _
  online key stays := by
    apply onlineView_congr
    have unremoved : ¬ ∃ was ∈ old, was ∉ new ∧ scope.key was.id = key := by
      rintro ⟨was, listed, isGone, own⟩
      exact isGone (stays was listed own)
    by_cases listed : ∃ user ∈ new, user ∉ old ∧ scope.key user.id = key
    · obtain ⟨user, member, isNew, rfl⟩ := listed
      simp only [key_inj] at unremoved
      rw [holdings_of_added newDistinct member isNew, if_neg unremoved]
      rfl
    · rw [holdings_of_not_added, if_neg unremoved]
      intro entry member isNew own
      exact listed ⟨entry, member, isNew, own⟩

end Scope

/-- The difference between two rosters with one entry for each user, applied to any scope: a closed
scope refuses it and stays as it is, an open one has exactly the effect of the change afterwards, and
so does one whose coordinator remembers the old roster and takes over the new one. -/
theorem roster_change_is_exact (scope : Scope) {old new : List RosterUser}
    (oldDistinct : DistinctUsers old) (newDistinct : DistinctUsers new) :
    (scope.isOpen = false →
      scope.applyRosterDiff (.between old new) = (.error scope.closed, scope)) ∧
    (scope.isOpen = true →
      ∃ after, scope.applyRosterDiff (.between old new) = (.ok (), after) ∧
        RosterEffect old new scope after ∧
        ∀ coordinator : Coordinator, coordinator.roster = old →
          coordinator.applyRoster scope (some new) =
            (.ok (), { coordinator with roster := new }, after)) := by
  refine ⟨fun closed => ?_, fun isOpen => ?_⟩
  · rw [Scope.applyRosterDiff, closed]
    rfl
  · refine ⟨scope.performAll (RosterDiff.between old new).pieces, ?_,
      Scope.rosterEffect_pieces oldDistinct newDistinct, ?_⟩
    · rw [Scope.applyRosterDiff, if_pos isOpen, Scope.changeRoster_eq_performAll]
    · rintro coordinator rfl
      exact Coordinator.applyRoster_of_taken (Or.inr isOpen)

/-- Four users are connected when the second roster comes: the first has the same entry again, the
second has none, the third has another speed and the fourth is new. The second and the third lose
their connections. -/
theorem roster_change_is_exact_connected :
    ∃ before after : Scope,
      before = (Scope.activate "a" {}).performAll
        [.applyRosterDiff ⟨[⟨1, ⟨0⟩, 100, 0⟩, ⟨2, ⟨0⟩, 100, 0⟩, ⟨3, ⟨0⟩, 100, 0⟩], []⟩,
          .connect 1 default, .connect 2 default, .connect 3 default, .connect 4 default] ∧
      before.applyRosterDiff
          (.between [⟨1, ⟨0⟩, 100, 0⟩, ⟨2, ⟨0⟩, 100, 0⟩, ⟨3, ⟨0⟩, 100, 0⟩]
            [⟨1, ⟨0⟩, 100, 0⟩, ⟨3, ⟨0⟩, 200, 0⟩, ⟨4, ⟨0⟩, 100, 0⟩]) = (.ok (), after) ∧
      RosterEffect [⟨1, ⟨0⟩, 100, 0⟩, ⟨2, ⟨0⟩, 100, 0⟩, ⟨3, ⟨0⟩, 100, 0⟩]
        [⟨1, ⟨0⟩, 100, 0⟩, ⟨3, ⟨0⟩, 200, 0⟩, ⟨4, ⟨0⟩, 100, 0⟩] before after ∧
      [1, 2, 3, 4].map before.connectionsOf = [1, 1, 1, 1] ∧
      [1, 2, 3, 4].map after.connectionsOf = [1, 0, 0, 1] := by
  let old : List RosterUser := [⟨1, ⟨0⟩, 100, 0⟩, ⟨2, ⟨0⟩, 100, 0⟩, ⟨3, ⟨0⟩, 100, 0⟩]
  let new : List RosterUser := [⟨1, ⟨0⟩, 100, 0⟩, ⟨3, ⟨0⟩, 200, 0⟩, ⟨4, ⟨0⟩, 100, 0⟩]
  let before := (Scope.activate "a" {}).performAll
    [.applyRosterDiff ⟨old, []⟩, .connect 1 default, .connect 2 default, .connect 3 default,
      .connect 4 default]
  obtain ⟨after, taken, effect, -⟩ :=
    (@roster_change_is_exact before old new (by decide) (by decide)).2 (by decide)
  have connected : [1, 2, 3, 4].map (before.applyRosterDiff (.between old new)).2.connectionsOf =
      [1, 0, 0, 1] := by decide
  rw [taken] at connected
  exact ⟨before, after, rfl, taken, effect, by decide, connected⟩

end Tollgate
