import Tollgate.Proofs.Throttle

/-!
# Buckets made under temporary caps

The record of a user tells that a bucket was made under a temporary cap only by holding that cap
still (`Throttle.RemembersCap`). Whatever takes the cap out of the record takes the bucket out of use,
but for one thing: a user who is enlisted gets a fresh record, and the bucket stays.
-/

namespace Tollgate

/-- If the bucket with a number is in use, the record still holds the temporary cap it was made
under. -/
def Throttle.RemembersCap (serial : Nat) (cap : TemporaryCap) (throttle : Throttle) : Prop :=
  ∀ issued, throttle.bucket = some issued → issued.serial = serial →
    ∃ record, throttle.record = some record ∧ record.temporary = some cap

namespace Scope

/-- A rule under which nobody gets a fresh record for one with a temporary cap while a bucket is in
use. -/
def SparesTemporary (user : UInt64) (scope : Scope) : Operation → Prop
  | .insertUser entry =>
    entry.id = user → ∀ record, scope.record? user = some record → record.temporary.isSome →
      scope.bucket? user = none
  | _ => True

/-- The bucket with a number was made under a temporary cap, and the record remembers that. -/
structure KnowsOrigin (scope : Scope) (user : UInt64) (serial : Nat) (cap : TemporaryCap) :
    Prop where
  begun : serial < scope.speed.nextSerial
  remembers : (scope.throttle user).RemembersCap serial cap

variable {scope : Scope} {user : UInt64} {serial : Nat} {cap : TemporaryCap}

theorem KnowsOrigin.perform (h : scope.KnowsOrigin user serial cap) {operation : Operation}
    (single : operation.isRosterDiff = false) (fits : scope.SparesTemporary user operation) :
    (scope.perform operation).KnowsOrigin user serial cap := by
  refine ⟨Nat.lt_of_lt_of_le h.begun (le_nextSerial_perform operation), ?_⟩
  refine throttle_induction (motive := Throttle.RemembersCap serial cap) single h.remembers ?_
  intro before after step remembers
  -- Only four causes leave a bucket in use, and a new bucket has a number of its own.
  cases step with
  | connected unknown =>
    intro issued held same
    obtain ⟨record, known, -⟩ := remembers issued held same
    exact nomatch unknown.symm.trans known
  | enlisted own =>
    intro issued held same
    obtain ⟨record, known, temporary⟩ := remembers issued held same
    have free := fits own record known (by rw [temporary]; rfl)
    exact nomatch free.symm.trans held
  | issued current made =>
    intro issued held same
    obtain rfl := Option.some.inj held
    exact absurd same (Nat.ne_of_gt h.begun)
  | @used issued held inUse same =>
    intro other found same'
    obtain rfl := Option.some.inj found
    exact remembers held inUse (same.trans same')
  | _ => exact fun _ held => nomatch held

theorem KnowsOrigin.performAll (h : scope.KnowsOrigin user serial cap)
    {operations : List Operation}
    (run : scope.Follows (Piecewise (SparesTemporary user)) operations) :
    (scope.performAll operations).KnowsOrigin user serial cap :=
  run.keeps_piecewise (motive := fun s => s.KnowsOrigin user serial cap) h
    fun _ _ single fits holds => holds.perform single fits

/-- A bucket that is handed out and remembered with its temporary cap was asked for in time. -/
theorem KnowsOrigin.lt_expiry (h : scope.KnowsOrigin user serial cap) {now : Timestamp}
    {issued : IssuedBucket} (answered : (scope.getBucket user now).1 = some issued)
    (same : issued.serial = serial) : now < cap.expiry := by
  have after : (scope.getBucket user now).2.KnowsOrigin user serial cap :=
    @KnowsOrigin.perform _ _ _ _ h (.getBucket user now) rfl trivial
  rw [getBucket_fst] at answered
  obtain ⟨record, known, temporary⟩ := after.remembers issued answered same
  have unexpired := @hasExpired_getBucket scope user now
  rw [Throttle.hasExpired, known] at unexpired
  exact (LimitRecord.hasExpired_eq_false_iff temporary).1 unexpired

/-- A bucket that is made while the record holds a temporary cap. -/
theorem knowsOrigin_getBucket {now : Timestamp} {record : LimitRecord} {issued : IssuedBucket}
    (known : scope.record? user = some record) (temporary : record.temporary = some cap)
    (early : now < cap.expiry) (free : scope.bucket? user = none)
    (answered : (scope.getBucket user now).1 = some issued) :
    (scope.getBucket user now).2.KnowsOrigin user issued.serial cap := by
  have unexpired := (LimitRecord.hasExpired_eq_false_iff temporary).2 early
  have unexpired' : ∀ other, scope.speed.record? (scope.key user) = some other →
      other.hasExpired now = false := by
    intro other known'
    obtain rfl := Option.some.inj (known.symm.trans known')
    exact unexpired
  have issues := SpeedLimiter.getBucket_of_free unexpired' free scope.limits.speedLimit
  rw [getBucket, issues] at answered ⊢
  obtain ⟨serial, next⟩ := SpeedLimiter.serial_issue answered
  refine ⟨?_, ?_⟩
  · show issued.serial < (scope.speed.issue (scope.key user) _).2.nextSerial
    rw [serial, next]
    exact Nat.lt_succ_self _
  · intro other _ _
    refine ⟨record, ?_, temporary⟩
    exact (SpeedLimiter.record?_issue _ (scope.key user)).trans known

/-- A user who is enlisted keeps the bucket, whenever it is asked for. -/
theorem getBucket_insertUser {entry : RosterUser} (own : entry.id = user) {held : IssuedBucket}
    (inUse : scope.bucket? user = some held) (now : Timestamp) :
    ((scope.insertUser entry).getBucket user now).1 = some held := by
  have enlisted := @throttle_insertUser scope user entry
  rw [if_pos own, inUse] at enlisted
  have current : ((scope.insertUser entry).throttle user).current now =
      (scope.insertUser entry).throttle user := by
    rw [enlisted]
    rfl
  have after := @throttle_getBucket (scope.insertUser entry) user user now
  rw [if_pos rfl, current, enlisted] at after
  have held' : (((scope.insertUser entry).getBucket user now).2.throttle user).bucket =
      some held := by
    rw [after]
    rfl
  rw [getBucket_fst]
  exact held'

end Scope

/-- A bucket that was made under a temporary cap is not handed out at the expiry of the cap or later,
as long as the user is not enlisted with the bucket in use and the cap in the record. Enlisted then,
the user gets that bucket again, at whatever time. -/
theorem reduced_buckets_end {scope after : Scope} {user : UInt64} {made : Timestamp}
    {record : LimitRecord} {cap : TemporaryCap} {issued : IssuedBucket}
    {operations : List Operation} (known : scope.record? user = some record)
    (temporary : record.temporary = some cap) (early : made < cap.expiry)
    (free : scope.bucket? user = none) (answered : (scope.getBucket user made).1 = some issued)
    (reached : after = (scope.getBucket user made).2.performAll operations)
    (run : (scope.getBucket user made).2.Follows
      (Scope.Piecewise (Scope.SparesTemporary user)) operations) :
    (∀ now again, (after.getBucket user now).1 = some again → again.serial = issued.serial →
      now < cap.expiry) ∧
    ∀ held, after.bucket? user = some held → ∀ entry, entry.id = user → ∀ now,
      ((after.insertUser entry).getBucket user now).1 = some held := by
  have begun := Scope.knowsOrigin_getBucket known temporary early free answered
  have knows : after.KnowsOrigin user issued.serial cap := by
    rw [reached]
    exact begun.performAll run
  refine ⟨?_, ?_⟩
  · intro now again answered same
    exact knows.lt_expiry answered same
  · intro held inUse entry own now
    exact Scope.getBucket_insertUser own inUse now

/-- The bucket of a user who opens another connection is handed out a second before the expiry of
its cap, and not at the expiry. -/
theorem reduced_buckets_end_connected :
    ∃ (scope after : Scope) (issued : IssuedBucket),
      scope = (Scope.activate "a" ⟨{}, some ⟨1000, 100, 10⟩, false⟩).performAll
        [.connect 7 (.v4 1), .escalate ⟨0⟩ [(⟨"a", 7⟩, ⟨7, 1000, 0⟩)]] ∧
      (scope.getBucket 7 ⟨0⟩).1 = some issued ∧
      after = (scope.getBucket 7 ⟨0⟩).2.performAll
        [.connect 7 (.v4 2), .effectiveCap 7 ⟨5⟩] ∧
      (after.getBucket 7 ⟨9⟩).1 = some issued ∧
      ∀ again, (after.getBucket 7 ⟨10⟩).1 = some again → again.serial ≠ issued.serial := by
  let scope := (Scope.activate "a" ⟨{}, some ⟨1000, 100, 10⟩, false⟩).performAll
    [.connect 7 (.v4 1), .escalate ⟨0⟩ [(⟨"a", 7⟩, ⟨7, 1000, 0⟩)]]
  have known : scope.record? 7 = some { temporary := some ⟨100, ⟨10⟩⟩ } := by decide
  have answered : (scope.getBucket 7 ⟨0⟩).1 = some ⟨0, ⟨100, by decide, none⟩⟩ := by decide
  have run : (scope.getBucket 7 ⟨0⟩).2.Follows (Scope.Piecewise (Scope.SparesTemporary 7))
      [.connect 7 (.v4 2), .effectiveCap 7 ⟨5⟩] := ⟨trivial, trivial, trivial⟩
  obtain ⟨ends, -⟩ := reduced_buckets_end known rfl (by decide) (by decide) answered rfl run
  refine ⟨scope, _, _, rfl, answered, rfl, by decide, ?_⟩
  intro again answered' same
  have early := ends ⟨10⟩ again answered' same
  revert early
  decide

/-- A user who was connected and reduced before the roster came is held to the temporary cap at its
expiry, with no cap but that of the roster in force. -/
theorem reduced_buckets_linger :
    ∃ (scope after : Scope) (record : LimitRecord) (cap : TemporaryCap) (issued : IssuedBucket),
      scope = (Scope.activate "a" ⟨{}, some ⟨1000, 100, 10⟩, false⟩).performAll
        [.connect 7 (.v4 1), .escalate ⟨0⟩ [(⟨"a", 7⟩, ⟨7, 1000, 0⟩)]] ∧
      scope.record? 7 = some record ∧ record.temporary = some cap ∧ cap.expiry = ⟨10⟩ ∧
      scope.bucket? 7 = none ∧ (scope.getBucket 7 ⟨0⟩).1 = some issued ∧
      issued.bucket.capacity = 100 ∧
      after = (scope.getBucket 7 ⟨0⟩).2.performAll
        [.applyRosterDiff { added := [⟨7, ⟨0⟩, 1000, 0⟩] }] ∧
      (after.effectiveCap 7 ⟨10⟩).1 = 1000 ∧ (after.getBucket 7 ⟨10⟩).1 = some issued := by
  refine ⟨_, _, { temporary := some ⟨100, ⟨10⟩⟩ }, ⟨100, ⟨10⟩⟩, ⟨0, ⟨100, by decide, none⟩⟩, rfl, ?_,
    rfl, rfl, ?_, ?_, rfl, rfl, ?_, ?_⟩
  · decide
  · decide
  · decide
  · decide
  · decide

end Tollgate
