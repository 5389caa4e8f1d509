import Tollgate.Speed.Escalation

/-!
# Limit records under the operations of the speed limiter

The caps of the roster in a user's record, `SpeedLimiter.standing?`. Temporary caps come and go and
buckets are issued and retired beside them; only what takes the user away or gives it a fresh record
touches them.
-/

namespace Tollgate

/-- The caps of the roster in a record. -/
def LimitRecord.standing (record : LimitRecord) : UInt64 × UInt32 :=
  (record.staticSpeed, record.deviceLimit)

namespace SpeedLimiter

variable {limiter : SpeedLimiter} {key : UserKey}

/-- The caps of the roster in the record of a user. -/
def standing? (limiter : SpeedLimiter) (key : UserKey) : Option (UInt64 × UInt32) :=
  (limiter.record? key).map (·.standing)

theorem standing?_congr {after : SpeedLimiter} {k : UserKey}
    (h : after.record? k = limiter.record? k) : after.standing? k = limiter.standing? k := by
  rw [standing?, standing?, h]

theorem standing?_insertUser (staticSpeed : UInt64) (deviceLimit : UInt32) (k : UserKey) :
    (limiter.insertUser key staticSpeed deviceLimit).standing? k =
      if key = k then some (staticSpeed, deviceLimit) else limiter.standing? k := by
  simp only [standing?, insertUser, record?_setRecord]
  split <;> rfl

theorem standing?_removeUser (k : UserKey) :
    (limiter.removeUser key).standing? k = if key = k then none else limiter.standing? k := by
  simp only [standing?, record?_removeUser]
  split <;> rfl

/-- A record made for a connection leaves those that are there alone. -/
theorem standing?_ensureUser {k : UserKey} {caps : UInt64 × UInt32}
    (known : limiter.standing? k = some caps) :
    (limiter.ensureUser key).standing? k = some caps := by
  obtain ⟨record, found, rfl⟩ := Option.map_eq_some_iff.1 known
  have kept : (limiter.ensureUser key).record? k = limiter.record? k := by
    rw [record?_ensureUser, found, Option.getD_some]
    split <;> rfl
  exact (standing?_congr kept).trans known

theorem standing?_installTemporary (cap : TemporaryCap) (k : UserKey) :
    (limiter.installTemporary key cap).2.standing? k = limiter.standing? k := by
  simp only [standing?, record?_installTemporary]
  split
  · rw [Option.map_map]
    rfl
  · rfl

theorem standing?_clearExpired (now : Timestamp) (k : UserKey) :
    (limiter.clearExpired key now).standing? k = limiter.standing? k := by
  simp only [standing?, record?_clearExpired]
  split
  · rw [Option.map_map]
    congr 1
    funext record
    simp only [Function.comp]
    split <;> rfl
  · rfl

theorem record?_issue (rate : UInt64) (k : UserKey) :
    (limiter.issue key rate).2.record? k = limiter.record? k := by
  unfold issue
  split <;> rfl

/-- Asking for a bucket touches a record only by taking an expired temporary cap out of it. -/
theorem record?_getBucket (nodeCap : UInt64) (now : Timestamp) (k : UserKey) :
    (limiter.getBucket key nodeCap now).2.record? k = (limiter.clearExpired key now).record? k := by
  unfold getBucket
  dsimp only
  split
  · rfl
  · exact record?_issue _ k

theorem standing?_getBucket (nodeCap : UInt64) (now : Timestamp) (k : UserKey) :
    (limiter.getBucket key nodeCap now).2.standing? k = limiter.standing? k :=
  (standing?_congr (record?_getBucket nodeCap now k)).trans (standing?_clearExpired now k)

theorem record?_updateBucket (issued : IssuedBucket) (k : UserKey) :
    (limiter.updateBucket key issued).record? k = limiter.record? k := by
  unfold updateBucket
  split
  · rfl
  · split <;> rfl

/-- Traffic that counts towards an escalation changes temporary caps only. -/
theorem standing?_accumulate (escalator : Escalator) (bytes : UInt64) (now : Timestamp)
    (k : UserKey) :
    (escalator.accumulate limiter key bytes now).2.2.standing? k = limiter.standing? k := by
  unfold Escalator.accumulate
  split
  · rfl
  · dsimp only
    split
    · rfl
    · exact standing?_installTemporary _ k

end SpeedLimiter

end Tollgate
