import Tollgate.Speed.LimitRecord
import Tollgate.Speed.TokenBucket
import Tollgate.Table
import Tollgate.UserKey

/-!
# The speed limiter

The limit records of users and the token buckets in use. A bucket is made when it is first asked
for, from the cap in force at that moment, and it is handed out again until it is retired: when its
user goes offline or leaves the roster, and when a temporary cap begins or is found expired. Each
bucket has a serial number, so that one bucket can be told from a later one with the same cap.

The operations come with what they leave in the two tables for every user.
-/

namespace Tollgate

/-- A bucket in use. -/
structure IssuedBucket where
  serial : Nat
  bucket : TokenBucket
deriving DecidableEq

/-- Limit records and buckets in use. -/
structure SpeedLimiter where
  records : Table UserKey LimitRecord := .empty
  buckets : Table UserKey IssuedBucket := .empty
  nextSerial : Nat := 0
deriving Inhabited

namespace SpeedLimiter

variable (limiter : SpeedLimiter) (key : UserKey)

/-- The record of a user. -/
def record? : Option LimitRecord := limiter.records.get? key

/-- The bucket of a user that is in use. -/
def bucket? : Option IssuedBucket := limiter.buckets.get? key

/-- The device limit of a user; no record is no limit. -/
def deviceLimit : UInt32 := ((limiter.record? key).map (·.deviceLimit)).getD 0

/-- The number of records. -/
def userCount : Nat := limiter.records.size

/-- The number of buckets in use. -/
def bucketCount : Nat := limiter.buckets.size

/-- Retires the bucket of a user. -/
def dropBucket : SpeedLimiter := { limiter with buckets := limiter.buckets.erase key }

/-- Puts a record in place. -/
def setRecord (record : LimitRecord) : SpeedLimiter :=
  { limiter with records := limiter.records.insert key record }

/-- Gives a user a fresh record with the caps of the roster. -/
def insertUser (staticSpeed : UInt64) (deviceLimit : UInt32) : SpeedLimiter :=
  limiter.setRecord key { staticSpeed, deviceLimit }

/-- Gives a user without a record one without caps. -/
def ensureUser : SpeedLimiter :=
  if limiter.records.contains key then limiter else limiter.setRecord key {}

/-- Forgets a user. -/
def removeUser : SpeedLimiter :=
  { limiter.dropBucket key with records := limiter.records.erase key }

/-- Caps a user until an expiry, and says whether there was a record to hold the cap. -/
def installTemporary (cap : TemporaryCap) : Bool × SpeedLimiter :=
  match limiter.record? key with
  | none => (false, limiter)
  | some record => (true, (limiter.setRecord key { record with temporary := some cap }).dropBucket key)

/-- Takes an expired temporary cap out of a user's record, and retires the bucket made under it. -/
def clearExpired (now : Timestamp) : SpeedLimiter :=
  match limiter.record? key with
  | none => limiter
  | some record =>
    if record.hasExpired now then
      (limiter.setRecord key record.withoutTemporary).dropBucket key
    else limiter

/-- The cap that a user's record and a node's cap make. -/
def capAt (nodeCap : UInt64) (now : Timestamp) : UInt64 :=
  match limiter.record? key with
  | none => nodeCap
  | some record => record.cap nodeCap now

/-- The cap in force for a user. -/
def effectiveCap (nodeCap : UInt64) (now : Timestamp) : UInt64 × SpeedLimiter :=
  let limiter := limiter.clearExpired key now
  (limiter.capAt key nodeCap now, limiter)

/-- Issues a bucket for a rate; none for the rate zero. -/
def issue (rate : UInt64) : Option IssuedBucket × SpeedLimiter :=
  match TokenBucket.ofRate? rate with
  | none => (none, limiter)
  | some bucket =>
    let issued : IssuedBucket := ⟨limiter.nextSerial, bucket⟩
    (some issued, { limiter with
      buckets := limiter.buckets.insert key issued
      nextSerial := limiter.nextSerial + 1 })

/-- The bucket that holds a user to its cap: the one in use, or else a new one. None means that the
user is not limited. -/
def getBucket (nodeCap : UInt64) (now : Timestamp) : Option IssuedBucket × SpeedLimiter :=
  let limiter := limiter.clearExpired key now
  match limiter.bucket? key with
  | some issued => (some issued, limiter)
  | none => limiter.issue key (limiter.capAt key nodeCap now)

/-- Puts the state of a bucket back, if it is still in use. -/
def updateBucket (issued : IssuedBucket) : SpeedLimiter :=
  match limiter.bucket? key with
  | none => limiter
  | some current =>
    if current.serial = issued.serial then
      { limiter with buckets := limiter.buckets.insert key issued }
    else limiter

/-- Forgets all users. -/
def clear : SpeedLimiter := { limiter with records := .empty, buckets := .empty }

/-! ### What the operations leave for each user -/

variable {limiter} {key}

@[simp] theorem record?_dropBucket (k : UserKey) :
    (limiter.dropBucket key).record? k = limiter.record? k := rfl

theorem bucket?_dropBucket (k : UserKey) :
    (limiter.dropBucket key).bucket? k = if key = k then none else limiter.bucket? k :=
  Table.get?_erase _ _ _

theorem record?_setRecord (record : LimitRecord) (k : UserKey) :
    (limiter.setRecord key record).record? k =
      if key = k then some record else limiter.record? k :=
  Table.get?_insert _ _ _ _

@[simp] theorem bucket?_setRecord (record : LimitRecord) (k : UserKey) :
    (limiter.setRecord key record).bucket? k = limiter.bucket? k := rfl

theorem record?_ensureUser (k : UserKey) :
    (limiter.ensureUser key).record? k =
      if key = k then some ((limiter.record? k).getD {}) else limiter.record? k := by
  unfold ensureUser Table.contains
  split
  next known =>
    split
    next same =>
      subst same
      obtain ⟨record, found⟩ := Option.isSome_iff_exists.1 known
      have found' : limiter.record? key = some record := found
      rw [found', Option.getD_some]
    next => rfl
  next unknown =>
    rw [record?_setRecord]
    split
    next same =>
      subst same
      have absent : limiter.record? key = none := by simpa [record?] using unknown
      rw [absent, Option.getD_none]
    next => rfl

@[simp] theorem bucket?_ensureUser (k : UserKey) :
    (limiter.ensureUser key).bucket? k = limiter.bucket? k := by
  unfold ensureUser
  split <;> rfl

theorem record?_removeUser (k : UserKey) :
    (limiter.removeUser key).record? k = if key = k then none else limiter.record? k :=
  Table.get?_erase _ _ _

theorem bucket?_removeUser (k : UserKey) :
    (limiter.removeUser key).bucket? k = if key = k then none else limiter.bucket? k :=
  Table.get?_erase _ _ _

theorem record?_installTemporary (cap : TemporaryCap) (k : UserKey) :
    (limiter.installTemporary key cap).2.record? k =
      if key = k then (limiter.record? k).map (fun r => { r with temporary := some cap })
      else limiter.record? k := by
  unfold installTemporary
  cases found : limiter.record? key with
  | none => grind
  | some record => grind [record?_dropBucket, record?_setRecord]

theorem bucket?_installTemporary (cap : TemporaryCap) (k : UserKey) :
    (limiter.installTemporary key cap).2.bucket? k =
      if key = k ∧ (limiter.record? key).isSome then none else limiter.bucket? k := by
  unfold installTemporary
  cases found : limiter.record? key with
  | none => simp
  | some record => simp [bucket?_dropBucket]

theorem record?_clearExpired (now : Timestamp) (k : UserKey) :
    (limiter.clearExpired key now).record? k =
      if key = k then
        (limiter.record? k).map (fun r => if r.hasExpired now then r.withoutTemporary else r)
      else limiter.record? k := by
  unfold clearExpired
  cases found : limiter.record? key with
  | none => grind
  | some record =>
    split <;> grind [record?_dropBucket, record?_setRecord]

/-- Clearing does nothing where nothing has expired. -/
theorem clearExpired_of_not_expired {now : Timestamp}
    (h : ∀ r, limiter.record? key = some r → r.hasExpired now = false) :
    limiter.clearExpired key now = limiter := by
  unfold clearExpired
  cases found : limiter.record? key with
  | none => rfl
  | some record => simp [h record found]

end SpeedLimiter

end Tollgate
