import Tollgate.Speed.Cap
import Tollgate.Timestamp

/-!
# Limit records

What the gate holds against a user: the caps of the roster and, after an escalation, a temporary
cap with an expiry. At its expiry a temporary cap is no longer in force; it stays in the record
until somebody who looks finds it expired.
-/

namespace Tollgate

/-- A speed cap that expires. -/
structure TemporaryCap where
  speed : UInt64
  expiry : Timestamp
deriving DecidableEq, Repr, Inhabited

/-- The caps of one user. -/
structure LimitRecord where
  staticSpeed : UInt64 := 0
  deviceLimit : UInt32 := 0
  temporary : Option TemporaryCap := none
deriving DecidableEq, Repr, Inhabited

namespace TemporaryCap

/-- Whether the cap holds: before its expiry, and with a speed that limits. -/
def isInForce (cap : TemporaryCap) (now : Timestamp) : Bool := now < cap.expiry && 0 < cap.speed

/-- Whether the expiry has come. -/
def hasExpired (cap : TemporaryCap) (now : Timestamp) : Bool := cap.expiry ≤ now

theorem isInForce_eq_false_of_hasExpired {cap : TemporaryCap} {now : Timestamp}
    (h : cap.hasExpired now = true) : cap.isInForce now = false := by
  have past : cap.expiry ≤ now := by simpa [hasExpired] using h
  have ended := Timestamp.not_lt_iff_le.2 past
  simp [isInForce, ended]

end TemporaryCap

namespace LimitRecord

/-- The temporary speed in force, if any. -/
def temporarySpeed? (record : LimitRecord) (now : Timestamp) : Option UInt64 :=
  (record.temporary.filter (·.isInForce now)).map (·.speed)

/-- Whether the record holds a temporary cap that has expired. -/
def hasExpired (record : LimitRecord) (now : Timestamp) : Bool :=
  record.temporary.any (·.hasExpired now)

/-- The record without its temporary cap. -/
def withoutTemporary (record : LimitRecord) : LimitRecord := { record with temporary := none }

/-- The tightest of a node's cap, the static cap and a temporary cap in force. -/
def cap (record : LimitRecord) (nodeCap : UInt64) (now : Timestamp) : UInt64 :=
  let standing := Cap.tighter nodeCap record.staticSpeed
  match record.temporarySpeed? now with
  | some speed => Cap.tighter standing speed
  | none => standing

/-- An expired temporary cap counts for nothing. -/
theorem cap_withoutTemporary {record : LimitRecord} {now : Timestamp}
    (h : record.hasExpired now = true) (nodeCap : UInt64) :
    record.withoutTemporary.cap nodeCap now = record.cap nodeCap now := by
  have none_in_force : record.temporarySpeed? now = none := by
    cases temporary : record.temporary with
    | none => simp [temporarySpeed?, temporary]
    | some cap =>
      have expired : cap.hasExpired now = true := by simpa [hasExpired, temporary] using h
      simp [temporarySpeed?, temporary, TemporaryCap.isInForce_eq_false_of_hasExpired expired]
  have none_left : record.withoutTemporary.temporarySpeed? now = none := rfl
  unfold cap
  rw [none_in_force, none_left]
  rfl

end LimitRecord

end Tollgate
