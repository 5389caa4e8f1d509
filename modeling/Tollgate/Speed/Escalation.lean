import Tollgate.Control.Records
import Tollgate.Speed.Limiter

/-!
# Escalation

Delivered traffic is added up for each user, and a user who reaches the threshold of the
configuration in force has its speed reduced for a while. The count starts over at every crossing,
also at one that finds no record to hold the cap.
-/

namespace Tollgate

/-- The configuration in force and the counts towards its threshold. -/
structure Escalator where
  config : Option DynamicLimit := none
  counts : Table UserKey UInt64 := .empty
deriving Inhabited

namespace Escalator

/-- The bytes counted for a user since its last crossing. -/
def pending (escalator : Escalator) (key : UserKey) : UInt64 := (escalator.counts.get? key).getD 0

/-- Puts a configuration in force; the counts stay. -/
def setConfig (escalator : Escalator) (config : Option DynamicLimit) : Escalator :=
  { escalator with config }

/-- Sets the count of a user. -/
def setCount (escalator : Escalator) (key : UserKey) (count : UInt64) : Escalator :=
  { escalator with counts := escalator.counts.insert key count }

/-- Counts bytes of a user. At a crossing the limiter is told to reduce the user's speed; the answer
says whether it did. -/
def accumulate (escalator : Escalator) (limiter : SpeedLimiter) (key : UserKey) (bytes : UInt64)
    (now : Timestamp) : Bool × Escalator × SpeedLimiter :=
  match escalator.config.filter (·.isEnabled) with
  | none => (false, escalator, limiter)
  | some config =>
    let count := addSaturating (escalator.pending key) bytes
    if count < config.thresholdBytes then (false, escalator.setCount key count, limiter)
    else
      let (reduced, limiter) := limiter.installTemporary key
        ⟨config.reducedSpeed, now.addSeconds config.durationSecs⟩
      (reduced, escalator.setCount key 0, limiter)

/-- Forgets the count of a user. -/
def removeUser (escalator : Escalator) (key : UserKey) : Escalator :=
  { escalator with counts := escalator.counts.erase key }

/-- Forgets all counts. -/
def clear (escalator : Escalator) : Escalator := { escalator with counts := .empty }

theorem pending_setCount (escalator : Escalator) (key k : UserKey) (count : UInt64) :
    (escalator.setCount key count).pending k = if key = k then count else escalator.pending k := by
  simp only [pending, setCount, Table.get?_insert]
  split <;> rfl

theorem pending_removeUser (escalator : Escalator) (key k : UserKey) :
    (escalator.removeUser key).pending k = if key = k then 0 else escalator.pending k := by
  simp only [pending, removeUser, Table.get?_erase]
  split <;> rfl

end Escalator

end Tollgate
