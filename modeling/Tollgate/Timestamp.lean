/-!
# Wall-clock time

Seconds as signed words of 64 bits. Adding a duration to a moment stops at the last moment there
is, so a cap that expires never stays a cap that expires never; setting the clock forward wraps.
-/

namespace Tollgate

/-- A moment of the wall clock in seconds. -/
structure Timestamp where
  secs : Int64
deriving DecidableEq, Repr, Inhabited

namespace Timestamp

instance : LT Timestamp := ⟨fun a b => a.secs < b.secs⟩

instance : LE Timestamp := ⟨fun a b => a.secs ≤ b.secs⟩

instance (a b : Timestamp) : Decidable (a < b) := inferInstanceAs (Decidable (a.secs < b.secs))

instance (a b : Timestamp) : Decidable (a ≤ b) := inferInstanceAs (Decidable (a.secs ≤ b.secs))

/-- The number of seconds of the last moment. -/
def lastSecs : Int := 9223372036854775807

/-- A duration as far as the clock can count it. -/
def clampDuration (secs : UInt64) : Int := min (secs.toNat : Int) lastSecs

/-- The moment a duration later, or the last moment if that is earlier. -/
def addSeconds (t : Timestamp) (secs : UInt64) : Timestamp :=
  ⟨Int64.ofInt (min (t.secs.toInt + clampDuration secs) lastSecs)⟩

/-- The clock set forward by a duration; past the last moment it starts over at the first. -/
def advance (t : Timestamp) (secs : UInt64) : Timestamp :=
  ⟨t.secs + Int64.ofInt (clampDuration secs)⟩

/-- The seconds in decimal. -/
def text (t : Timestamp) : String := toString t.secs.toInt

theorem lt_iff {a b : Timestamp} : a < b ↔ a.secs.toInt < b.secs.toInt := Int64.lt_iff_toInt_lt

theorem le_iff {a b : Timestamp} : a ≤ b ↔ a.secs.toInt ≤ b.secs.toInt := Int64.le_iff_toInt_le

theorem not_lt_iff_le {a b : Timestamp} : ¬ a < b ↔ b ≤ a := by
  rw [lt_iff, le_iff]
  omega

/-- In whole numbers, adding a duration is addition cut off at the last moment. -/
theorem toInt_addSeconds (t : Timestamp) (secs : UInt64) :
    (t.addSeconds secs).secs.toInt = min (t.secs.toInt + clampDuration secs) lastSecs := by
  have low := t.secs.le_toInt
  have high := t.secs.toInt_lt
  simp only [addSeconds, clampDuration, lastSecs]
  exact Int64.toInt_ofInt_of_le (by omega) (by omega)

end Timestamp

end Tollgate
