/-!
# Caps

A cap is a rate or a count in which zero means that there is no limit. Of two caps the tighter one
holds: the smaller, unless one of them is no limit.
-/

namespace Tollgate.Cap

/-- The tighter of two caps, where zero is no limit. -/
def tighter (a b : UInt64) : UInt64 :=
  if a = 0 then b else if b = 0 then a else min a b

@[simp] theorem tighter_zero_left (a : UInt64) : tighter 0 a = a := by simp [tighter]

@[simp] theorem tighter_zero_right (a : UInt64) : tighter a 0 = a := by
  unfold tighter
  split
  · simp_all
  · rfl

theorem tighter_eq_zero_iff {a b : UInt64} : tighter a b = 0 ↔ a = 0 ∧ b = 0 := by
  unfold tighter
  split
  · simp_all
  · split
    · simp_all
    · simp only [min]
      split <;> simp_all

end Tollgate.Cap
