/-!
# Sets of characters

A set of Unicode scalar values, kept as ascending ranges that neither overlap nor touch, so that
equal sets have one form. Union sorts and merges; the complement is taken among scalar values, so
no set ever holds a surrogate; the other operations come from these two.
-/

namespace Tollgate.Unicode

/-- A set of scalar values as ascending ranges with both ends included. -/
structure CharSet where
  ranges : List (Nat × Nat)
deriving DecidableEq, Repr, Inhabited

namespace CharSet

/-- The greatest code point. -/
def maxCode : Nat := 0x10FFFF

/-- Joins neighbouring ranges that overlap or touch, in a list that is sorted by lower ends. -/
def joinRanges : List (Nat × Nat) → List (Nat × Nat)
  | (a, b) :: (c, d) :: rest =>
    if c ≤ b + 1 then joinRanges ((a, max b d) :: rest)
    else (a, b) :: joinRanges ((c, d) :: rest)
  | ranges => ranges
termination_by ranges => ranges.length

/-- The set that ranges in any order cover. -/
def ofRanges (ranges : List (Nat × Nat)) : CharSet :=
  ⟨joinRanges (ranges.mergeSort (fun x y => x.1 ≤ y.1))⟩

/-- No character. -/
def empty : CharSet := ⟨[]⟩

/-- The characters from `lo` to `hi`. -/
def range (lo hi : Nat) : CharSet := ⟨[(lo, hi)]⟩

/-- One character. -/
def single (c : Char) : CharSet := range c.toNat c.toNat

/-- Every scalar value. -/
def full : CharSet := ⟨[(0, 0xD7FF), (0xE000, maxCode)]⟩

/-- The characters of either set. -/
def union (s t : CharSet) : CharSet := ofRanges (s.ranges ++ t.ranges)

/-- The gaps that ascending ranges leave from `start` up to the greatest code point. -/
def gaps : Nat → List (Nat × Nat) → List (Nat × Nat)
  | start, [] => if start ≤ maxCode then [(start, maxCode)] else []
  | start, (a, b) :: rest =>
    if start < a then (start, a - 1) :: gaps (b + 1) rest else gaps (b + 1) rest

/-- The scalar values that are not in the set. -/
def complement (s : CharSet) : CharSet :=
  ⟨gaps 0 (ofRanges ((0xD800, 0xDFFF) :: s.ranges)).ranges⟩

/-- The characters of both sets. -/
def inter (s t : CharSet) : CharSet := (s.complement.union t.complement).complement

/-- The characters of the first set that are not in the second. -/
def diff (s t : CharSet) : CharSet := s.inter t.complement

/-- The characters of exactly one of the sets. -/
def symmDiff (s t : CharSet) : CharSet := (s.diff t).union (t.diff s)

/-- Whether a code point is in the set. -/
def containsCode (s : CharSet) (code : Nat) : Bool :=
  s.ranges.any (fun r => r.1 ≤ code && code ≤ r.2)

/-- Whether a character is in the set. -/
def contains (s : CharSet) (c : Char) : Bool := s.containsCode c.toNat

/-- Whether no character is in the set. -/
def isEmpty (s : CharSet) : Bool := s.ranges.isEmpty

/-- Whether every member is an ASCII character. -/
def isAscii (s : CharSet) : Bool := s.ranges.all (fun r => r.2 ≤ 0x7F)

/-- The only member, if there is exactly one. -/
def only? (s : CharSet) : Option Nat :=
  match s.ranges with
  | [(a, b)] => if a = b then some a else none
  | _ => none

@[simp] theorem containsCode_empty (code : Nat) : empty.containsCode code = false := rfl

@[simp] theorem containsCode_range (lo hi code : Nat) :
    (range lo hi).containsCode code = (decide (lo ≤ code) && decide (code ≤ hi)) := by
  simp [containsCode, range]

theorem contains_single (c : Char) : (single c).contains c = true := by
  simp [contains, single]

end CharSet

end Tollgate.Unicode
