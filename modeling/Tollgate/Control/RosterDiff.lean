import Tollgate.Control.Records

/-!
# Roster differences

What must be taken away from one roster and added to it to get another, entry by entry. An entry
that changed in any field is both removed and added; repeats and order make no difference.
-/

namespace Tollgate

/-- The entries of one roster that another lacks, both ways. -/
structure RosterDiff where
  added : List RosterUser := []
  removed : List RosterUser := []
deriving DecidableEq, Repr, Inhabited

namespace RosterDiff

/-- The entries of the first list that the second lacks, each once, in order of first occurrence. -/
def missing (present other : List RosterUser) : List RosterUser :=
  (present.filter (· ∉ other)).eraseDups

theorem mem_missing {present other : List RosterUser} {user : RosterUser} :
    user ∈ missing present other ↔ user ∈ present ∧ user ∉ other := by
  simp [missing]

/-- The difference from an old roster to a new one. -/
def between (old new : List RosterUser) : RosterDiff where
  added := missing new old
  removed := missing old new

/-- Whether there is nothing to do. -/
def isEmpty (diff : RosterDiff) : Bool := diff.added.isEmpty && diff.removed.isEmpty

end RosterDiff

end Tollgate
