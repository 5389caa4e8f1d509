/-!
# Lanes

One cycle of a kind at a time: a lane has a holder, and whoever else asks for it queues up. The lane
goes from its holder to the first in the queue.
-/

namespace Tollgate

/-- A lane, with its holder and the queue of those who wait for it, each under a number. -/
structure Lane where
  holder : Option Nat := none
  waiting : List Nat := []
deriving DecidableEq, Repr, Inhabited

namespace Lane

/-- Asks for the lane: takes it if it is free, and queues up if not. -/
def enter (lane : Lane) (visitor : Nat) : Lane :=
  match lane.holder with
  | none => { lane with holder := some visitor }
  | some _ => { lane with waiting := lane.waiting ++ [visitor] }

/-- Hands the lane on to the first in the queue. -/
def leave (lane : Lane) : Lane :=
  { holder := lane.waiting.head?, waiting := lane.waiting.tail }

/-- Whether a visitor has the lane. -/
def isHeldBy (lane : Lane) (visitor : Nat) : Bool := lane.holder = some visitor

end Lane

end Tollgate
