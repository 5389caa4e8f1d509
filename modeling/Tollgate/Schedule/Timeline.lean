/-!
# Timelines

Things that happen in time, with a clock that moves only when nothing is left to do. What can be
done at a moment is done before the clock moves, and it moves to the next moment at which something
is due.
-/

namespace Tollgate

/-- A system in time: what can be done at a moment, and when something is due next. -/
structure Timeline (σ : Type) where
  step? : Nat → σ → Option σ
  nextDue? : σ → Option Nat

namespace Timeline

variable {σ : Type} (timeline : Timeline σ)

/-- A number of steps that exceeds what is done at one moment. -/
def stepsPerMoment : Nat := 100000

/-- Does up to a number of steps at a moment, as long as there are any. -/
def steps (now : Nat) : Nat → σ → σ
  | 0, s => s
  | n + 1, s =>
    match timeline.step? now s with
    | none => s
    | some s => steps now n s

/-- Does all that can be done at a moment. -/
def settle (now : Nat) (s : σ) : σ := timeline.steps now stepsPerMoment s

/-- The moment to which the clock moves next. -/
def nextMoment? (now : Nat) (s : σ) : Option Nat := (timeline.nextDue? s).map (max (now + 1))

/-- Moves the clock to a target, doing on the way all that is due until then. -/
def advance (target now : Nat) (s : σ) : σ :=
  let s := timeline.settle now s
  match _moved : timeline.nextMoment? now s with
  | none => s
  | some moment => if moment ≤ target then advance target moment s else s
termination_by target - now
decreasing_by
  obtain ⟨due, -, rfl⟩ := Option.map_eq_some_iff.1 _moved
  omega

section Advance

variable {timeline} {target now moment : Nat} {s : σ}

theorem advance_of_rest (rest : timeline.nextMoment? now (timeline.settle now s) = none) :
    timeline.advance target now s = timeline.settle now s := by
  rw [advance]
  split
  · rfl
  next moves => exact nomatch rest.symm.trans moves

theorem advance_of_le (moves : timeline.nextMoment? now (timeline.settle now s) = some moment)
    (within : moment ≤ target) :
    timeline.advance target now s = timeline.advance target moment (timeline.settle now s) := by
  rw [advance]
  split
  next rest => exact nomatch rest.symm.trans moves
  next moved =>
    obtain rfl := Option.some.inj (moves.symm.trans moved)
    exact if_pos within

theorem advance_of_not_le (moves : timeline.nextMoment? now (timeline.settle now s) = some moment)
    (beyond : ¬ moment ≤ target) : timeline.advance target now s = timeline.settle now s := by
  rw [advance]
  split
  next rest => exact nomatch rest.symm.trans moves
  next moved =>
    obtain rfl := Option.some.inj (moves.symm.trans moved)
    exact if_neg beyond

end Advance

/-- Does up to a number of steps at a moment, as long as there are any and the goal is not reached. -/
def stepsUntil (isGoal : σ → Bool) (now : Nat) : Nat → σ → σ
  | 0, s => s
  | n + 1, s =>
    if isGoal s then s
    else
      match timeline.step? now s with
      | none => s
      | some s => stepsUntil isGoal now n s

/-- Lets time pass until a goal is reached, but for no more than a number of moments. -/
def awaiting (isGoal : σ → Bool) : Nat → Nat → σ → Nat × σ
  | 0, now, s => (now, s)
  | moments + 1, now, s =>
    let s := timeline.stepsUntil isGoal now stepsPerMoment s
    if isGoal s then (now, s)
    else
      match timeline.nextMoment? now s with
      | none => (now, s)
      | some moment => awaiting isGoal moments moment s

/-- A number of moments that exceeds what anything awaited takes. -/
def patience : Nat := 100000

/-- Lets time pass until a goal is reached. The result is the moment at which it is. -/
def await (isGoal : σ → Bool) (now : Nat) (s : σ) : Nat × σ :=
  timeline.awaiting isGoal patience now s

end Timeline

end Tollgate
