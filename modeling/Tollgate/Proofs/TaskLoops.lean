import Tollgate.Schedule.PeriodicTask

/-!
# The loops of a task

Which loops are there after each operation: one begins with a start, one ends where it wakes up to
end or its job fails, and nothing else changes that.
-/

namespace Tollgate

namespace PeriodicTask

variable {task later : PeriodicTask} {loop : Nat}

theorem isAlive_iff (l : Nat) : task.isAlive l = true ↔ ∃ state, task.loops.get? l = some state := by
  rw [isAlive, Table.contains, Option.isSome_iff_exists]

theorem isAlive_of_get? {state : TaskLoop} (found : task.loops.get? loop = some state) :
    task.isAlive loop = true :=
  (isAlive_iff loop).2 ⟨state, found⟩

/-- A task that has not been started has no loop. -/
theorem isAlive_create {name : String} {nanos : Nat} (made : create name nanos = .ok task) (l : Nat) :
    task.isAlive l = false := by
  unfold create at made
  split at made
  · cases made
  · cases made
    rfl

theorem isAlive_congr {l : Nat} (same : later.loops.get? l = task.loops.get? l) :
    later.isAlive l = task.isAlive l := by
  rw [isAlive, isAlive, Table.contains, Table.contains, same]

/-! ### What the operations leave of each loop -/

theorem get?_setPhase (phase : LoopPhase) (l : Nat) :
    (task.setPhase loop phase).loops.get? l =
      if loop = l then (task.loops.get? l).map ({ · with phase }) else task.loops.get? l := by
  unfold setPhase
  cases found : task.loops.get? loop with
  | none =>
    dsimp only
    split
    next same => rw [← same, found, Option.map_none]
    next => rfl
  | some state =>
    dsimp only [setLoop]
    rw [Table.get?_insert]
    split
    next same => rw [← same, found, Option.map_some]
    next => rfl

theorem sleep_eq (now : Nat) :
    task.sleep loop now = task.setPhase loop (.sleeping (now + task.intervalMs)) := rfl

theorem get?_cancel (l : Nat) :
    task.cancel.2.loops.get? l =
      if task.current = some l then (task.loops.get? l).map ({ · with isCancelled := true })
      else task.loops.get? l := by
  unfold cancel
  cases current : task.current with
  | none => rw [if_neg nofun]
  | some loop =>
    simp only [Option.some.injEq]
    cases found : task.loops.get? loop with
    | none =>
      dsimp only
      split
      next same => rw [← same, found, Option.map_none]
      next => rfl
    | some state =>
      dsimp only [setLoop]
      rw [Table.get?_insert]
      split
      next same => rw [← same, found, Option.map_some]
      next => rfl

theorem current_cancel : task.cancel.2.current = none := by
  unfold cancel
  cases current : task.current with
  | none => exact current
  | some loop =>
    dsimp only
    split <;> rfl

theorem fst_cancel : task.cancel.1 = task.current := by
  unfold cancel
  cases current : task.current with
  | none => rfl
  | some loop =>
    dsimp only
    split <;> rfl

/-! ### Which loops are there -/

theorem isAlive_setPhase (phase : LoopPhase) (l : Nat) :
    (task.setPhase loop phase).isAlive l = task.isAlive l := by
  rw [isAlive, isAlive, Table.contains, Table.contains, get?_setPhase]
  split
  · exact Option.isSome_map
  · rfl

theorem isAlive_cancel (l : Nat) : task.cancel.2.isAlive l = task.isAlive l := by
  rw [isAlive, isAlive, Table.contains, Table.contains, get?_cancel]
  split
  · exact Option.isSome_map
  · rfl

theorem isAlive_failRun (l : Nat) :
    (task.failRun loop).isAlive l = if loop = l then false else task.isAlive l := by
  rw [isAlive, Table.contains, failRun, Table.get?_erase]
  split <;> rfl

theorem isAlive_wake (wakeup : Wakeup) (l : Nat) :
    (task.wake loop wakeup).isAlive l =
      if wakeup = .cancelled ∧ loop = l then false else task.isAlive l := by
  cases wakeup with
  | cancelled =>
    simp only [true_and]
    exact isAlive_failRun l
  | permit =>
    rw [if_neg (fun both => nomatch both.1)]
    exact isAlive_setPhase _ l
  | timer =>
    rw [if_neg (fun both => nomatch both.1)]
    exact isAlive_setPhase _ l

/-- What a start leaves if it is granted. -/
theorem start_eq_ok_iff {l : Nat} :
    task.start = .ok (l, later) ↔
      task.isRunning = false ∧ l = task.nextLoop ∧
        later = { task.setLoop task.nextLoop {} with
          nextLoop := task.nextLoop + 1
          current := some task.nextLoop } := by
  unfold start
  split
  next running =>
    refine ⟨fun granted => (nomatch granted), ?_⟩
    rintro ⟨idle, -⟩
    exact nomatch running.symm.trans idle
  next idle =>
    simp only [Except.ok.injEq, Prod.mk.injEq, Bool.not_eq_true] at idle ⊢
    exact ⟨fun ⟨own, made⟩ => ⟨idle, own.symm, made.symm⟩,
      fun ⟨_, own, made⟩ => ⟨own.symm, made.symm⟩⟩

theorem start_of_idle (idle : task.isRunning = false) :
    task.start = .ok (task.nextLoop, { task.setLoop task.nextLoop {} with
      nextLoop := task.nextLoop + 1
      current := some task.nextLoop }) :=
  start_eq_ok_iff.2 ⟨idle, rfl, rfl⟩

theorem isAlive_start {l : Nat} (granted : task.start = .ok (loop, later)) :
    later.isAlive l = if loop = l then true else task.isAlive l := by
  obtain ⟨-, rfl, rfl⟩ := start_eq_ok_iff.1 granted
  rw [isAlive, Table.contains]
  dsimp only [setLoop]
  rw [Table.get?_insert]
  split <;> rfl

/-! ### Numbers of loops -/

theorem nextLoop_setPhase {phase : LoopPhase} :
    (task.setPhase loop phase).nextLoop = task.nextLoop := by
  unfold setPhase
  split <;> rfl

theorem nextLoop_cancel : task.cancel.2.nextLoop = task.nextLoop := by
  unfold cancel
  split
  · rfl
  · split <;> rfl

theorem nextLoop_wake {wakeup : Wakeup} : (task.wake loop wakeup).nextLoop = task.nextLoop := by
  cases wakeup with
  | cancelled => rfl
  | permit => exact nextLoop_setPhase
  | timer => exact nextLoop_setPhase

/-- The loops that are there have been numbered. -/
def LoopsBelow (task : PeriodicTask) : Prop := ∀ l, task.isAlive l = true → l < task.nextLoop

/-- No new loop, and no number given. -/
theorem LoopsBelow.of_subset (h : task.LoopsBelow) (next : later.nextLoop = task.nextLoop)
    (subset : ∀ l, later.isAlive l = true → task.isAlive l = true) : later.LoopsBelow :=
  fun l alive => next ▸ h l (subset l alive)

theorem LoopsBelow.start (h : task.LoopsBelow) (granted : task.start = .ok (loop, later)) :
    later.LoopsBelow := by
  intro l alive
  rw [isAlive_start granted] at alive
  obtain ⟨-, rfl, rfl⟩ := start_eq_ok_iff.1 granted
  show l < task.nextLoop + 1
  split at alive
  next own => omega
  next => exact Nat.lt_succ_of_lt (h l alive)

/-! ### The same loops -/

/-- The same loops, and the same of them in force. -/
structure KeepsLoops (before after : PeriodicTask) : Prop where
  isAlive_eq : ∀ l, after.isAlive l = before.isAlive l
  current_eq : after.current = before.current
  nextLoop_eq : after.nextLoop = before.nextLoop

theorem KeepsLoops.refl : task.KeepsLoops task := ⟨fun _ => rfl, rfl, rfl⟩

theorem KeepsLoops.trans {first second third : PeriodicTask} (h : first.KeepsLoops second)
    (h' : second.KeepsLoops third) : first.KeepsLoops third where
  isAlive_eq l := (h'.isAlive_eq l).trans (h.isAlive_eq l)
  current_eq := h'.current_eq.trans h.current_eq
  nextLoop_eq := h'.nextLoop_eq.trans h.nextLoop_eq

theorem keepsLoops_setPhase (phase : LoopPhase) : task.KeepsLoops (task.setPhase loop phase) where
  isAlive_eq := isAlive_setPhase phase
  current_eq := by
    unfold setPhase
    split <;> rfl
  nextLoop_eq := nextLoop_setPhase

theorem keepsLoops_finishRun : task.KeepsLoops (task.finishRun loop) :=
  (keepsLoops_setPhase .rearming).trans ⟨fun _ => rfl, rfl, rfl⟩

theorem keepsLoops_setInterval (nanos : Nat) : task.KeepsLoops (task.setInterval nanos) := by
  unfold setInterval
  split
  · exact .refl
  · exact ⟨fun _ => rfl, rfl, rfl⟩

/-- No loop that was not there, and the same of them in force. -/
structure LosesLoops (before after : PeriodicTask) : Prop where
  isAlive_of : ∀ l, after.isAlive l = true → before.isAlive l = true
  current_eq : after.current = before.current
  nextLoop_eq : after.nextLoop = before.nextLoop

theorem KeepsLoops.losesLoops (h : task.KeepsLoops later) : task.LosesLoops later where
  isAlive_of l alive := h.isAlive_eq l ▸ alive
  current_eq := h.current_eq
  nextLoop_eq := h.nextLoop_eq

/-- A loop that wakes up for another reason than to end is there afterwards. -/
theorem keepsLoops_wake {wakeup : Wakeup} (stays : wakeup ≠ .cancelled) :
    task.KeepsLoops (task.wake loop wakeup) := by
  cases wakeup with
  | cancelled => exact absurd rfl stays
  | permit => exact (keepsLoops_setPhase _).trans ⟨fun _ => rfl, rfl, rfl⟩
  | timer => exact keepsLoops_setPhase .running

theorem losesLoops_wake {wakeup : Wakeup} : task.LosesLoops (task.wake loop wakeup) := by
  by_cases stays : wakeup = .cancelled
  · subst stays
    refine ⟨fun l alive => ?_, rfl, rfl⟩
    rw [isAlive_wake] at alive
    split at alive
    · cases alive
    · exact alive
  · exact (keepsLoops_wake stays).losesLoops

end PeriodicTask

end Tollgate
