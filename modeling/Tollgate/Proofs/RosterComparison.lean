import Tollgate.Control.RosterDiff

/-!
# Comparing rosters

The entries that one roster has and another lacks are found in one pass: an entry is taken if the
other roster lacks it and it was not taken before (`RosterDiff.pick`). The invariant of the pass is
about the entries taken so far, and from it comes all that is said about the lists of a difference
(`RosterDiff.Lists`): what is in them, that nothing is in them twice, and their order.

A difference can be carried out on the roster it starts from (`RosterDiff.carryOut`), and what that
leaves has the same entries as the roster it leads to.
-/

namespace Tollgate

namespace RosterDiff

/-! ### One pass over a roster -/

/-- The entries of a list that another lacks, in one pass. What was taken before is not taken
again. -/
def pick (other : List RosterUser) : List RosterUser → List RosterUser → List RosterUser
  | _, [] => []
  | seen, user :: rest =>
    if user ∈ other ∨ user ∈ seen then pick other seen rest
    else user :: pick other (user :: seen) rest

variable {other seen present : List RosterUser} {user : RosterUser}

theorem pick_eq_eraseDups :
    pick other seen present =
      (present.filter fun user => user ∉ other ∧ user ∉ seen).eraseDups := by
  induction present generalizing seen with
  | nil => rfl
  | cons user rest ih =>
    rw [pick]
    split
    next passed =>
      rw [ih, List.filter_cons_of_neg]
      simp only [decide_eq_true_eq]
      rintro ⟨unknown, untaken⟩
      exact passed.elim unknown untaken
    next new =>
      rw [ih, List.filter_cons_of_pos (by simpa using new), List.eraseDups_cons,
        List.filter_filter]
      congr 2
      apply List.filter_congr
      intro entry _
      by_cases same : entry = user
      · simp [same]
      · simp [same]

/-- The lists of a difference are those of the pass. -/
theorem missing_eq_pick (present other : List RosterUser) :
    missing present other = pick other [] present := by
  simp [pick_eq_eraseDups, missing]

theorem mem_pick :
    user ∈ pick other seen present ↔ user ∈ present ∧ user ∉ other ∧ user ∉ seen := by
  rw [pick_eq_eraseDups, List.mem_eraseDups, List.mem_filter, decide_eq_true_eq]

/-- Entries are taken in the order in which they come up first. -/
theorem pairwise_pick :
    (pick other seen present).Pairwise
      (fun x y => present.idxOf x < present.idxOf y) := by
  induction present generalizing seen with
  | nil => exact List.Pairwise.nil
  | cons user rest ih =>
    -- Whatever is taken from the rest is another entry, so it comes up one place later.
    have later {x : RosterUser} (differs : x ≠ user) :
        (user :: rest).idxOf x = rest.idxOf x + 1 := by
      rw [List.idxOf_cons, beq_false_of_ne (Ne.symm differs), cond_false]
    have shifted {taken : List RosterUser} (apart : ∀ x ∈ pick other taken rest, x ≠ user) :
        (pick other taken rest).Pairwise
          (fun x y => (user :: rest).idxOf x < (user :: rest).idxOf y) := by
      refine List.Pairwise.imp_of_mem ?_ (@ih taken)
      intro x y memberx membery before
      rw [later (apart x memberx), later (apart y membery)]
      omega
    rw [pick]
    split
    next passed =>
      apply shifted
      rintro x member rfl
      obtain ⟨-, unknown, untaken⟩ := mem_pick.1 member
      exact passed.elim unknown untaken
    next new =>
      have apart : ∀ x ∈ pick other (user :: seen) rest, x ≠ user := by
        rintro x member rfl
        exact (mem_pick.1 member).2.2 List.mem_cons_self
      refine List.pairwise_cons.2 ⟨?_, shifted apart⟩
      intro x member
      rw [later (apart x member), List.idxOf_cons_self]
      exact Nat.succ_pos _

/-! ### What a difference lists -/

/-- A list has the entries of another that are of a kind, each once and in the order in which they
come up first. -/
structure Lists (listed : List RosterUser) (source : List RosterUser) (kind : RosterUser → Prop) :
    Prop where
  mem_iff : ∀ user, user ∈ listed ↔ user ∈ source ∧ kind user
  nodup : listed.Nodup
  ordered : listed.Pairwise (fun x y => source.idxOf x < source.idxOf y)

theorem lists_missing (present other : List RosterUser) :
    Lists (missing present other) present (· ∉ other) where
  mem_iff _ := mem_missing
  nodup := by
    rw [missing_eq_pick]
    refine pairwise_pick.imp ?_
    rintro x _ before rfl
    exact Nat.lt_irrefl _ before
  ordered := by
    rw [missing_eq_pick]
    exact pairwise_pick

theorem missing_eq_nil_iff {present other : List RosterUser} :
    missing present other = [] ↔ ∀ user ∈ present, user ∈ other := by
  simp only [List.eq_nil_iff_forall_not_mem, mem_missing, not_and, Decidable.not_not]

variable {old new : List RosterUser}

theorem isEmpty_between_iff :
    (between old new).isEmpty = true ↔ ∀ user, user ∈ old ↔ user ∈ new := by
  simp only [isEmpty, between, Bool.and_eq_true, List.isEmpty_iff, missing_eq_nil_iff]
  constructor
  · rintro ⟨inOld, inNew⟩ user
    exact ⟨inNew user, inOld user⟩
  · intro same
    exact ⟨fun user => (same user).2, fun user => (same user).1⟩

/-- Only which entries there are counts, not their order and not how often they come up. -/
theorem mem_missing_congr {present' other' : List RosterUser}
    (samePresent : ∀ user, user ∈ present' ↔ user ∈ present)
    (sameOther : ∀ user, user ∈ other' ↔ user ∈ other) (user : RosterUser) :
    user ∈ missing present' other' ↔ user ∈ missing present other := by
  rw [mem_missing, mem_missing, samePresent, sameOther]

/-! ### Differences that are carried out -/

/-- A roster without the removed entries and with the added ones. -/
def carryOut (diff : RosterDiff) (roster : List RosterUser) : List RosterUser :=
  roster.filter (· ∉ diff.removed) ++ diff.added

theorem mem_carryOut_between :
    user ∈ (between old new).carryOut old ↔ user ∈ new := by
  simp only [carryOut, between, List.mem_append, List.mem_filter, decide_eq_true_eq, mem_missing]
  by_cases known : user ∈ old
  · by_cases listed : user ∈ new
    · simp [known, listed]
    · simp [known, listed]
  · simp [known]

/-- The difference between two rosters lists exactly the entries that only one of them has, each
once and in the order of first occurrence. There is nothing to do exactly if both have the same
entries, and which entries are listed depends only on which entries the rosters have. Carried out on
the old roster it gives the entries of the new one, and then nothing is left to do. -/
theorem roster_diff_is_exact (old new : List RosterUser) :
    Lists (between old new).added new (· ∉ old) ∧
    Lists (between old new).removed old (· ∉ new) ∧
    ((between old new).isEmpty = true ↔ ∀ user, user ∈ old ↔ user ∈ new) ∧
    (∀ old' new', (∀ user, user ∈ old' ↔ user ∈ old) → (∀ user, user ∈ new' ↔ user ∈ new) →
      ∀ user, (user ∈ (between old' new').added ↔ user ∈ (between old new).added) ∧
        (user ∈ (between old' new').removed ↔ user ∈ (between old new).removed)) ∧
    (∀ user, user ∈ (between old new).carryOut old ↔ user ∈ new) ∧
    (between ((between old new).carryOut old) new).isEmpty = true := by
  refine ⟨lists_missing new old, lists_missing old new, isEmpty_between_iff, ?_,
    fun _ => mem_carryOut_between, isEmpty_between_iff.2 fun _ => mem_carryOut_between⟩
  intro old' new' sameOld sameNew user
  exact ⟨mem_missing_congr sameNew sameOld user, mem_missing_congr sameOld sameNew user⟩

/-- One user has another speed in the new roster and one is new. Both rosters have an entry twice;
without the repeats and in another order they give the same entries, in another order too. -/
theorem roster_diff_is_exact_reordered :
    ∃ old new old' new' : List RosterUser,
      old = [⟨1, ⟨0⟩, 100, 0⟩, ⟨2, ⟨0⟩, 100, 0⟩, ⟨1, ⟨0⟩, 100, 0⟩] ∧
      new = [⟨3, ⟨0⟩, 0, 0⟩, ⟨2, ⟨0⟩, 200, 0⟩, ⟨3, ⟨0⟩, 0, 0⟩, ⟨1, ⟨0⟩, 100, 0⟩] ∧
      old' = [⟨2, ⟨0⟩, 100, 0⟩, ⟨1, ⟨0⟩, 100, 0⟩] ∧
      new' = [⟨2, ⟨0⟩, 200, 0⟩, ⟨1, ⟨0⟩, 100, 0⟩, ⟨3, ⟨0⟩, 0, 0⟩] ∧
      between old new = ⟨[⟨3, ⟨0⟩, 0, 0⟩, ⟨2, ⟨0⟩, 200, 0⟩], [⟨2, ⟨0⟩, 100, 0⟩]⟩ ∧
      between old' new' = ⟨[⟨2, ⟨0⟩, 200, 0⟩, ⟨3, ⟨0⟩, 0, 0⟩], [⟨2, ⟨0⟩, 100, 0⟩]⟩ ∧
      (∀ user, user ∈ (between old' new').added ↔ user ∈ (between old new).added) ∧
      (∀ user, user ∈ (between old new).carryOut old ↔ user ∈ new) ∧
      (between ((between old new).carryOut old) new).isEmpty = true := by
  let old : List RosterUser := [⟨1, ⟨0⟩, 100, 0⟩, ⟨2, ⟨0⟩, 100, 0⟩, ⟨1, ⟨0⟩, 100, 0⟩]
  let new : List RosterUser :=
    [⟨3, ⟨0⟩, 0, 0⟩, ⟨2, ⟨0⟩, 200, 0⟩, ⟨3, ⟨0⟩, 0, 0⟩, ⟨1, ⟨0⟩, 100, 0⟩]
  obtain ⟨-, -, -, regardless, carried, done⟩ := roster_diff_is_exact old new
  have same := regardless [⟨2, ⟨0⟩, 100, 0⟩, ⟨1, ⟨0⟩, 100, 0⟩]
    [⟨2, ⟨0⟩, 200, 0⟩, ⟨1, ⟨0⟩, 100, 0⟩, ⟨3, ⟨0⟩, 0, 0⟩]
    (fun user => by simp only [old, List.mem_cons]; grind)
    (fun user => by simp only [new, List.mem_cons]; grind)
  exact ⟨old, new, _, _, rfl, rfl, rfl, rfl, by decide, by decide, fun user => (same user).1,
    carried, done⟩

end RosterDiff

end Tollgate
