import Tollgate.Speed.TokenBucket

/-!
# What a token bucket grants

A take is decided by the arrival it would leave: it is granted if that is no further from the
present than a full bucket is worth (`TokenBucket.take_eq`). So whatever was taken before, a bucket
is never behind by more than its span (`TokenBucket.arrival_taking_le`).
-/

namespace Tollgate

namespace TokenBucket

variable {bucket later : TokenBucket} {bytes now : Nat}

/-- The nanoseconds that a full bucket is worth. -/
def span (bucket : TokenBucket) : Nat := bucket.cost * bucket.capacity.toNat

/-- The bucket with bytes taken out of it. -/
def taking (bucket : TokenBucket) (bytes now : Nat) : TokenBucket :=
  { bucket with arrival := some (max (bucket.arrivalAt now) now + bucket.cost * bytes) }

theorem cost_pos (bucket : TokenBucket) : 0 < bucket.cost :=
  Nat.lt_of_lt_of_le Nat.one_pos (Nat.le_max_left _ _)

theorem arrival_taking : (bucket.taking bytes now).arrival =
    some (max (bucket.arrivalAt now) now + bucket.cost * bytes) := rfl

/-- The first byte of a request costs as much as each other. -/
theorem cost_add_weight (bucket : TokenBucket) (positive : 0 < bytes) :
    bucket.cost + bucket.cost * (bytes - 1) = bucket.cost * bytes := by
  obtain ⟨rest, rfl⟩ := Nat.exists_eq_succ_of_ne_zero (Nat.ne_of_gt positive)
  rw [Nat.succ_sub_one, Nat.mul_succ, Nat.add_comm]

theorem cost_add_tolerance (bucket : TokenBucket) : bucket.cost + bucket.tolerance = bucket.span :=
  bucket.cost_add_weight bucket.toNat_capacity_pos

theorem tolerance_lt_iff (bucket : TokenBucket) (positive : 0 < bytes) :
    bucket.tolerance < bucket.cost * (bytes - 1) ↔ bucket.capacity.toNat < bytes := by
  have capacity := bucket.toNat_capacity_pos
  rw [tolerance, Nat.mul_lt_mul_left bucket.cost_pos]
  omega

/-- More than the bucket holds is never granted. Otherwise a take is granted, or has to wait, by the
arrival that it would leave. -/
theorem take_eq (bucket : TokenBucket) (positive : 0 < bytes) (now : Nat) :
    bucket.take bytes now =
      if bucket.capacity.toNat < bytes then .never
      else if bucket.arrivalAt now + bucket.cost * bytes ≤ now + bucket.span then
        .granted (bucket.taking bytes now)
      else .wait (bucket.arrivalAt now + bucket.cost * bytes - bucket.span) := by
  have weight := bucket.cost_add_weight positive
  have tolerance := bucket.cost_add_tolerance
  simp only [take, bucket.tolerance_lt_iff positive]
  split
  · rfl
  next fits =>
    have ready : bucket.arrivalAt now + bucket.cost * (bytes - 1) - bucket.tolerance =
        bucket.arrivalAt now + bucket.cost * bytes - bucket.span := by omega
    have early : now < bucket.arrivalAt now + bucket.cost * (bytes - 1) - bucket.tolerance ↔
        ¬ bucket.arrivalAt now + bucket.cost * bytes ≤ now + bucket.span := by omega
    have cost : max (bucket.arrivalAt now) now + bucket.cost + bucket.cost * (bytes - 1) =
        max (bucket.arrivalAt now) now + bucket.cost * bytes := by omega
    by_cases due : bucket.arrivalAt now + bucket.cost * bytes ≤ now + bucket.span
    · rw [if_neg (fun waits => early.1 waits due), if_pos due, cost]
      rfl
    · rw [if_pos (early.2 due), if_neg due, ready]

/-- What a take leaves if it is granted. -/
theorem take_granted_iff (positive : 0 < bytes) :
    bucket.take bytes now = .granted later ↔
      bytes ≤ bucket.capacity.toNat ∧
        bucket.arrivalAt now + bucket.cost * bytes ≤ now + bucket.span ∧
        later = bucket.taking bytes now := by
  rw [bucket.take_eq positive]
  split
  next large =>
    refine ⟨fun granted => (nomatch granted), ?_⟩
    rintro ⟨fits, -⟩
    omega
  next fits =>
    split
    next due =>
      rw [Verdict.granted.injEq]
      exact ⟨fun same => ⟨Nat.not_lt.1 fits, due, same.symm⟩, fun ⟨_, _, same⟩ => same.symm⟩
    next undue =>
      exact ⟨fun granted => (nomatch granted), fun ⟨_, due, _⟩ => absurd due undue⟩

/-- A take leaves the bucket behind by its span at most. -/
theorem arrival_taking_le (fits : bytes ≤ bucket.capacity.toNat)
    (due : bucket.arrivalAt now + bucket.cost * bytes ≤ now + bucket.span) :
    max (bucket.arrivalAt now) now + bucket.cost * bytes ≤ now + bucket.span := by
  have full : bucket.cost * bytes ≤ bucket.span := Nat.mul_le_mul_left _ fits
  omega

/-- A bucket that was not used holds its capacity. -/
theorem take_capacity_of_unused (unused : bucket.arrival = none) (now : Nat) :
    bucket.take bucket.capacity.toNat now =
      .granted (bucket.taking bucket.capacity.toNat now) := by
  rw [take_granted_iff bucket.toNat_capacity_pos]
  refine ⟨Nat.le_refl _, ?_, rfl⟩
  rw [arrivalAt, unused, Option.getD_none]
  exact Nat.le_refl _

/-- The bucket of a rate holds as many bytes as the rate has, as far as a word counts them. -/
theorem exists_ofRate? {rate : UInt64} (limited : 0 < rate) :
    ∃ bucket, ofRate? rate = some bucket ∧
      bucket.capacity.toNat = min rate.toNat (UInt32.size - 1) ∧ bucket.arrival = none := by
  have positive : 0 < rate.toNat := UInt64.lt_iff_toNat_lt.1 limited
  have size : UInt32.size = 4294967296 := rfl
  have count : (UInt32.ofNat (min rate.toNat (UInt32.size - 1))).toNat =
      min rate.toNat (UInt32.size - 1) :=
    UInt32.toNat_ofNat_of_lt (by omega)
  have nonzero : 0 < UInt32.ofNat (min rate.toNat (UInt32.size - 1)) := by
    rw [UInt32.lt_iff_toNat_lt, count]
    show 0 < _
    omega
  exact ⟨⟨_, nonzero, none⟩, by rw [ofRate?, dif_pos nonzero], count, rfl⟩

end TokenBucket

end Tollgate
