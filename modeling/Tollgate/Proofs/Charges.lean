import Tollgate.Proofs.SpeedCap

/-!
# What a request at once is charged

A request at once is counted in a word of 32 bits: up to the greatest word it counts as what it asks
for, and above as the greatest word (`TokenBucket.countOf`). The capacity of a bucket ends at the
greatest word too. A bucket with a smaller capacity refuses both alike. A bucket with the greatest
capacity holds the greatest word when it is full, so that it grants any larger request for the price
of its capacity (`TokenBucket.chargesExactly_iff`).
-/

namespace Tollgate

namespace TokenBucket

variable {bucket : TokenBucket} {bytes : UInt64} {now : Nat}

/-- What a request at once counts as. -/
def countOf (bytes : UInt64) : Nat := min bytes.toNat (UInt32.size - 1)

theorem countOf_of_lt (fits : bytes.toNat < UInt32.size) : countOf bytes = bytes.toNat := by
  apply Nat.min_eq_left
  omega

theorem countOf_of_ge (large : UInt32.size ≤ bytes.toNat) : countOf bytes = UInt32.size - 1 := by
  apply Nat.min_eq_right
  omega

/-- A request at once is decided by what it counts as. -/
theorem tryConsume_eq (bucket : TokenBucket) (bytes : UInt64) (now : Nat) :
    bucket.tryConsume bytes now =
      if countOf bytes = 0 then (true, bucket)
      else if countOf bytes ≤ bucket.capacity.toNat ∧
          bucket.arrivalAt now + bucket.cost * countOf bytes ≤ now + bucket.span then
        (true, bucket.taking (countOf bytes) now)
      else (false, bucket) := by
  unfold tryConsume
  by_cases nothing : countOf bytes = 0
  · rw [if_pos nothing]
    exact if_pos nothing
  · rw [if_neg nothing]
    refine (if_neg nothing).trans ?_
    by_cases had : countOf bytes ≤ bucket.capacity.toNat ∧
        bucket.arrivalAt now + bucket.cost * countOf bytes ≤ now + bucket.span
    · rw [if_pos had]
      have granted := (take_granted_iff (Nat.pos_of_ne_zero nothing)).2 ⟨had.1, had.2, rfl⟩
      have asked : min bytes.toNat (UInt32.size - 1) = countOf bytes := rfl
      rw [asked, granted]
    · rw [if_neg had]
      split
      next later granted =>
        have due := (take_granted_iff (Nat.pos_of_ne_zero nothing)).1 granted
        exact absurd ⟨due.1, due.2.1⟩ had
      next => rfl

/-- A request at once is charged what it asks for. -/
structure ChargesExactly (bucket : TokenBucket) (bytes : UInt64) (now : Nat) : Prop where
  /-- Bytes that are granted move the arrival on by their cost, and no bytes leave it alone. -/
  paid : (bucket.tryConsume bytes now).1 = true →
    (bucket.tryConsume bytes now).2 =
      if bytes = 0 then bucket
      else
        { bucket with
          arrival := some (max (bucket.arrivalAt now) now + bucket.cost * bytes.toNat) }
  /-- More than the capacity is refused, and the bucket stays as it is. -/
  bounded : bucket.capacity.toNat < bytes.toNat → bucket.tryConsume bytes now = (false, bucket)

theorem chargesExactly_of_lt (fits : bytes.toNat < UInt32.size) :
    bucket.ChargesExactly bytes now := by
  have decided := bucket.tryConsume_eq bytes now
  rw [countOf_of_lt fits] at decided
  constructor
  · intro granted
    rw [decided] at granted ⊢
    by_cases nothing : bytes.toNat = 0
    · rw [if_pos nothing, if_pos (UInt64.toNat_inj.1 nothing)]
    · rw [if_neg nothing] at granted ⊢
      rw [if_neg fun zero => nothing (congrArg UInt64.toNat zero)]
      split at granted
      next had =>
        rw [if_pos had]
        rfl
      next => cases granted
  · intro large
    rw [decided, if_neg (by omega), if_neg fun had => Nat.not_le.2 large had.1]

/-- A request for more than any bucket holds is granted by a full bucket of the greatest capacity.
-/
theorem tryConsume_of_ge (large : UInt32.size ≤ bytes.toNat) :
    bucket.tryConsume bytes now =
      if bucket.capacity.toNat = UInt32.size - 1 ∧ bucket.arrivalAt now ≤ now then
        (true, bucket.taking (UInt32.size - 1) now)
      else (false, bucket) := by
  have size : UInt32.size = 4294967296 := rfl
  have word : bucket.capacity.toNat < UInt32.size := bucket.capacity.toNat_lt
  have full : (UInt32.size - 1 ≤ bucket.capacity.toNat ∧
      bucket.arrivalAt now + bucket.cost * (UInt32.size - 1) ≤ now + bucket.span) ↔
        bucket.capacity.toNat = UInt32.size - 1 ∧ bucket.arrivalAt now ≤ now := by
    by_cases greatest : bucket.capacity.toNat = UInt32.size - 1
    · rw [span, greatest, Nat.add_le_add_iff_right]
      exact and_congr_left fun _ => ⟨fun _ => rfl, fun _ => Nat.le_refl _⟩
    · constructor
      · rintro ⟨holds, -⟩
        omega
      · rintro ⟨same, -⟩
        exact absurd same greatest
  rw [tryConsume_eq, countOf_of_ge large, if_neg (by omega)]
  simp only [full]

/-- Only a request for more than any bucket holds is charged wrong, and only by a full bucket of the
greatest capacity. -/
theorem chargesExactly_iff :
    bucket.ChargesExactly bytes now ↔
      bytes.toNat < UInt32.size ∨ bucket.capacity.toNat < UInt32.size - 1 ∨
        now < bucket.arrivalAt now := by
  have word : bucket.capacity.toNat < UInt32.size := bucket.capacity.toNat_lt
  rcases Nat.lt_or_ge bytes.toNat UInt32.size with fits | large
  · exact ⟨fun _ => Or.inl fits, fun _ => chargesExactly_of_lt fits⟩
  have above : bucket.capacity.toNat < bytes.toNat := by omega
  have decided := @tryConsume_of_ge bucket bytes now large
  constructor
  · intro exact
    rw [exact.bounded above] at decided
    by_contra wrong
    rw [if_pos (by omega)] at decided
    cases decided
  · intro kept
    rw [if_neg (by omega)] at decided
    refine ⟨fun granted => ?_, fun _ => decided⟩
    rw [decided] at granted
    cases granted

end TokenBucket

/-- The bucket of a rate, however it was used, charges a request at once exactly the bytes that it
asks for and refuses more than its capacity, unless the request is for more than a word counts, the
rate is cut to the greatest word and the bucket is full: then the request is granted and charged the
capacity. So a rate charges every request right exactly if it is less than the greatest word. -/
theorem requests_charged_exactly_iff {rate : UInt64} (limited : 0 < rate) :
    ∃ bucket, TokenBucket.ofRate? rate = some bucket ∧
      bucket.capacity.toNat = min rate.toNat (UInt32.size - 1) ∧
      (∀ used : TokenBucket, used.capacity = bucket.capacity → ∀ (bytes : UInt64) (now : Nat),
        (used.ChargesExactly bytes now ↔
          bytes.toNat < UInt32.size ∨ rate.toNat < UInt32.size - 1 ∨ now < used.arrivalAt now) ∧
        (¬ used.ChargesExactly bytes now →
          used.tryConsume bytes now = (true, used.taking (UInt32.size - 1) now))) ∧
      ((∀ start later, Meter.Run ⟨bucket, start, []⟩ later → ∀ bytes : UInt64,
          later.bucket.ChargesExactly bytes later.now) ↔
        rate.toNat < UInt32.size - 1) := by
  obtain ⟨bucket, made, size, unused⟩ := TokenBucket.exists_ofRate? limited
  have smaller : bucket.capacity.toNat < UInt32.size - 1 ↔ rate.toNat < UInt32.size - 1 := by
    omega
  refine ⟨bucket, made, size, ?_, ?_, ?_⟩
  · intro used same bytes now
    have charged := @TokenBucket.chargesExactly_iff used bytes now
    rw [same, smaller] at charged
    refine ⟨charged, ?_⟩
    intro wrong
    rw [charged, ← smaller, ← same] at wrong
    have word : used.capacity.toNat < UInt32.size := used.capacity.toNat_lt
    rw [TokenBucket.tryConsume_of_ge (by omega), if_pos (by omega)]
  · intro always
    have fresh := always 0 ⟨bucket, 0, []⟩ .refl (UInt64.ofNat UInt32.size)
    rw [TokenBucket.chargesExactly_iff, smaller, TokenBucket.arrivalAt, unused] at fresh
    rcases fresh with fits | slow | ahead
    · exact absurd fits (by decide)
    · exact slow
    · exact absurd ahead (Nat.lt_irrefl 0)
  · intro slow start later run bytes
    rw [TokenBucket.chargesExactly_iff, Meter.capacity_of_run run, smaller]
    exact Or.inr (Or.inl slow)

/-- A thousand bytes a second: the greatest request there is finds the bucket full and is refused.
-/
theorem requests_charged_exactly_thousand :
    ∃ bucket, TokenBucket.ofRate? 1000 = some bucket ∧
      bucket.ChargesExactly 18446744073709551615 5 ∧
      bucket.tryConsume 18446744073709551615 5 = (false, bucket) := by
  obtain ⟨bucket, made, size, charged, -⟩ := @requests_charged_exactly_iff 1000 (by decide)
  have exact := (charged bucket rfl 18446744073709551615 5).1.2 (Or.inr (Or.inl (by decide)))
  refine ⟨bucket, made, exact, exact.bounded ?_⟩
  rw [size]
  decide

/-- A bucket with the greatest capacity grants one byte more than it holds, and charges no more than
it holds. -/
theorem overlong_request_granted :
    ∃ bucket : TokenBucket, TokenBucket.ofRate? 4294967295 = some bucket ∧
      bucket.capacity.toNat = 4294967295 ∧
      bucket.tryConsume 4294967296 0 = (true, { bucket with arrival := some 4294967295 }) ∧
      ¬ bucket.ChargesExactly 4294967296 0 := by
  refine ⟨⟨4294967295, by decide, none⟩, by decide, by decide, by decide, ?_⟩
  rw [TokenBucket.chargesExactly_iff]
  decide

end Tollgate
