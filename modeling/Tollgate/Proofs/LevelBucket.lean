import Tollgate.Proofs.SpeedCap

/-!
# Token buckets as levels

The bucket of a textbook holds a level: it starts full, rises by one each nanosecond as long as it is
not full, and drops by the cost of the bytes that are taken. The buckets of the node keep an arrival
instead, the moment at which they will be full again, and none at all before their first use.

The two are related by `Shows`: what the level misses is what the arrival is ahead of the present.
Time and takes keep that relation, whatever their order, and the answers are the same.
-/

namespace Tollgate

/-- A bucket with a level, in nanoseconds. -/
structure LevelBucket where
  cost : Nat
  capacity : Nat
  level : Nat

namespace LevelBucket

/-- What a full bucket is worth. -/
def full (plain : LevelBucket) : Nat := plain.cost * plain.capacity

/-- A bucket at its start. -/
def filled (cost capacity : Nat) : LevelBucket := ⟨cost, capacity, cost * capacity⟩

/-- Time fills the bucket and then no further. -/
def wait (plain : LevelBucket) (nanos : Nat) : LevelBucket :=
  { plain with level := min (plain.level + nanos) plain.full }

/-- Takes bytes if the level is worth them, and says whether. -/
def take (plain : LevelBucket) (bytes : Nat) : Bool × LevelBucket :=
  if plain.cost * bytes ≤ plain.level then
    (true, { plain with level := plain.level - plain.cost * bytes })
  else (false, plain)

end LevelBucket

/-- What happens to a bucket: its clock goes on, or bytes are asked for at once. -/
inductive BucketMove where
  | wait (nanos : Nat)
  | take (bytes : UInt64)

/-- No more bytes are asked for than any bucket could hold. -/
def BucketMove.Fits : BucketMove → Prop
  | .wait _ => True
  | .take bytes => bytes.toNat < UInt32.size

instance : DecidablePred BucketMove.Fits
  | .wait _ => inferInstanceAs (Decidable True)
  | .take bytes => inferInstanceAs (Decidable (bytes.toNat < UInt32.size))

/-- The answers of a bucket with a level to the takes among some moves, and what they leave. -/
def LevelBucket.play (plain : LevelBucket) : List BucketMove → List Bool × LevelBucket
  | [] => ([], plain)
  | .wait nanos :: moves => (plain.wait nanos).play moves
  | .take bytes :: moves =>
    let after := (plain.take bytes.toNat).2.play moves
    ((plain.take bytes.toNat).1 :: after.1, after.2)

/-- The answers of a bucket in use to the takes among some moves, and what they leave. -/
def Meter.play (meter : Meter) : List BucketMove → List Bool × Meter
  | [] => ([], meter)
  | .wait nanos :: moves => Meter.play { meter with now := meter.now + nanos } moves
  | .take bytes :: moves =>
    let after := (meter.tryConsume bytes).play moves
    ((meter.bucket.tryConsume bytes meter.now).1 :: after.1, after.2)

/-- Moves are things that happen to a bucket in use. -/
theorem Meter.run_play {meter : Meter} {moves : List BucketMove}
    (fits : ∀ move ∈ moves, move.Fits) :
    meter.Run (meter.play moves).2 := by
  induction moves generalizing meter with
  | nil => exact .refl
  | cons move moves ih =>
    obtain ⟨first, rest⟩ := List.forall_mem_cons.1 fits
    cases move with
    | wait nanos => exact .head (.advance (Nat.le_add_right _ _)) (ih rest)
    | take bytes => exact .head (.tryConsume first) (ih rest)

/-! ### The level that an arrival shows -/

/-- The level misses what the arrival is ahead of the present. -/
structure Shows (plain : LevelBucket) (bucket : TokenBucket) (now : Nat) : Prop where
  cost_eq : plain.cost = bucket.cost
  capacity_eq : plain.capacity = bucket.capacity.toNat
  level_eq : plain.level + (bucket.arrivalAt now - now) = bucket.span

namespace Shows

variable {plain : LevelBucket} {bucket later : TokenBucket} {bytes now : Nat}

theorem full_eq (h : Shows plain bucket now) : plain.full = bucket.span := by
  rw [LevelBucket.full, h.cost_eq, h.capacity_eq]
  rfl

/-- A bucket that was never used is full. -/
theorem of_unused (unused : bucket.arrival = none) (now : Nat) :
    Shows (.filled bucket.cost bucket.capacity.toNat) bucket now where
  cost_eq := rfl
  capacity_eq := rfl
  level_eq := by
    rw [TokenBucket.arrivalAt, unused, Option.getD_none, Nat.sub_self]
    rfl

theorem wait (h : Shows plain bucket now) (nanos : Nat) :
    Shows (plain.wait nanos) bucket (now + nanos) := by
  refine ⟨h.cost_eq, h.capacity_eq, ?_⟩
  have level := h.level_eq
  rw [LevelBucket.wait, h.full_eq]
  cases used : bucket.arrival with
  | none =>
    simp only [TokenBucket.arrivalAt, used, Option.getD_none] at level ⊢
    omega
  | some arrival =>
    simp only [TokenBucket.arrivalAt, used, Option.getD_some] at level ⊢
    omega

/-- The level is worth the bytes exactly if the arrival stays within a full bucket. A level is never
worth more than a full bucket, so more than the capacity is refused too. -/
theorem granted_iff (h : Shows plain bucket now) (positive : 0 < bytes) :
    bucket.take bytes now = .granted later ↔
      plain.cost * bytes ≤ plain.level ∧ later = bucket.taking bytes now := by
  have level := h.level_eq
  have holds : bucket.cost * bytes ≤ bucket.span ↔ bytes ≤ bucket.capacity.toNat :=
    Nat.mul_le_mul_left_iff bucket.cost_pos
  rw [TokenBucket.take_granted_iff positive, ← holds, h.cost_eq, ← and_assoc]
  refine and_congr_left fun _ => ⟨?_, ?_⟩
  · rintro ⟨fits, due⟩
    omega
  · intro worth
    constructor
    · omega
    · omega

/-- The cost of a take that is granted goes from the level to the arrival. -/
theorem taking (h : Shows plain bucket now) (worth : plain.cost * bytes ≤ plain.level) :
    Shows { plain with level := plain.level - plain.cost * bytes } (bucket.taking bytes now) now
    where
  cost_eq := h.cost_eq
  capacity_eq := h.capacity_eq
  level_eq := by
    have level := h.level_eq
    have span : (bucket.taking bytes now).span = bucket.span := rfl
    rw [h.cost_eq] at worth ⊢
    rw [span, TokenBucket.arrivalAt, TokenBucket.arrival_taking, Option.getD_some]
    dsimp only
    omega

/-- A take has the same answer, and keeps the relation. -/
theorem tryConsume (h : Shows plain bucket now) {bytes : UInt64}
    (fits : bytes.toNat < UInt32.size) :
    (bucket.tryConsume bytes now).1 = (plain.take bytes.toNat).1 ∧
      Shows (plain.take bytes.toNat).2 (bucket.tryConsume bytes now).2 now := by
  have asked : min bytes.toNat (UInt32.size - 1) = bytes.toNat := Nat.min_eq_left (by omega)
  simp only [TokenBucket.tryConsume, asked, LevelBucket.take]
  by_cases nothing : bytes.toNat = 0
  · rw [if_pos nothing, nothing, Nat.mul_zero, if_pos (Nat.zero_le _)]
    exact ⟨rfl, h⟩
  · have positive := Nat.pos_of_ne_zero nothing
    rw [if_neg nothing]
    by_cases worth : plain.cost * bytes.toNat ≤ plain.level
    · rw [(h.granted_iff positive).2 ⟨worth, rfl⟩, if_pos worth]
      exact ⟨rfl, h.taking worth⟩
    · rw [if_neg worth]
      split
      next granted => exact absurd ((h.granted_iff positive).1 granted).1 worth
      next => exact ⟨rfl, h⟩

/-- Whatever happens, the answers are the same and the level is shown. -/
theorem play {meter : Meter} {moves : List BucketMove} (h : Shows plain meter.bucket meter.now)
    (fits : ∀ move ∈ moves, move.Fits) :
    (meter.play moves).1 = (plain.play moves).1 ∧
      Shows (plain.play moves).2 (meter.play moves).2.bucket (meter.play moves).2.now := by
  induction moves generalizing plain meter with
  | nil => exact ⟨rfl, h⟩
  | cons move moves ih =>
    obtain ⟨first, rest⟩ := List.forall_mem_cons.1 fits
    cases move with
    | wait nanos =>
      exact @ih _ { meter with now := meter.now + nanos } (h.wait nanos) rest
    | take bytes =>
      obtain ⟨answer, shown⟩ := h.tryConsume first
      obtain ⟨answers, after⟩ := @ih _ (meter.tryConsume bytes) shown rest
      exact ⟨congrArg₂ List.cons answer answers, after⟩

/-- So the arrival is never further ahead than a full bucket. -/
theorem arrivalAt_le (h : Shows plain bucket now) :
    bucket.arrivalAt now ≤ now + bucket.span := by
  have level := h.level_eq
  omega

theorem level_le (h : Shows plain bucket now) : plain.level ≤ plain.full := by
  rw [h.full_eq, ← h.level_eq]
  exact Nat.le_add_right _ _

end Shows

/-- The bucket of a rate gives the answers of a bucket with a level that starts full, whatever is
asked for and whenever. The level stays between empty and full, the arrival within a full bucket of
the present, and in any window no more is taken than the capacity and what the window gives back. -/
theorem bucket_refines_level {rate : UInt64} (limited : 0 < rate) (start : Nat)
    {moves : List BucketMove} (fits : ∀ move ∈ moves, move.Fits) :
    ∃ bucket, TokenBucket.ofRate? rate = some bucket ∧
      bucket.capacity.toNat = min rate.toNat (UInt32.size - 1) ∧
      bucket.cost = max 1 (TokenBucket.nanosPerSecond / bucket.capacity.toNat) ∧
      ∃ answers meter plain, Meter.play ⟨bucket, start, []⟩ moves = (answers, meter) ∧
        (LevelBucket.filled bucket.cost bucket.capacity.toNat).play moves = (answers, plain) ∧
        plain.level ≤ bucket.cost * bucket.capacity.toNat ∧
        plain.level + (meter.bucket.arrivalAt meter.now - meter.now) =
          bucket.cost * bucket.capacity.toNat ∧
        meter.bucket.arrivalAt meter.now ≤ meter.now + bucket.cost * bucket.capacity.toNat ∧
        ∀ start width, bytesWithin start width meter.taken ≤
          bucket.capacity.toNat + width / bucket.cost := by
  obtain ⟨bucket, made, size, unused⟩ := TokenBucket.exists_ofRate? limited
  obtain ⟨answers, shown⟩ := @Shows.play _ ⟨bucket, start, []⟩ _ (.of_unused unused start) fits
  have run := @Meter.run_play ⟨bucket, start, []⟩ _ fits
  have capacity := Meter.capacity_of_run run
  have cost := Meter.cost_of_run run
  have span : (Meter.play ⟨bucket, start, []⟩ moves).2.bucket.span =
      bucket.cost * bucket.capacity.toNat := by
    rw [TokenBucket.span, cost, capacity]
  refine ⟨bucket, made, size, rfl, _, _, _, Prod.ext rfl rfl, Prod.ext answers.symm rfl, ?_, ?_, ?_,
    ?_⟩
  · rw [← span, ← shown.full_eq]
    exact shown.level_le
  · rw [← span]
    exact shown.level_eq
  · rw [← span]
    exact shown.arrivalAt_le
  · intro window width
    have within := @Within.run window width ⟨bucket, start, []⟩ _ (.of_nothing _ _ _) run
    rw [← cost, ← capacity]
    exact within.bytes_le

/-- A thousand bytes a second: six hundred and four hundred at once, then nothing is left until a
millisecond gives a byte back. -/
theorem bucket_refines_level_thousand :
    ∃ bucket, TokenBucket.ofRate? 1000 = some bucket ∧
      bucket.capacity.toNat = min 1000 (UInt32.size - 1) ∧
      bucket.cost = max 1 (TokenBucket.nanosPerSecond / bucket.capacity.toNat) ∧
      ∃ answers meter plain,
        Meter.play ⟨bucket, 5, []⟩ [.take 600, .take 400, .take 1, .wait 1000000, .take 1] =
          (answers, meter) ∧
        (LevelBucket.filled bucket.cost bucket.capacity.toNat).play
          [.take 600, .take 400, .take 1, .wait 1000000, .take 1] = (answers, plain) ∧
        plain.level ≤ bucket.cost * bucket.capacity.toNat ∧
        plain.level + (meter.bucket.arrivalAt meter.now - meter.now) =
          bucket.cost * bucket.capacity.toNat ∧
        meter.bucket.arrivalAt meter.now ≤ meter.now + bucket.cost * bucket.capacity.toNat ∧
        ∀ start width, bytesWithin start width meter.taken ≤
          bucket.capacity.toNat + width / bucket.cost :=
  @bucket_refines_level 1000 (by decide) 5 [.take 600, .take 400, .take 1, .wait 1000000, .take 1]
    (by decide)

example : ((LevelBucket.filled 1000000 1000).play
    [.take 600, .take 400, .take 1, .wait 1000000, .take 1]).1 = [true, true, false, true] := by
  decide

end Tollgate
