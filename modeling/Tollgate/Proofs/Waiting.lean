import Tollgate.Proofs.SpeedCap

/-!
# Requests that wait

A request for more bytes than the bucket holds takes them chunk by chunk and waits before each. If
nobody else takes any, the chunks do not show: a chunk that is had leaves the bucket so that the rest
goes on as if it had been asked for in one piece (`taking_taking`, `readyAt_taking`). What a request
leaves and when it ends is then one formula for any number of bytes, and requests in a row add up.

The moment at which it ends is the first possible one: however the bucket is used, it takes until
then to get as many bytes out of it (`Meter.Spent`).
-/

namespace Tollgate

namespace TokenBucket

variable {bucket : TokenBucket} {bytes more now : Nat}

/-- The moment from which so many bytes can be had: their cost has to be within a full bucket. -/
def readyAt (bucket : TokenBucket) (bytes now : Nat) : Nat :=
  max now (max (bucket.arrivalAt now) now + bucket.cost * bytes - bucket.span)

theorem arrivalAt_taking (later : Nat) : (bucket.taking bytes now).arrivalAt later =
    max (bucket.arrivalAt now) now + bucket.cost * bytes := rfl

/-! ### Bytes in two pieces -/

/-- Bytes can be had before the arrival that they leave. -/
theorem readyAt_le (bucket : TokenBucket) (bytes now : Nat) :
    bucket.readyAt bytes now ≤ max (bucket.arrivalAt now) now + bucket.cost * bytes :=
  Nat.max_le.2 ⟨Nat.le_trans (Nat.le_max_right _ _) (Nat.le_add_right _ _), Nat.sub_le _ _⟩

/-- So the second piece goes on from the arrival that the first leaves. -/
theorem max_arrivalAt_taking (bucket : TokenBucket) (bytes now : Nat) :
    max ((bucket.taking bytes now).arrivalAt (bucket.readyAt bytes now))
        (bucket.readyAt bytes now) =
      max (bucket.arrivalAt now) now + bucket.cost * bytes :=
  Nat.max_eq_left (bucket.readyAt_le bytes now)

theorem taking_taking (bucket : TokenBucket) (bytes more now : Nat) :
    (bucket.taking bytes now).taking more (bucket.readyAt bytes now) =
      bucket.taking (bytes + more) now := by
  have cost : (bucket.taking bytes now).cost = bucket.cost := rfl
  rw [taking, max_arrivalAt_taking, cost, Nat.add_assoc, ← Nat.mul_add]
  rfl

theorem readyAt_taking (bucket : TokenBucket) (bytes more now : Nat) :
    (bucket.taking bytes now).readyAt more (bucket.readyAt bytes now) =
      bucket.readyAt (bytes + more) now := by
  have cost : (bucket.taking bytes now).cost = bucket.cost := rfl
  have span : (bucket.taking bytes now).span = bucket.span := rfl
  have later : max (bucket.arrivalAt now) now + bucket.cost * bytes - bucket.span ≤
      max (bucket.arrivalAt now) now + bucket.cost * (bytes + more) - bucket.span := by
    rw [Nat.mul_add, ← Nat.add_assoc]
    exact Nat.sub_le_sub_right (Nat.le_add_right _ _) _
  rw [readyAt, max_arrivalAt_taking, cost, span, Nat.add_assoc, ← Nat.mul_add, readyAt, readyAt,
    Nat.max_assoc, Nat.max_eq_right later]

/-! ### One chunk -/

/-- What the bucket holds is had at the moment at which it is ready. -/
theorem takeChunk_of_fits (positive : 0 < bytes) (fits : bytes ≤ bucket.capacity.toNat) :
    bucket.takeChunk bytes now none =
      ⟨bucket.taking bytes now, bucket.readyAt bytes now, .complete⟩ := by
  have full : bucket.cost * bytes ≤ bucket.span := Nat.mul_le_mul_left _ fits
  by_cases due : bucket.arrivalAt now + bucket.cost * bytes ≤ now + bucket.span
  · have granted := (take_granted_iff positive).2 ⟨fits, due, rfl⟩
    have ready : bucket.readyAt bytes now = now := by
      rw [readyAt]
      omega
    simp only [takeChunk, granted, ready]
  · -- a bucket that was never used is full, so there is an arrival
    obtain ⟨arrival, used⟩ : ∃ arrival, bucket.arrival = some arrival := by
      refine Option.ne_none_iff_exists'.1 fun unused => due ?_
      rw [arrivalAt, unused, Option.getD_none]
      omega
    have known (later : Nat) : bucket.arrivalAt later = arrival := by
      rw [arrivalAt, used, Option.getD_some]
    rw [known] at due
    have ready : bucket.readyAt bytes now = arrival + bucket.cost * bytes - bucket.span := by
      rw [readyAt, known]
      omega
    have waits : bucket.take bytes now = .wait (bucket.readyAt bytes now) := by
      rw [take_eq _ positive, known, if_neg (Nat.not_lt.2 fits), if_neg due, ready]
    have granted : bucket.take bytes (bucket.readyAt bytes now) =
        .granted (bucket.taking bytes now) := by
      rw [take_granted_iff positive, known]
      refine ⟨fits, by omega, ?_⟩
      -- the wait ends before the arrival, which decides in both takes
      rw [taking, taking, known, known, Nat.max_eq_left (by omega), Nat.max_eq_left (by omega)]
    simp only [takeChunk, waits, granted, Option.filter_none]

/-! ### All chunks -/

/-- A request is served in one chunk or goes on with the rest. -/
theorem consume_of_pos (positive : 0 < bytes) :
    bucket.consume bytes now none =
      (bucket.taking (min bytes bucket.capacity.toNat) now).consume
        (bytes - min bytes bucket.capacity.toNat)
        (bucket.readyAt (min bytes bucket.capacity.toNat) now) none := by
  have capacity := bucket.toNat_capacity_pos
  have chunk := @takeChunk_of_fits bucket (min bytes bucket.capacity.toNat) now (by omega)
    (Nat.min_le_right _ _)
  rw [consume, if_pos positive]
  simp only [chunk, if_true]

theorem consume_zero : bucket.consume 0 now none = ⟨bucket, now, .complete⟩ := by
  rw [consume, if_neg (Nat.lt_irrefl 0)]

/-- What a request leaves does not depend on its chunks. -/
theorem consume_eq (bucket : TokenBucket) (now : Nat) (positive : 0 < bytes) :
    bucket.consume bytes now none =
      ⟨bucket.taking bytes now, bucket.readyAt bytes now, .complete⟩ := by
  induction bytes using Nat.strongRecOn generalizing bucket now with
  | ind bytes ih =>
    have capacity := bucket.toNat_capacity_pos
    rw [consume_of_pos positive]
    by_cases fits : bytes ≤ bucket.capacity.toNat
    · rw [Nat.min_eq_left fits, Nat.sub_self, consume_zero]
    · have rest : bucket.capacity.toNat + (bytes - bucket.capacity.toNat) = bytes := by omega
      rw [Nat.min_eq_right (by omega), ih _ (by omega) _ _ (by omega), taking_taking,
        readyAt_taking, rest]

/-- Requests in a row are a request for their sum. -/
theorem consume_consume (bucket : TokenBucket) (bytes more now : Nat) :
    (bucket.consume bytes now none).bucket.consume more (bucket.consume bytes now none).now none =
      bucket.consume (bytes + more) now none := by
  rcases Nat.eq_zero_or_pos bytes with rfl | first
  · rw [consume_zero, Nat.zero_add]
  · rcases Nat.eq_zero_or_pos more with rfl | second
    · rw [consume_eq _ _ first, consume_zero, Nat.add_zero, consume_eq _ _ first]
    · rw [consume_eq _ _ first, consume_eq _ _ second, consume_eq _ _ (Nat.add_pos_left first _),
        taking_taking, readyAt_taking]

/-- The chunks of a request are what was asked for. -/
theorem sum_takes (bucket : TokenBucket) (bytes now : Nat) :
    ((bucket.takes bytes now none).map (·.2)).sum = bytes := by
  induction bytes using Nat.strongRecOn generalizing bucket now with
  | ind bytes ih =>
    have capacity := bucket.toNat_capacity_pos
    rw [takes]
    by_cases positive : 0 < bytes
    · have chunk := @takeChunk_of_fits bucket (min bytes bucket.capacity.toNat) now (by omega)
        (Nat.min_le_right _ _)
      simp only [if_pos positive, chunk, if_true, List.map_cons, List.sum_cons]
      rw [ih _ (by omega)]
      omega
    · rw [if_neg positive]
      exact (Nat.eq_zero_of_not_pos positive).symm

end TokenBucket

/-! ### No use of a bucket is faster -/

namespace Meter

/-- All bytes that were taken. -/
def total (meter : Meter) : Nat := (meter.taken.map (·.2)).sum

/-- What was taken since a moment has moved the arrival on from there, and the last take has left it
within a full bucket of the present. -/
structure Spent (bucket : TokenBucket) (start : Nat) (meter : Meter) : Prop where
  capacity_eq : meter.bucket.capacity = bucket.capacity
  forward : start ≤ meter.now
  behind : max (bucket.arrivalAt start) start + bucket.cost * meter.total ≤
    max (meter.bucket.arrivalAt meter.now) meter.now
  bounded : 0 < meter.total → meter.bucket.arrivalAt meter.now ≤ meter.now + bucket.span

theorem total_append_one (taken : List (Nat × Nat)) (bucket : TokenBucket) (now moment bytes : Nat) :
    Meter.total ⟨bucket, now, taken ++ [(moment, bytes)]⟩ =
      Meter.total ⟨bucket, now, taken⟩ + bytes := by
  simp [total]

namespace Spent

variable {bucket : TokenBucket} {start : Nat} {meter next later : Meter}

theorem refl (bucket : TokenBucket) (start : Nat) : Spent bucket start ⟨bucket, start, []⟩ where
  capacity_eq := rfl
  forward := Nat.le_refl _
  behind := Nat.le_refl _
  bounded := fun some_ => absurd some_ (Nat.lt_irrefl 0)

theorem move (h : Spent bucket start meter) (move : meter.Move next) : Spent bucket start next := by
  obtain ⟨capacity, forward, behind, bounded⟩ := h
  have cost : meter.bucket.cost = bucket.cost := by
    rw [TokenBucket.cost, TokenBucket.cost, capacity]
  have span : meter.bucket.span = bucket.span := by
    rw [TokenBucket.span, TokenBucket.span, cost, capacity]
  cases move with
  | advance onward =>
    refine ⟨capacity, Nat.le_trans forward onward, Nat.le_trans behind ?_, fun some_ => ?_⟩
    · -- without an arrival the present stands for it, and moves on too
      cases used : meter.bucket.arrival with
      | none =>
        simp only [TokenBucket.arrivalAt, used, Option.getD_none]
        omega
      | some arrival =>
        simp only [TokenBucket.arrivalAt, used, Option.getD_some]
        omega
    · have reached := bounded some_
      cases used : meter.bucket.arrival with
      | none =>
        simp only [TokenBucket.arrivalAt, used, Option.getD_none]
        exact Nat.le_add_right _ _
      | some arrival =>
        simp only [TokenBucket.arrivalAt, used, Option.getD_some] at reached ⊢
        omega
  | @take bytes positive after granted =>
    obtain ⟨fits, due, rfl⟩ := (TokenBucket.take_granted_iff positive).1 granted
    have ahead := TokenBucket.arrival_taking_le fits due
    rw [cost, span] at ahead
    refine ⟨capacity, forward, ?_, fun _ => ?_⟩
    · rw [total_append_one, TokenBucket.arrivalAt_taking, cost, Nat.mul_add, ← Nat.add_assoc]
      exact Nat.le_trans (Nat.add_le_add_right behind _) (Nat.le_max_left _ _)
    · rw [TokenBucket.arrivalAt_taking, cost]
      exact ahead
  | nothing =>
    have same : Meter.total { meter with taken := meter.taken ++ [(meter.now, 0)] } = meter.total :=
      total_append_one _ _ _ _ _
    exact ⟨capacity, forward, same.symm ▸ behind, same.symm ▸ bounded⟩

theorem run (h : Spent bucket start meter) (run : meter.Run later) : Spent bucket start later := by
  replace run := moves_of_run run
  induction run with
  | refl => exact h
  | tail _ last ih => exact ih.move last

/-- Whoever has as many bytes is no earlier. -/
theorem readyAt_le (h : Spent bucket start later) {bytes : Nat} (positive : 0 < bytes)
    (had : bytes ≤ later.total) : bucket.readyAt bytes start ≤ later.now := by
  have behind := h.behind
  have bounded := h.bounded (Nat.lt_of_lt_of_le positive had)
  have forward := h.forward
  have cost : bucket.cost * bytes ≤ bucket.cost * later.total := Nat.mul_le_mul_left _ had
  rw [TokenBucket.readyAt]
  omega

end Spent

end Meter

/-- A request that waits without a deadline is always served, and takes exactly the bytes that were
asked for. It moves the arrival on by their cost and ends when that is within a full bucket of the
present; no use of the bucket has as many bytes any earlier. Asking for more at once afterwards is
the same as having asked for all, however the requests fall into chunks. -/
theorem waiting_is_exact (bucket : TokenBucket) (now : Nat) {bytes : Nat} (positive : 0 < bytes) :
    bucket.consume bytes now none =
        ⟨{ bucket with arrival := some (max (bucket.arrivalAt now) now + bucket.cost * bytes) },
          max now (max (bucket.arrivalAt now) now + bucket.cost * bytes -
            bucket.cost * bucket.capacity.toNat), .complete⟩ ∧
      ((bucket.takes bytes now none).map (·.2)).sum = bytes ∧
      (∀ later, Meter.Run ⟨bucket, now, []⟩ later → bytes ≤ later.total →
        (bucket.consume bytes now none).now ≤ later.now) ∧
      ∀ more, (bucket.consume bytes now none).bucket.consume more
        (bucket.consume bytes now none).now none = bucket.consume (bytes + more) now none := by
  refine ⟨bucket.consume_eq now positive, bucket.sum_takes bytes now, ?_, ?_⟩
  · intro later run had
    rw [bucket.consume_eq now positive]
    exact ((Meter.Spent.refl bucket now).run run).readyAt_le positive had
  · intro more
    exact bucket.consume_consume bytes more now

/-- A thousand bytes a second, and a bucket that would be full again at the tenth second: for 2500
bytes at the fifth second, the third chunk is had at eleven and a half. -/
theorem waiting_is_exact_behind :
    (⟨1000, by decide, some 10000000000⟩ : TokenBucket).consume 2500 5000000000 none =
      ⟨⟨1000, by decide, some 12500000000⟩, 11500000000, .complete⟩ :=
  (waiting_is_exact _ _ (by decide)).1.trans (by decide +kernel)

end Tollgate
