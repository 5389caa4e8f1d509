import Mathlib.Algebra.Order.Ring.Nat
import Mathlib.Logic.Relation
import Mathlib.Tactic.Ring
import Tollgate.Proofs.Takes

/-!
# The bytes that a bucket lets through

A bucket in use: bytes are asked for at once, or waited for chunk by chunk, while its clock goes on.
Requests that wait at the same time take their chunks in any order (`Meter.Step.chunk`).

In any window of time the bytes taken are at most the capacity and one for each cost of a byte that
fits in the window (`Within`). A byte costs a whole number of nanoseconds. Where a second is no whole
number of times what a full bucket costs, the fraction is dropped, and bytes come back faster than
the rate says.
-/

namespace Tollgate

/-- The bytes taken from a moment on for a number of nanoseconds. -/
def bytesWithin (start width : Nat) (taken : List (Nat × Nat)) : Nat :=
  ((taken.filter fun t => start ≤ t.1 ∧ t.1 ≤ start + width).map (·.2)).sum

theorem bytesWithin_append_one (start width : Nat) (taken : List (Nat × Nat)) (now bytes : Nat) :
    bytesWithin start width (taken ++ [(now, bytes)]) =
      bytesWithin start width taken +
        if start ≤ now ∧ now ≤ start + width then bytes else 0 := by
  by_cases within : start ≤ now ∧ now ≤ start + width
  · simp [bytesWithin, List.filter_append, within]
  · simp [bytesWithin, List.filter_append, within]

namespace TokenBucket

/-- The chunks that a request takes, each with the moment at which it has it. -/
def takes (bucket : TokenBucket) (bytes now : Nat) (deadline : Option Nat) : List (Nat × Nat) :=
  if 0 < bytes then
    let chunk := min bytes bucket.capacity.toNat
    let step := bucket.takeChunk chunk now deadline
    if step.outcome = .complete then
      (step.now, chunk) :: step.bucket.takes (bytes - chunk) step.now deadline
    else []
  else []
termination_by bytes
decreasing_by
  have := bucket.toNat_capacity_pos
  omega

variable {bucket later : TokenBucket} {bytes now : Nat}

/-- A chunk is taken at the moment at which the request goes on, or the bucket stays as it is. -/
theorem takeChunk_cases (bucket : TokenBucket) (chunk now : Nat) (deadline : Option Nat) :
    ((bucket.takeChunk chunk now deadline).outcome = .complete ∧
        bucket.take chunk (bucket.takeChunk chunk now deadline).now =
          .granted (bucket.takeChunk chunk now deadline).bucket) ∨
      ((bucket.takeChunk chunk now deadline).outcome ≠ .complete ∧
        (bucket.takeChunk chunk now deadline).bucket = bucket) := by
  unfold takeChunk
  split
  next granted => exact Or.inl ⟨rfl, granted⟩
  next => exact Or.inr ⟨nofun, rfl⟩
  next ready _ =>
    split
    next => exact Or.inr ⟨nofun, rfl⟩
    next =>
      split
      next granted => exact Or.inl ⟨rfl, granted⟩
      next => exact Or.inr ⟨nofun, rfl⟩

theorem lt_of_take_eq_wait {ready : Nat} (waits : bucket.take bytes now = .wait ready) :
    now < ready := by
  unfold take at waits
  dsimp only at waits
  split at waits
  · cases waits
  · split at waits
    next early =>
      cases waits
      exact early
    next => cases waits

/-- A chunk is waited for from the present on and up to the deadline. -/
theorem takeChunk_now (bucket : TokenBucket) (chunk : Nat) {now : Nat} {deadline : Option Nat}
    (ahead : ∀ moment ∈ deadline, now ≤ moment) :
    now ≤ (bucket.takeChunk chunk now deadline).now ∧
      ∀ moment ∈ deadline, (bucket.takeChunk chunk now deadline).now ≤ moment := by
  unfold takeChunk
  split
  next => exact ⟨Nat.le_refl _, ahead⟩
  next => exact ⟨Nat.le_refl _, ahead⟩
  next ready waits =>
    have later := Nat.le_of_lt (lt_of_take_eq_wait waits)
    split
    next moment cut =>
      obtain ⟨set, before⟩ := Option.filter_eq_some_iff.1 cut
      refine ⟨ahead _ set, fun other named => ?_⟩
      exact Nat.le_of_eq (Option.mem_unique set named)
    next open_ =>
      have kept : ∀ moment ∈ deadline, ready ≤ moment := fun moment set =>
        Nat.not_lt.1 fun before => Option.filter_eq_none_iff.1 open_ moment set (decide_eq_true before)
      split
      next => exact ⟨later, kept⟩
      next => exact ⟨later, kept⟩

end TokenBucket

/-! ### Buckets in use -/

/-- A bucket in use at a moment, with the bytes taken so far and the moment of each take. -/
structure Meter where
  bucket : TokenBucket
  now : Nat := 0
  taken : List (Nat × Nat) := []

namespace Meter

variable (meter : Meter)

/-- Bytes are asked for at once. -/
def tryConsume (bytes : UInt64) : Meter :=
  { meter with
    bucket := (meter.bucket.tryConsume bytes meter.now).2
    taken :=
      if (meter.bucket.tryConsume bytes meter.now).1 then meter.taken ++ [(meter.now, bytes.toNat)]
      else meter.taken }

/-- Bytes are waited for, while nobody else takes any. -/
def consume (bytes : Nat) (deadline : Option Nat) : Meter where
  bucket := (meter.bucket.consume bytes meter.now deadline).bucket
  now := (meter.bucket.consume bytes meter.now deadline).now
  taken := meter.taken ++ meter.bucket.takes bytes meter.now deadline

/-- A request that waits tries to have its next chunk. -/
def tryChunk (bytes : Nat) : Meter :=
  match meter.bucket.take bytes meter.now with
  | .granted bucket => { meter with bucket, taken := meter.taken ++ [(meter.now, bytes)] }
  | _ => meter

/-- One thing that happens to a bucket in use. -/
inductive Step (meter : Meter) : Meter → Prop
  | advance {later : Nat} (forward : meter.now ≤ later) : Step meter { meter with now := later }
  | tryConsume {bytes : UInt64} (fits : bytes.toNat < UInt32.size) :
    Step meter (meter.tryConsume bytes)
  | consume (bytes : UInt64) {deadline : Option Nat}
    (ahead : ∀ moment ∈ deadline, meter.now ≤ moment) :
    Step meter (meter.consume bytes.toNat deadline)
  | chunk {bytes : Nat} (positive : 0 < bytes) (fits : bytes ≤ meter.bucket.capacity.toNat) :
    Step meter (meter.tryChunk bytes)

/-- A run of a bucket in use. -/
def Run : Meter → Meter → Prop := Relation.ReflTransGen Step

/-- In a window, no more was taken than the capacity and what the rate gives back. -/
def KeepsRate (start width : Nat) : Prop :=
  bytesWithin start width meter.taken * TokenBucket.nanosPerSecond ≤
    meter.bucket.capacity.toNat * TokenBucket.nanosPerSecond + meter.bucket.fillRate.toNat * width

end Meter

/-! ### What happens to a bucket, piece by piece -/

/-- A piece of what happens to a bucket in use: time, a take that is granted, or a request for no
bytes. -/
inductive Meter.Move (meter : Meter) : Meter → Prop
  | advance {later : Nat} (forward : meter.now ≤ later) : Move meter { meter with now := later }
  | take {bytes : Nat} (positive : 0 < bytes) {after : TokenBucket}
    (granted : meter.bucket.take bytes meter.now = .granted after) :
    Move meter ⟨after, meter.now, meter.taken ++ [(meter.now, bytes)]⟩
  | nothing : Move meter { meter with taken := meter.taken ++ [(meter.now, 0)] }

namespace Meter

variable {meter next later : Meter}

/-- Pieces in a row. -/
def Moves : Meter → Meter → Prop := Relation.ReflTransGen Move

theorem moves_tryConsume (meter : Meter) {bytes : UInt64} (fits : bytes.toNat < UInt32.size) :
    meter.Moves (meter.tryConsume bytes) := by
  have asked : min bytes.toNat (UInt32.size - 1) = bytes.toNat := Nat.min_eq_left (by omega)
  unfold tryConsume TokenBucket.tryConsume
  simp only [asked]
  by_cases nothing : bytes.toNat = 0
  · simp only [nothing, if_true]
    exact .single .nothing
  · simp only [nothing, if_false]
    split
    next granted => exact .single (.take (Nat.pos_of_ne_zero nothing) granted)
    next => exact .refl

/-- A request waits until it has its chunk or gives up. -/
theorem moves_takeChunk (bucket : TokenBucket) (taken : List (Nat × Nat)) {bytes now : Nat}
    (positive : 0 < bytes) {deadline : Option Nat} (ahead : ∀ moment ∈ deadline, now ≤ moment) :
    Moves ⟨bucket, now, taken⟩
      ⟨(bucket.takeChunk bytes now deadline).bucket, (bucket.takeChunk bytes now deadline).now,
        if (bucket.takeChunk bytes now deadline).outcome = .complete then
          taken ++ [((bucket.takeChunk bytes now deadline).now, bytes)] else taken⟩ := by
  have waited : Move ⟨bucket, now, taken⟩
      ⟨bucket, (bucket.takeChunk bytes now deadline).now, taken⟩ :=
    .advance (bucket.takeChunk_now bytes ahead).1
  rcases bucket.takeChunk_cases bytes now deadline with ⟨complete, granted⟩ | ⟨open_, same⟩
  · rw [if_pos complete]
    exact .tail (.single waited) (.take positive granted)
  · rw [if_neg open_, same]
    exact .single waited

/-- A request that is waited for is its chunks, one after the other. -/
theorem moves_consume (meter : Meter) (bytes : Nat) {deadline : Option Nat}
    (ahead : ∀ moment ∈ deadline, meter.now ≤ moment) :
    meter.Moves (meter.consume bytes deadline) := by
  obtain ⟨bucket, now, taken⟩ := meter
  induction bytes using Nat.strongRecOn generalizing bucket now taken with
  | ind bytes ih =>
    rw [consume, TokenBucket.consume, TokenBucket.takes]
    by_cases positive : 0 < bytes
    · have capacity := bucket.toNat_capacity_pos
      have had := @moves_takeChunk bucket taken (min bytes bucket.capacity.toNat) now (by omega) _
        ahead
      have onward := (bucket.takeChunk_now (min bytes bucket.capacity.toNat) ahead).2
      simp only [if_pos positive]
      split at had
      next complete =>
        simp only [if_pos complete]
        rw [List.append_cons]
        exact had.trans (ih _ (by omega) _ _ _ onward)
      next cut =>
        simp only [if_neg cut, List.append_nil]
        exact had
    · simp only [if_neg positive, List.append_nil]
      exact .refl

theorem Step.moves (step : meter.Step next) : meter.Moves next := by
  cases step with
  | advance forward => exact .single (.advance forward)
  | tryConsume fits => exact meter.moves_tryConsume fits
  | consume bytes ahead => exact meter.moves_consume _ ahead
  | chunk positive fits =>
    unfold tryChunk
    split
    next granted => exact .single (.take positive granted)
    next => exact .refl

/-- So whatever every piece keeps, a run keeps. -/
theorem moves_of_run (run : meter.Run later) : meter.Moves later := by
  induction run with
  | refl => exact .refl
  | tail _ last ih => exact ih.trans last.moves

end Meter

/-! ### The bytes of a window -/

/-- The bytes taken in a window have moved the arrival on from its start, and cost no more than the
window and a full bucket. -/
structure Within (start width : Nat) (bucket : TokenBucket) (taken : List (Nat × Nat)) : Prop where
  behind : bytesWithin start width taken = 0 ∨
    ∃ arrival, bucket.arrival = some arrival ∧
      start + bucket.cost * bytesWithin start width taken ≤ arrival
  bounded : bucket.cost * bytesWithin start width taken ≤ width + bucket.span

namespace Within

variable {start width : Nat} {bucket later : TokenBucket} {taken : List (Nat × Nat)}
  {bytes now : Nat}

theorem of_nothing (start width : Nat) (bucket : TokenBucket) : Within start width bucket [] where
  behind := Or.inl rfl
  bounded := Nat.zero_le _

/-- A take outside the window only moves the arrival on. A take in the window leaves the arrival
within a span of the present, which is in the window. -/
theorem take (h : Within start width bucket taken) (positive : 0 < bytes)
    (granted : bucket.take bytes now = .granted later) :
    Within start width later (taken ++ [(now, bytes)]) := by
  obtain ⟨fits, due, rfl⟩ := (TokenBucket.take_granted_iff positive).1 granted
  have ahead := TokenBucket.arrival_taking_le fits due
  have cost : (bucket.taking bytes now).cost = bucket.cost := rfl
  have span : (bucket.taking bytes now).span = bucket.span := rfl
  obtain ⟨behind, bounded⟩ := h
  replace behind : bytesWithin start width taken = 0 ∨
      start + bucket.cost * bytesWithin start width taken ≤ bucket.arrivalAt now := by
    rcases behind with nothing | ⟨arrival, known, behind⟩
    · exact Or.inl nothing
    · rw [TokenBucket.arrivalAt, known, Option.getD_some]
      exact Or.inr behind
  by_cases within : start ≤ now ∧ now ≤ start + width
  · have reached : start + bucket.cost * (bytesWithin start width taken + bytes) ≤
        max (bucket.arrivalAt now) now + bucket.cost * bytes := by
      rw [Nat.mul_add]
      rcases behind with nothing | behind
      · rw [nothing]
        omega
      · omega
    refine ⟨Or.inr ⟨_, TokenBucket.arrival_taking, ?_⟩, ?_⟩
    · rw [bytesWithin_append_one, if_pos within, cost]
      exact reached
    · rw [bytesWithin_append_one, if_pos within, cost, span]
      omega
  · refine ⟨?_, ?_⟩
    · rw [bytesWithin_append_one, if_neg within, Nat.add_zero, cost]
      rcases behind with nothing | behind
      · exact Or.inl nothing
      · refine Or.inr ⟨_, TokenBucket.arrival_taking, ?_⟩
        omega
    · rw [bytesWithin_append_one, if_neg within, Nat.add_zero, cost, span]
      exact bounded

theorem move {meter next : Meter} (h : Within start width meter.bucket meter.taken)
    (move : meter.Move next) : Within start width next.bucket next.taken := by
  cases move with
  | advance forward => exact h
  | take positive granted => exact h.take positive granted
  | nothing =>
    obtain ⟨behind, bounded⟩ := h
    have same : bytesWithin start width (meter.taken ++ [(meter.now, 0)]) =
        bytesWithin start width meter.taken := by
      rw [bytesWithin_append_one, ite_self, Nat.add_zero]
    exact ⟨same ▸ behind, same ▸ bounded⟩

theorem run {meter later : Meter} (h : Within start width meter.bucket meter.taken)
    (run : meter.Run later) : Within start width later.bucket later.taken := by
  replace run := Meter.moves_of_run run
  induction run with
  | refl => exact h
  | tail _ last ih => exact ih.move last

end Within

namespace Meter

variable {meter next later : Meter}

/-- A bucket keeps its capacity. -/
theorem Move.capacity_eq (move : meter.Move next) :
    next.bucket.capacity = meter.bucket.capacity := by
  cases move with
  | advance forward => rfl
  | take positive granted =>
    obtain ⟨-, -, rfl⟩ := (TokenBucket.take_granted_iff positive).1 granted
    rfl
  | nothing => rfl

theorem capacity_of_run (run : meter.Run later) :
    later.bucket.capacity = meter.bucket.capacity := by
  replace run := moves_of_run run
  induction run with
  | refl => rfl
  | tail _ last ih => exact last.capacity_eq.trans ih

theorem cost_of_run (run : meter.Run later) : later.bucket.cost = meter.bucket.cost := by
  rw [TokenBucket.cost, TokenBucket.cost, capacity_of_run run]

end Meter

/-! ### Costs that divide a second -/

namespace TokenBucket

variable {bucket : TokenBucket}

/-- Where a second is a whole number of times the cost of a full bucket, a byte costs its share. -/
theorem span_of_dvd (whole : bucket.capacity.toNat ∣ nanosPerSecond) :
    bucket.span = nanosPerSecond := by
  have positive : 0 < nanosPerSecond / bucket.capacity.toNat :=
    Nat.div_pos (Nat.le_of_dvd (by decide) whole) bucket.toNat_capacity_pos
  rw [span, cost, Nat.max_eq_right positive, Nat.div_mul_cancel whole]

/-- A bucket that holds more bytes than a second has nanoseconds gets one back each nanosecond. -/
theorem cost_of_ge (large : nanosPerSecond ≤ bucket.capacity.toNat) : bucket.cost = 1 := by
  refine Nat.max_eq_left ?_
  rw [← Nat.lt_succ_iff, Nat.div_lt_iff_lt_mul bucket.toNat_capacity_pos]
  have second : 0 < nanosPerSecond := by decide
  omega

/-- Otherwise a full bucket costs less than a second. -/
theorem span_lt (small : bucket.capacity.toNat < nanosPerSecond)
    (uneven : ¬ bucket.capacity.toNat ∣ nanosPerSecond) : bucket.span < nanosPerSecond := by
  have positive : 0 < nanosPerSecond / bucket.capacity.toNat :=
    Nat.div_pos (Nat.le_of_lt small) bucket.toNat_capacity_pos
  have rest : 0 < nanosPerSecond % bucket.capacity.toNat :=
    Nat.pos_of_ne_zero fun none_left => uneven (Nat.dvd_of_mod_eq_zero none_left)
  have split := Nat.div_add_mod nanosPerSecond bucket.capacity.toNat
  rw [span, cost, Nat.max_eq_right positive, Nat.mul_comm]
  omega

end TokenBucket

/-- One byte for each cost of a byte that fits in the window comes on top of a full bucket. -/
theorem Within.bytes_le {start width : Nat} {bucket : TokenBucket} {taken : List (Nat × Nat)}
    (h : Within start width bucket taken) :
    bytesWithin start width taken ≤ bucket.capacity.toNat + width / bucket.cost := by
  have bounded := h.bounded
  rw [TokenBucket.span, Nat.add_comm] at bounded
  rw [← Nat.mul_add_div bucket.cost_pos, Nat.le_div_iff_mul_le bucket.cost_pos, Nat.mul_comm]
  exact bounded

/-- Where the cost of a byte is not rounded down, what fits in a window is what the rate allows. -/
theorem Within.keepsRate {start width : Nat} {meter : Meter}
    (h : Within start width meter.bucket meter.taken)
    (even : meter.bucket.capacity.toNat ∣ TokenBucket.nanosPerSecond ∨
      TokenBucket.nanosPerSecond ≤ meter.bucket.capacity.toNat) :
    meter.KeepsRate start width := by
  have bounded := h.bounded
  have filled : meter.bucket.fillRate = meter.bucket.capacity := rfl
  unfold Meter.KeepsRate
  rw [filled]
  generalize bytesWithin start width meter.taken = bytes at bounded
  rcases even with whole | large
  · have span := TokenBucket.span_of_dvd whole
    rw [span] at bounded
    calc bytes * TokenBucket.nanosPerSecond
        = meter.bucket.cost * bytes * meter.bucket.capacity.toNat := by
          rw [← span, TokenBucket.span]
          ring
      _ ≤ (width + TokenBucket.nanosPerSecond) * meter.bucket.capacity.toNat :=
          Nat.mul_le_mul_right _ bounded
      _ = _ := by ring
  · rw [TokenBucket.span, TokenBucket.cost_of_ge large, Nat.one_mul, Nat.one_mul] at bounded
    calc bytes * TokenBucket.nanosPerSecond
        ≤ (width + meter.bucket.capacity.toNat) * TokenBucket.nanosPerSecond :=
          Nat.mul_le_mul_right _ bounded
      _ = width * TokenBucket.nanosPerSecond +
          meter.bucket.capacity.toNat * TokenBucket.nanosPerSecond := Nat.add_mul _ _ _
      _ ≤ width * meter.bucket.capacity.toNat +
          meter.bucket.capacity.toNat * TokenBucket.nanosPerSecond :=
          Nat.add_le_add_right (Nat.mul_le_mul_left _ large) _
      _ = _ := by ring

/-- A full bucket can be taken twice within the time that a full bucket costs. -/
theorem Meter.exists_run_twice {bucket : TokenBucket} (unused : bucket.arrival = none) :
    ∃ later, Meter.Run ⟨bucket, 0, []⟩ later ∧
      bytesWithin 0 bucket.span later.taken = 2 * bucket.capacity.toNat ∧
      later.bucket.capacity = bucket.capacity := by
  let capacity := bucket.capacity.toNat
  let once : TokenBucket := bucket.taking capacity 0
  let twice : TokenBucket := once.taking capacity bucket.span
  have first : bucket.take capacity 0 = .granted once := TokenBucket.take_capacity_of_unused unused 0
  have second : once.take capacity bucket.span = .granted twice := by
    rw [TokenBucket.take_granted_iff bucket.toNat_capacity_pos]
    refine ⟨Nat.le_refl _, ?_, rfl⟩
    have arrival : once.arrivalAt bucket.span = bucket.span := by
      simp [once, TokenBucket.taking, TokenBucket.arrivalAt, unused, TokenBucket.span, capacity]
    rw [arrival]
    exact Nat.le_refl _
  refine ⟨⟨twice, bucket.span, [(0, capacity), (bucket.span, capacity)]⟩, ?_, ?_, rfl⟩
  · have took : Meter.Step ⟨bucket, 0, []⟩ ⟨once, 0, [(0, capacity)]⟩ := by
      have step := @Meter.Step.chunk ⟨bucket, 0, []⟩ capacity bucket.toNat_capacity_pos
        (Nat.le_refl _)
      simpa only [Meter.tryChunk, first, List.nil_append] using step
    have waited : Meter.Step ⟨once, 0, [(0, capacity)]⟩ ⟨once, bucket.span, [(0, capacity)]⟩ :=
      .advance (Nat.zero_le _)
    have again : Meter.Step ⟨once, bucket.span, [(0, capacity)]⟩
        ⟨twice, bucket.span, [(0, capacity), (bucket.span, capacity)]⟩ := by
      have step := @Meter.Step.chunk ⟨once, bucket.span, [(0, capacity)]⟩ capacity
        bucket.toNat_capacity_pos (Nat.le_refl _)
      simpa only [Meter.tryChunk, second, List.cons_append, List.nil_append] using step
    exact .tail (.tail (.single took) waited) again
  · simp [bytesWithin, capacity]
    omega

/-- For every rate and in any window of time, a bucket lets through at most its capacity and one byte
for each cost of a byte in the window. That is within what the rate says if the rate divides a
second, or is more than a byte each nanosecond, and for no other rate. -/
theorem speed_cap_kept_iff {rate : UInt64} (limited : 0 < rate) :
    ∃ bucket, TokenBucket.ofRate? rate = some bucket ∧
      bucket.capacity.toNat = min rate.toNat (UInt32.size - 1) ∧
      (∀ start later, Meter.Run ⟨bucket, start, []⟩ later → ∀ start width,
        bytesWithin start width later.taken ≤ bucket.capacity.toNat + width / bucket.cost) ∧
      ((∀ start later, Meter.Run ⟨bucket, start, []⟩ later → ∀ start width,
          later.KeepsRate start width) ↔
        bucket.capacity.toNat ∣ TokenBucket.nanosPerSecond ∨
          TokenBucket.nanosPerSecond ≤ bucket.capacity.toNat) := by
  obtain ⟨bucket, made, size, unused⟩ := TokenBucket.exists_ofRate? limited
  have within {now : Nat} {later : Meter} (run : Meter.Run ⟨bucket, now, []⟩ later)
      (start width : Nat) : Within start width later.bucket later.taken :=
    @Within.run _ _ ⟨bucket, now, []⟩ _ (.of_nothing _ _ _) run
  refine ⟨bucket, made, size, ?_, ?_, ?_⟩
  · intro now later run start width
    have bounded := (within run start width).bytes_le
    rwa [Meter.capacity_of_run run, Meter.cost_of_run run] at bounded
  · intro kept
    by_contra uneven
    rw [not_or, Nat.not_le] at uneven
    obtain ⟨later, run, twice, same⟩ := Meter.exists_run_twice unused
    have kept := kept 0 later run 0 bucket.span
    unfold Meter.KeepsRate at kept
    rw [twice, TokenBucket.fillRate, same] at kept
    have less := Nat.mul_lt_mul_of_pos_left (TokenBucket.span_lt uneven.2 uneven.1)
      bucket.toNat_capacity_pos
    rw [Nat.mul_assoc] at kept
    omega
  · intro even now later run start width
    apply (within run start width).keepsRate
    rw [Meter.capacity_of_run run]
    exact even

theorem speed_cap_kept_thousand :
    ∃ bucket, TokenBucket.ofRate? 1000 = some bucket ∧
      bucket.capacity.toNat = min 1000 (UInt32.size - 1) ∧
      (∀ start later, Meter.Run ⟨bucket, start, []⟩ later → ∀ start width,
        bytesWithin start width later.taken ≤ bucket.capacity.toNat + width / bucket.cost) ∧
      ((∀ start later, Meter.Run ⟨bucket, start, []⟩ later → ∀ start width,
          later.KeepsRate start width) ↔
        bucket.capacity.toNat ∣ TokenBucket.nanosPerSecond ∨
          TokenBucket.nanosPerSecond ≤ bucket.capacity.toNat) :=
  @speed_cap_kept_iff 1000 (by decide)

/-- Six hundred megabytes a second can be taken twice within 0.6 seconds: a byte should cost a little
over 1.6 nanoseconds, and costs one. -/
theorem speed_cap_exceeded :
    ∃ bucket later, TokenBucket.ofRate? 600000000 = some bucket ∧
      Meter.Run ⟨bucket, 0, []⟩ later ∧ ¬ later.KeepsRate 0 600000000 := by
  obtain ⟨bucket, made, size, unused⟩ := @TokenBucket.exists_ofRate? 600000000 (by decide)
  replace size : bucket.capacity.toNat = 600000000 := size
  have span : bucket.span = 600000000 := by
    rw [TokenBucket.span, TokenBucket.cost, size]
    decide
  obtain ⟨later, run, twice, same⟩ := Meter.exists_run_twice unused
  refine ⟨bucket, later, made, run, ?_⟩
  rw [Meter.KeepsRate, ← span, twice, TokenBucket.fillRate, same, span, size]
  decide

end Tollgate
