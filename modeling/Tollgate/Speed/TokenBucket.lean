/-!
# Token buckets

A bucket that lets through a number of bytes each second and holds one second's worth. All that is
kept is the *arrival*: the moment, in nanoseconds, at which the bucket will be full again. Taking
bytes moves the arrival forward by the time the bytes cost, and it is allowed while the arrival
stays within one bucket's worth of time of the present.

A bucket decides on `take` alone; `tryConsume` and `consume` are made of takes that fit the bucket.
-/

namespace Tollgate

/-- A token bucket, full as long as nothing was taken. -/
structure TokenBucket where
  capacity : UInt32
  capacity_pos : 0 < capacity
  arrival : Option Nat := none
deriving DecidableEq

namespace TokenBucket

/-- What a bucket says to a request. -/
inductive Verdict where
  | granted (bucket : TokenBucket)
  /-- Refused, but granted at the given moment if nothing else is taken. -/
  | wait (ready : Nat)
  /-- More than the bucket ever holds. -/
  | never

/-- The bucket of a rate in bytes per second; none for the rate zero, which is no limit. -/
def ofRate? (rate : UInt64) : Option TokenBucket :=
  let capacity := UInt32.ofNat (min rate.toNat (UInt32.size - 1))
  if h : 0 < capacity then some ⟨capacity, h, none⟩ else none

/-- The bytes that come back each second. -/
def fillRate (bucket : TokenBucket) : UInt32 := bucket.capacity

/-- The nanoseconds of a second. -/
def nanosPerSecond : Nat := 1000000000

/-- The nanoseconds that one byte costs. -/
def cost (bucket : TokenBucket) : Nat := max 1 (nanosPerSecond / bucket.capacity.toNat)

/-- How far behind the arrival a single byte may be taken. -/
def tolerance (bucket : TokenBucket) : Nat := bucket.cost * (bucket.capacity.toNat - 1)

/-- The moment from which the cost of a request counts. -/
def arrivalAt (bucket : TokenBucket) (now : Nat) : Nat := bucket.arrival.getD now

/-- Takes a positive number of bytes at a moment. -/
def take (bucket : TokenBucket) (bytes now : Nat) : Verdict :=
  let weight := bucket.cost * (bytes - 1)
  if bucket.tolerance < weight then .never
  else
    let ready := bucket.arrivalAt now + weight - bucket.tolerance
    if now < ready then .wait ready
    else
      let arrival := max (bucket.arrivalAt now) now + bucket.cost + weight
      .granted { bucket with arrival := some arrival }

/-- Takes bytes if they can be had at once, and says whether. Counts that no bucket can hold are
refused, and no bytes are always to be had. -/
def tryConsume (bucket : TokenBucket) (bytes : UInt64) (now : Nat) : Bool × TokenBucket :=
  let asked := min bytes.toNat (UInt32.size - 1)
  if asked = 0 then (true, bucket)
  else
    match bucket.take asked now with
    | .granted bucket => (true, bucket)
    | _ => (false, bucket)

/-- How a request that waits ended. -/
inductive Outcome where
  | complete
  /-- The deadline came first. -/
  | cut
  /-- A chunk was more than the bucket ever holds. -/
  | refused
deriving DecidableEq, Repr

/-- Where a request that waits stands: the bucket, the moment and the outcome. -/
structure Progress where
  bucket : TokenBucket
  now : Nat
  outcome : Outcome
deriving DecidableEq

/-- Takes a chunk, waiting for it if need be. With a deadline, a wait that would end later ends at
the deadline with nothing taken. -/
def takeChunk (bucket : TokenBucket) (chunk now : Nat) (deadline : Option Nat) : Progress :=
  match bucket.take chunk now with
  | .granted bucket => ⟨bucket, now, .complete⟩
  | .never => ⟨bucket, now, .refused⟩
  | .wait ready =>
    match deadline.filter (· < ready) with
    | some deadline => ⟨bucket, deadline, .cut⟩
    | none =>
      match bucket.take chunk ready with
      | .granted bucket => ⟨bucket, ready, .complete⟩
      | _ => ⟨bucket, ready, .refused⟩

theorem capacity_takeChunk (bucket : TokenBucket) (chunk now : Nat) (deadline : Option Nat) :
    (bucket.takeChunk chunk now deadline).bucket.capacity = bucket.capacity := by
  unfold takeChunk take
  grind

theorem toNat_capacity_pos (bucket : TokenBucket) : 0 < bucket.capacity.toNat :=
  UInt32.lt_iff_toNat_lt.1 bucket.capacity_pos

/-- Takes bytes in chunks that the bucket holds, waiting for each. -/
def consume (bucket : TokenBucket) (bytes now : Nat) (deadline : Option Nat) : Progress :=
  if 0 < bytes then
    let chunk := min bytes bucket.capacity.toNat
    let step := bucket.takeChunk chunk now deadline
    if step.outcome = .complete then step.bucket.consume (bytes - chunk) step.now deadline else step
  else ⟨bucket, now, .complete⟩
termination_by bytes
decreasing_by
  have := bucket.toNat_capacity_pos
  omega

/-- A short description. -/
def description (bucket : TokenBucket) : String :=
  "TokenBucket \x7b capacity: " ++ toString bucket.capacity.toNat ++ ", .. \x7d"

end TokenBucket

end Tollgate
