import Tollgate.Proofs.BucketCaps

/-!
# Caps that have expired

A temporary cap is out of force from its expiry on, and stays in the record until somebody asks for
the cap or for the bucket. Whether it is in force and whether it has expired are two questions,
asked in different places. What is answered and what is left behind is the same as if the cap had
been taken out, and its bucket retired, before anybody asked (`SpeedLimiter.lapsed`).
-/

namespace Tollgate

theorem Cap.tightest_eq_zero_iff {caps : List UInt64} :
    tightest caps = 0 ↔ ∀ cap ∈ caps, cap = 0 := by
  induction caps with
  | nil => simp [tightest]
  | cons cap caps ih => rw [tightest_cons, tighter_eq_zero_iff, ih, List.forall_mem_cons]

namespace SpeedLimiter

variable {limiter : SpeedLimiter} {key : UserKey}

/-- The caps on a user: that of the node and, with a record, that of the roster and a temporary cap
whose expiry is still to come. -/
def capsAt (limiter : SpeedLimiter) (key : UserKey) (nodeCap : UInt64) (now : Timestamp) :
    List UInt64 :=
  match limiter.record? key with
  | none => [nodeCap]
  | some record => [nodeCap, record.staticSpeed, record.temporaryAt now]

/-- The limiter with no temporary cap in the record of a user and with the user's bucket retired. -/
def lapsed (limiter : SpeedLimiter) (key : UserKey) : SpeedLimiter :=
  { limiter with
    records := limiter.records.filterMap fun k record =>
      some (if key = k then record.withoutTemporary else record)
    buckets := limiter.buckets.erase key }

/-- Limiters with the same throttles and the same next number are equal. -/
theorem ext_throttle {other : SpeedLimiter} (same : ∀ k, limiter.throttle k = other.throttle k)
    (next : limiter.nextSerial = other.nextSerial) : limiter = other := by
  have records : limiter.records = other.records :=
    Table.ext_get? fun k => congrArg Throttle.record (same k)
  have buckets : limiter.buckets = other.buckets :=
    Table.ext_get? fun k => congrArg Throttle.bucket (same k)
  cases limiter
  cases other
  simp_all

theorem throttle_lapsed (k : UserKey) :
    (limiter.lapsed key).throttle k =
      if key = k then ⟨(limiter.record? k).map (·.withoutTemporary), none⟩
      else limiter.throttle k := by
  have record : (limiter.lapsed key).record? k =
      (limiter.record? k).map fun record =>
        if key = k then record.withoutTemporary else record :=
    (Table.get?_filterMap _ _ _).trans Option.map_eq_bind.symm
  have bucket : (limiter.lapsed key).bucket? k = if key = k then none else limiter.bucket? k :=
    Table.get?_erase _ _ _
  rw [throttle, record, bucket]
  by_cases own : key = k
  · simp [own]
  · simp [own, throttle]

/-- What is found expired is gone. -/
theorem clearExpired_eq_lapsed {now : Timestamp}
    (expired : (limiter.throttle key).hasExpired now = true) :
    limiter.clearExpired key now = limiter.lapsed key := by
  refine ext_throttle (fun k => ?_) (nextSerial_clearExpired now)
  rw [throttle_clearExpired, throttle_lapsed]
  split
  next own =>
    subst own
    rw [Throttle.current, if_pos expired]
    rfl
  next => rfl

/-- There is nothing left to expire. -/
theorem clearExpired_lapsed (now : Timestamp) :
    (limiter.lapsed key).clearExpired key now = limiter.lapsed key := by
  have found : (limiter.lapsed key).record? key =
      (limiter.record? key).map (·.withoutTemporary) := by
    have after := @throttle_lapsed limiter key key
    rw [if_pos rfl] at after
    exact congrArg Throttle.record after
  refine clearExpired_of_not_expired fun record known => ?_
  obtain ⟨before, -, rfl⟩ := Option.map_eq_some_iff.1 (found.symm.trans known)
  rfl

/-- The cap and the bucket are read off what is left when the expired has been cleared. -/
theorem answers_eq_of_clearExpired {other : SpeedLimiter} {now : Timestamp}
    (same : limiter.clearExpired key now = other.clearExpired key now) (nodeCap : UInt64) :
    limiter.effectiveCap key nodeCap now = other.effectiveCap key nodeCap now ∧
      limiter.getBucket key nodeCap now = other.getBucket key nodeCap now := by
  unfold effectiveCap getBucket
  rw [same]
  exact ⟨rfl, rfl⟩

/-- The cap in force is the tightest of the caps on the user, whether or not what has expired was
found before. -/
theorem effectiveCap_fst (nodeCap : UInt64) (now : Timestamp) :
    (limiter.effectiveCap key nodeCap now).1 =
      Cap.tightest (limiter.capsAt key nodeCap now) := by
  have cleared := @throttle_clearExpired limiter key now key
  rw [if_pos rfl] at cleared
  have answer : (limiter.effectiveCap key nodeCap now).1 =
      (limiter.throttle key).cap nodeCap now := by
    rw [effectiveCap, capAt_eq, cleared, Throttle.cap_current]
  have last : Cap.tightest [] = 0 := rfl
  rw [answer, Throttle.cap, throttle, capsAt]
  cases limiter.record? key with
  | none => rw [Cap.tightest_cons, last, Cap.tighter_zero_right]
  | some record => exact record.cap_eq_tightest nodeCap now

end SpeedLimiter

/-- The cap that is answered is the smallest that is not zero of the node's, the roster's and a
temporary one whose expiry is still to come, and zero exactly where there is none. At the expiry and
after it the cap and the bucket are those of a user who has no temporary cap and whose bucket is
retired, and so is what is left behind; before it, whoever asks for the cap changes nothing. Nothing
changes for anybody else. -/
theorem expired_caps_are_absent (limiter : SpeedLimiter) (key : UserKey) (nodeCap : UInt64)
    (now : Timestamp) :
    (limiter.effectiveCap key nodeCap now).1 = Cap.tightest (limiter.capsAt key nodeCap now) ∧
    ((limiter.effectiveCap key nodeCap now).1 = 0 ↔
      ∀ cap ∈ limiter.capsAt key nodeCap now, cap = 0) ∧
    (∀ record cap, limiter.record? key = some record → record.temporary = some cap →
      cap.expiry ≤ now →
        limiter.effectiveCap key nodeCap now =
          (limiter.lapsed key).effectiveCap key nodeCap now ∧
        limiter.getBucket key nodeCap now = (limiter.lapsed key).getBucket key nodeCap now) ∧
    ((∀ record cap, limiter.record? key = some record → record.temporary = some cap →
        now < cap.expiry) →
      (limiter.effectiveCap key nodeCap now).2 = limiter) ∧
    ∀ k, k ≠ key →
      (limiter.effectiveCap key nodeCap now).2.throttle k = limiter.throttle k ∧
      (limiter.getBucket key nodeCap now).2.throttle k = limiter.throttle k := by
  refine ⟨SpeedLimiter.effectiveCap_fst nodeCap now, ?_, ?_, ?_, ?_⟩
  · rw [SpeedLimiter.effectiveCap_fst]
    exact Cap.tightest_eq_zero_iff
  · intro record cap known temporary past
    have expired : (limiter.throttle key).hasExpired now = true := by
      rw [Throttle.hasExpired, SpeedLimiter.throttle, known, Option.any_some,
        LimitRecord.hasExpired, temporary]
      exact decide_eq_true past
    have gone := SpeedLimiter.clearExpired_eq_lapsed expired
    exact SpeedLimiter.answers_eq_of_clearExpired
      (gone.trans (SpeedLimiter.clearExpired_lapsed now).symm) nodeCap
  · intro ahead
    refine SpeedLimiter.clearExpired_of_not_expired fun record known => ?_
    cases temporary : record.temporary with
    | none => rw [LimitRecord.hasExpired, temporary, Option.any_none]
    | some cap =>
      exact (LimitRecord.hasExpired_eq_false_iff temporary).2 (ahead record cap known temporary)
  · intro k other
    have others : key ≠ k := fun same => other same.symm
    refine ⟨?_, ?_⟩
    · exact (SpeedLimiter.throttle_clearExpired now k).trans (if_neg others)
    · exact (SpeedLimiter.throttle_getBucket nodeCap now k).trans (if_neg others)

/-- A cap of no speed expires like any other. A second before its expiry whoever asks for the cap
changes nothing; at its expiry the bucket in use is retired, and the other user keeps theirs. -/
theorem expired_caps_are_absent_at_expiry :
    ∃ (limiter : SpeedLimiter) (record : LimitRecord),
      limiter.record? ⟨"a", 7⟩ = some record ∧ record.temporary = some ⟨0, ⟨10⟩⟩ ∧
      (limiter.bucket? ⟨"a", 7⟩).isSome = true ∧ (limiter.bucket? ⟨"a", 8⟩).isSome = true ∧
      (limiter.effectiveCap ⟨"a", 7⟩ 500 ⟨9⟩).2 = limiter ∧
      limiter.effectiveCap ⟨"a", 7⟩ 500 ⟨10⟩ =
        (limiter.lapsed ⟨"a", 7⟩).effectiveCap ⟨"a", 7⟩ 500 ⟨10⟩ ∧
      limiter.getBucket ⟨"a", 7⟩ 500 ⟨10⟩ =
        (limiter.lapsed ⟨"a", 7⟩).getBucket ⟨"a", 7⟩ 500 ⟨10⟩ ∧
      (limiter.getBucket ⟨"a", 7⟩ 500 ⟨10⟩).2.throttle ⟨"a", 8⟩ = limiter.throttle ⟨"a", 8⟩ := by
  let enlisted := (SpeedLimiter.insertUser {} ⟨"a", 7⟩ 1000 0).insertUser ⟨"a", 8⟩ 300 0
  let capped := (enlisted.installTemporary ⟨"a", 7⟩ ⟨0, ⟨10⟩⟩).2
  let limiter := ((capped.getBucket ⟨"a", 7⟩ 500 ⟨0⟩).2.getBucket ⟨"a", 8⟩ 500 ⟨0⟩).2
  have known : limiter.record? ⟨"a", 7⟩ = some ⟨1000, 0, some ⟨0, ⟨10⟩⟩⟩ := by decide
  obtain ⟨-, -, -, early, -⟩ := expired_caps_are_absent limiter ⟨"a", 7⟩ 500 ⟨9⟩
  obtain ⟨-, -, late, -, others⟩ := expired_caps_are_absent limiter ⟨"a", 7⟩ 500 ⟨10⟩
  have ended := late _ _ known rfl (by decide)
  refine ⟨limiter, _, known, rfl, by decide, by decide, early ?_, ended.1, ended.2,
    (others ⟨"a", 8⟩ (by decide)).2⟩
  intro record cap known' temporary
  obtain rfl := Option.some.inj (known.symm.trans known')
  obtain rfl := Option.some.inj temporary
  decide

end Tollgate
