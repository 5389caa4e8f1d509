import Tollgate.Proofs.Operation

/-!
# Throttles

What holds the speed of one user: its limit record and the bucket in use. The two are kept apart and
change at different times, in what is done for the user and in what is done for everybody.
`Throttle.Step` is all that an operation can do to the throttle of a user, and
`Scope.throttle_induction` says that nothing else happens to it.
-/

namespace Tollgate

/-- A temporary cap has expired unless its expiry is still to come. -/
theorem LimitRecord.hasExpired_eq_false_iff {record : LimitRecord} {cap : TemporaryCap}
    (temporary : record.temporary = some cap) {now : Timestamp} :
    record.hasExpired now = false ↔ now < cap.expiry := by
  rw [hasExpired, temporary, Option.any_some, TemporaryCap.hasExpired, decide_eq_false_iff_not,
    ← Timestamp.not_lt_iff_le, Decidable.not_not]

/-- What holds the speed of one user. -/
structure Throttle where
  record : Option LimitRecord
  bucket : Option IssuedBucket

namespace Throttle

variable (throttle : Throttle)

/-- Whether the record has a temporary cap that has expired. -/
def hasExpired (now : Timestamp) : Bool := throttle.record.any (·.hasExpired now)

/-- The cap that the record makes with that of the node. -/
def cap (nodeCap : UInt64) (now : Timestamp) : UInt64 :=
  match throttle.record with
  | none => nodeCap
  | some record => record.cap nodeCap now

/-- Without an expired temporary cap and the bucket from before it was found expired. -/
def current (now : Timestamp) : Throttle :=
  if throttle.hasExpired now then ⟨throttle.record.map (·.withoutTemporary), none⟩ else throttle

/-- With a bucket of the given number, if there is a cap and no bucket in use. -/
def supplied (nodeCap : UInt64) (now : Timestamp) (serial : Nat) : Throttle :=
  match throttle.bucket with
  | some _ => throttle
  | none =>
    { throttle with
      bucket := (TokenBucket.ofRate? (throttle.cap nodeCap now)).map (⟨serial, ·⟩) }

variable {throttle}

/-- What has expired is found once. -/
theorem hasExpired_current (now : Timestamp) : (throttle.current now).hasExpired now = false := by
  unfold current
  split
  next => cases throttle with | mk record bucket => cases record <;> rfl
  next holds => exact Bool.not_eq_true _ ▸ holds

/-- An expired temporary cap counts for nothing, found or not. -/
theorem cap_current (nodeCap : UInt64) (now : Timestamp) :
    (throttle.current now).cap nodeCap now = throttle.cap nodeCap now := by
  unfold current
  split
  next expired =>
    obtain ⟨record, bucket⟩ := throttle
    cases record with
    | none => rfl
    | some record => exact LimitRecord.cap_withoutTemporary expired nodeCap
  next => rfl

end Throttle

/-! ### The operations of the speed limiter -/

namespace SpeedLimiter

variable {limiter : SpeedLimiter} {key : UserKey}

/-- What holds the speed of a user. -/
def throttle (limiter : SpeedLimiter) (key : UserKey) : Throttle :=
  ⟨limiter.record? key, limiter.bucket? key⟩

theorem throttle_dropBucket (k : UserKey) :
    (limiter.dropBucket key).throttle k =
      if key = k then { limiter.throttle k with bucket := none } else limiter.throttle k := by
  rw [throttle, record?_dropBucket, bucket?_dropBucket]
  split <;> rfl

theorem throttle_ensureUser (k : UserKey) :
    (limiter.ensureUser key).throttle k =
      if key = k then { limiter.throttle k with record := some ((limiter.record? k).getD {}) }
      else limiter.throttle k := by
  rw [throttle, record?_ensureUser, bucket?_ensureUser]
  split <;> rfl

theorem throttle_insertUser (staticSpeed : UInt64) (deviceLimit : UInt32) (k : UserKey) :
    (limiter.insertUser key staticSpeed deviceLimit).throttle k =
      if key = k then { limiter.throttle k with record := some { staticSpeed, deviceLimit } }
      else limiter.throttle k := by
  rw [throttle, insertUser, record?_setRecord, bucket?_setRecord]
  split <;> rfl

theorem throttle_removeUser (k : UserKey) :
    (limiter.removeUser key).throttle k = if key = k then ⟨none, none⟩ else limiter.throttle k := by
  rw [throttle, record?_removeUser, bucket?_removeUser]
  split <;> rfl

theorem installTemporary_fst (cap : TemporaryCap) :
    (limiter.installTemporary key cap).1 = (limiter.record? key).isSome := by
  unfold installTemporary
  cases limiter.record? key with
  | none => rfl
  | some record => rfl

/-- A temporary cap retires the bucket; without a record nothing happens. -/
theorem throttle_installTemporary (cap : TemporaryCap) (k : UserKey) :
    (limiter.installTemporary key cap).2.throttle k =
      if key = k then
        match limiter.record? k with
        | none => limiter.throttle k
        | some record => ⟨some { record with temporary := some cap }, none⟩
      else limiter.throttle k := by
  rw [throttle, record?_installTemporary, bucket?_installTemporary]
  by_cases same : key = k
  · subst same
    cases known : limiter.record? key with
    | none => simp [throttle, known]
    | some record => simp
  · simp [same, throttle]

theorem throttle_clearExpired (now : Timestamp) (k : UserKey) :
    (limiter.clearExpired key now).throttle k =
      if key = k then (limiter.throttle k).current now else limiter.throttle k := by
  by_cases expired : (limiter.throttle key).hasExpired now = true
  · obtain ⟨record, known, ended⟩ := (limiter.record? key).any_eq_true _ |>.1 expired
    have cleared : limiter.clearExpired key now =
        (limiter.setRecord key record.withoutTemporary).dropBucket key := by
      simp [clearExpired, known, ended]
    rw [cleared, throttle_dropBucket, throttle, record?_setRecord, bucket?_setRecord]
    split
    next same =>
      subst same
      rw [Throttle.current, if_pos expired, throttle, known]
      rfl
    next => rfl
  · have unexpired : ∀ record, limiter.record? key = some record → record.hasExpired now = false := by
      intro record known
      rw [Throttle.hasExpired, throttle, known] at expired
      exact Bool.not_eq_true _ ▸ expired
    rw [clearExpired_of_not_expired unexpired]
    split
    next same =>
      subst same
      rw [Throttle.current, if_neg expired]
    next => rfl

theorem capAt_eq (nodeCap : UInt64) (now : Timestamp) :
    limiter.capAt key nodeCap now = (limiter.throttle key).cap nodeCap now := rfl

theorem throttle_issue (rate : UInt64) (k : UserKey) :
    (limiter.issue key rate).2.throttle k =
      if key = k ∧ (TokenBucket.ofRate? rate).isSome then
        { limiter.throttle k with
          bucket := (TokenBucket.ofRate? rate).map (⟨limiter.nextSerial, ·⟩) }
      else limiter.throttle k := by
  unfold issue
  cases TokenBucket.ofRate? rate with
  | none => simp
  | some bucket =>
    have look : (limiter.buckets.insert key ⟨limiter.nextSerial, bucket⟩).get? k = _ :=
      Table.get?_insert _ _ _ _
    simp only [throttle, record?, bucket?, look]
    by_cases same : key = k <;> simp [same]

theorem issue_fst {rate : UInt64} (free : limiter.bucket? key = none) :
    (limiter.issue key rate).1 = (limiter.issue key rate).2.bucket? key := by
  unfold issue
  cases TokenBucket.ofRate? rate with
  | none => exact free.symm
  | some bucket => exact (Table.get?_insert_self _ _ _).symm

/-- A new bucket has the next number. -/
theorem serial_issue {rate : UInt64} {issued : IssuedBucket}
    (made : (limiter.issue key rate).1 = some issued) :
    issued.serial = limiter.nextSerial ∧
      (limiter.issue key rate).2.nextSerial = limiter.nextSerial + 1 := by
  unfold issue at made ⊢
  cases found : TokenBucket.ofRate? rate with
  | none =>
    rw [found] at made
    cases made
  | some bucket =>
    rw [found] at made
    obtain rfl := Option.some.inj made
    exact ⟨rfl, rfl⟩

/-- Where nothing has expired and no bucket is in use, a new one is issued. -/
theorem getBucket_of_free {now : Timestamp}
    (unexpired : ∀ record, limiter.record? key = some record → record.hasExpired now = false)
    (free : limiter.bucket? key = none) (nodeCap : UInt64) :
    limiter.getBucket key nodeCap now = limiter.issue key (limiter.capAt key nodeCap now) := by
  rw [getBucket, clearExpired_of_not_expired unexpired]
  rw [free]

/-- Whoever asks for a bucket gets the one that is in use from then on. -/
theorem getBucket_fst (nodeCap : UInt64) (now : Timestamp) :
    (limiter.getBucket key nodeCap now).1 =
      (limiter.getBucket key nodeCap now).2.bucket? key := by
  unfold getBucket
  dsimp only
  split
  next issued held => exact held.symm
  next free => exact issue_fst free

theorem nextSerial_clearExpired (now : Timestamp) :
    (limiter.clearExpired key now).nextSerial = limiter.nextSerial := by
  unfold clearExpired
  split
  · rfl
  · split <;> rfl

theorem throttle_getBucket (nodeCap : UInt64) (now : Timestamp) (k : UserKey) :
    (limiter.getBucket key nodeCap now).2.throttle k =
      if key = k then ((limiter.throttle k).current now).supplied nodeCap now limiter.nextSerial
      else limiter.throttle k := by
  have cleared := @throttle_clearExpired limiter key now k
  by_cases same : key = k
  · subst same
    rw [if_pos rfl] at cleared ⊢
    rw [← cleared, Throttle.supplied, getBucket]
    cases held : (limiter.clearExpired key now).bucket? key with
    | some issued =>
      have held' : ((limiter.clearExpired key now).throttle key).bucket = some issued := held
      rw [held']
    | none =>
      have free : ((limiter.clearExpired key now).throttle key).bucket = none := held
      rw [free, throttle_issue, capAt_eq, nextSerial_clearExpired]
      cases made : TokenBucket.ofRate?
          (((limiter.clearExpired key now).throttle key).cap nodeCap now) with
      | none => simp [← free]
      | some bucket => simp
  · rw [if_neg same] at cleared ⊢
    rw [← cleared, getBucket]
    split
    next => rfl
    next => rw [throttle_issue, if_neg fun both => same both.1]

theorem throttle_updateBucket (issued : IssuedBucket) (k : UserKey) :
    (limiter.updateBucket key issued).throttle k =
      if key = k ∧ (limiter.bucket? k).any (·.serial = issued.serial) then
        { limiter.throttle k with bucket := some issued }
      else limiter.throttle k := by
  unfold updateBucket
  cases held : limiter.bucket? key with
  | none =>
    rw [if_neg]
    rintro ⟨rfl, same⟩
    simp [held] at same
  | some current =>
    by_cases same : current.serial = issued.serial
    · have look : (limiter.buckets.insert key issued).get? k = _ :=
        Table.get?_insert _ _ _ _
      simp only [if_pos same, throttle, record?, bucket?, look]
      by_cases own : key = k
      · subst own
        have held' : limiter.buckets.get? key = some current := held
        simp [held', same]
      · simp [own]
    · dsimp only
      rw [if_neg same, if_neg]
      rintro ⟨rfl, same'⟩
      simp [held, same] at same'

theorem le_nextSerial_getBucket (nodeCap : UInt64) (now : Timestamp) :
    limiter.nextSerial ≤ (limiter.getBucket key nodeCap now).2.nextSerial := by
  rw [← @nextSerial_clearExpired limiter key now]
  unfold getBucket
  dsimp only
  split
  · exact Nat.le_refl _
  · unfold issue
    split
    · exact Nat.le_refl _
    · exact Nat.le_succ _

theorem nextSerial_ensureUser : (limiter.ensureUser key).nextSerial = limiter.nextSerial := by
  unfold ensureUser
  split <;> rfl

theorem nextSerial_updateBucket (issued : IssuedBucket) :
    (limiter.updateBucket key issued).nextSerial = limiter.nextSerial := by
  unfold updateBucket
  split
  · rfl
  · split <;> rfl

theorem nextSerial_accumulate (escalator : Escalator) (bytes : UInt64) (now : Timestamp) :
    (escalator.accumulate limiter key bytes now).2.2.nextSerial = limiter.nextSerial := by
  unfold Escalator.accumulate installTemporary
  split
  · rfl
  · dsimp only
    split
    · rfl
    · dsimp only
      split <;> rfl

/-- Traffic that counts towards an escalation changes the throttle of its user only where it
escalates, and then puts a temporary cap into the record. -/
theorem throttle_accumulate (escalator : Escalator) (bytes : UInt64) (now : Timestamp)
    (k : UserKey) :
    (escalator.accumulate limiter key bytes now).2.2.throttle k = limiter.throttle k ∨
      (key = k ∧ (escalator.accumulate limiter key bytes now).1 = true ∧
        ∃ record cap, limiter.record? k = some record ∧
          (escalator.accumulate limiter key bytes now).2.2.throttle k =
            ⟨some { record with temporary := some cap }, none⟩) := by
  unfold Escalator.accumulate
  split
  · exact Or.inl rfl
  next config _ =>
    dsimp only
    split
    · exact Or.inl rfl
    · have after := @throttle_installTemporary limiter key
        ⟨config.reducedSpeed, now.addSeconds config.durationSecs⟩ k
      by_cases same : key = k
      · subst same
        rw [if_pos rfl] at after
        cases known : limiter.record? key with
        | none =>
          rw [known] at after
          exact Or.inl after
        | some record =>
          rw [known] at after
          refine Or.inr ⟨rfl, ?_, record, _, rfl, after⟩
          simp [installTemporary, known]
      · rw [if_neg same] at after
        exact Or.inl after

end SpeedLimiter

/-! ### The operations of a scope -/

namespace Operation

/-- Whether the operation looks whether a temporary cap of a user has expired. -/
def looksAt (user : UInt64) (now : Timestamp) (operation : Operation) : Prop :=
  operation = .getBucket user now ∨ operation = .effectiveCap user now

end Operation

namespace Scope

/-- What holds the speed of a user. -/
def throttle (scope : Scope) (user : UInt64) : Throttle := scope.speed.throttle (scope.key user)

/-- The bucket of a user that is in use. -/
def bucket? (scope : Scope) (user : UInt64) : Option IssuedBucket :=
  scope.speed.bucket? (scope.key user)

end Scope

/-- All that an operation on a scope can do to the throttle of a user. -/
inductive Throttle.Step (scope : Scope) (user : UInt64) :
    Operation → Throttle → Throttle → Prop
  /-- A record without caps for a user who has none. -/
  | connected {ip : IpAddr} (unknown : scope.record? user = none) :
    Step scope user (.connect user ip) (scope.throttle user) ⟨some {}, scope.bucket? user⟩
  /-- A fresh record; the bucket stays. -/
  | enlisted {entry : RosterUser} (own : entry.id = user) :
    Step scope user (.insertUser entry) (scope.throttle user)
      ⟨some { staticSpeed := entry.speedLimit, deviceLimit := entry.deviceLimit },
        scope.bucket? user⟩
  | removed : Step scope user (.removeUser user) (scope.throttle user) ⟨none, none⟩
  | tornDown : Step scope user .teardown (scope.throttle user) ⟨none, none⟩
  | released {ip : IpAddr} {session : Option Nat}
    (offline : (scope.connections.release (scope.key user) ip session).1 = true) :
    Step scope user (.release user ip session) (scope.throttle user) ⟨scope.record? user, none⟩
  | reduced {now : Timestamp} {entries : List TrafficEntry} {record : LimitRecord}
    (listed : user ∈ (scope.escalate now entries).1) (known : scope.record? user = some record)
    (cap : TemporaryCap) :
    Step scope user (.escalate now entries) (scope.throttle user)
      ⟨some { record with temporary := some cap }, none⟩
  | expired {now : Timestamp} {operation : Operation} (looks : operation.looksAt user now)
    (found : (scope.throttle user).hasExpired now = true) :
    Step scope user operation (scope.throttle user)
      ⟨(scope.record? user).map (·.withoutTemporary), none⟩
  /-- A new bucket from the cap in force; nothing that has expired is left then. -/
  | issued {now : Timestamp} {record : Option LimitRecord} {bucket : TokenBucket}
    (current : Throttle.hasExpired ⟨record, none⟩ now = false)
    (made : TokenBucket.ofRate? (Throttle.cap ⟨record, none⟩ scope.limits.speedLimit now) =
      some bucket) :
    Step scope user (.getBucket user now) ⟨record, none⟩
      ⟨record, some ⟨scope.speed.nextSerial, bucket⟩⟩
  /-- The bucket in use in another state. -/
  | used {issued held : IssuedBucket} (inUse : scope.bucket? user = some held)
    (same : held.serial = issued.serial) :
    Step scope user (.updateBucket user issued) (scope.throttle user)
      ⟨scope.record? user, some issued⟩

namespace Scope

variable {scope : Scope} {user : UInt64}

theorem throttle_escalateEntry (entry : TrafficEntry) (now : Timestamp) :
    (scope.escalateEntry entry now).2.throttle user = scope.throttle user ∨
      (entry.1 = scope.key user ∧ (scope.escalateEntry entry now).1 = true ∧
        ∃ record cap, (scope.throttle user).record = some record ∧
          (scope.escalateEntry entry now).2.throttle user =
            ⟨some { record with temporary := some cap }, none⟩) :=
  SpeedLimiter.throttle_accumulate scope.escalator entry.2.total now (scope.key user)

theorem escalate_cons (now : Timestamp) (entry : TrafficEntry) (rest : List TrafficEntry) :
    scope.escalate now (entry :: rest) =
      (if (scope.escalateEntry entry now).1 then
          entry.1.user :: ((scope.escalateEntry entry now).2.escalate now rest).1
        else ((scope.escalateEntry entry now).2.escalate now rest).1,
        ((scope.escalateEntry entry now).2.escalate now rest).2) := rfl

/-- Escalations leave the throttle of a user as it is, or put a temporary cap into the record and
list the user. -/
theorem throttle_escalate (now : Timestamp) (entries : List TrafficEntry) :
    (scope.escalate now entries).2.throttle user = scope.throttle user ∨
      (user ∈ (scope.escalate now entries).1 ∧
        ∃ record cap, (scope.throttle user).record = some record ∧
          (scope.escalate now entries).2.throttle user =
            ⟨some { record with temporary := some cap }, none⟩) := by
  induction entries generalizing scope with
  | nil => exact Or.inl rfl
  | cons entry rest ih =>
    rw [escalate_cons]
    have first := @throttle_escalateEntry scope user entry now
    rcases @ih (scope.escalateEntry entry now).2 with later | ⟨listed, record, cap, known, later⟩
    · dsimp only
      rw [later]
      rcases first with same | ⟨own, isEscalated, reduced⟩
      · exact Or.inl same
      · refine Or.inr ⟨?_, reduced⟩
        rw [if_pos isEscalated, own]
        exact List.mem_cons_self
    · refine Or.inr ⟨?_, ?_⟩
      · dsimp only
        split
        · exact List.mem_cons_of_mem _ listed
        · exact listed
      · rcases first with same | ⟨-, -, before, cap', known', reduced⟩
        · exact ⟨record, cap, same ▸ known, later⟩
        · rw [reduced] at known
          obtain rfl := Option.some.inj known
          exact ⟨before, cap, known', later⟩

theorem throttle_of_record {record : Option LimitRecord} (known : scope.record? user = record) :
    scope.throttle user = ⟨record, scope.bucket? user⟩ := by
  rw [← known]
  rfl

/-- A connection that is granted makes a record where there was none; nothing else changes. -/
theorem throttle_connect (user' : UInt64) (ip : IpAddr) :
    (scope.connect user' ip).2.throttle user = scope.throttle user ∨
      (user' = user ∧ scope.record? user = none ∧
        (scope.connect user' ip).2.throttle user = ⟨some {}, scope.bucket? user⟩) := by
  cases isOpen : scope.isOpen with
  | false =>
    rw [connect_of_closed isOpen]
    exact Or.inl rfl
  | true =>
    rw [connect_of_open isOpen]
    split
    · exact Or.inl rfl
    · have after := @SpeedLimiter.throttle_ensureUser scope.speed (scope.key user') (scope.key user)
      simp only [key_inj] at after
      by_cases same : user' = user
      · subst same
        rw [if_pos rfl] at after
        cases known : scope.record? user' with
        | none =>
          have known' : scope.speed.record? (scope.key user') = none := known
          rw [known'] at after
          exact Or.inr ⟨rfl, rfl, after⟩
        | some record =>
          have known' : scope.speed.record? (scope.key user') = some record := known
          rw [known'] at after
          rw [throttle_of_record known]
          exact Or.inl after
      · rw [if_neg same] at after
        exact Or.inl after

/-- The last connection that is closed takes the bucket with it. -/
theorem throttle_release (user' : UInt64) (ip : IpAddr) (session : Option Nat) :
    (scope.release user' ip session).throttle user =
      if user' = user ∧ (scope.connections.release (scope.key user') ip session).1 = true then
        ⟨scope.record? user, none⟩
      else scope.throttle user := by
  unfold release
  cases offline : (scope.connections.release (scope.key user') ip session).1 with
  | false =>
    simp only [offline, Bool.false_eq_true, and_false, if_false]
    rfl
  | true =>
    have after := @SpeedLimiter.throttle_dropBucket scope.speed (scope.key user') (scope.key user)
    simp only [key_inj] at after
    simp only [offline, and_true]
    exact after

theorem throttle_removeUser (user' : UInt64) :
    (scope.removeUser user').throttle user =
      if user' = user then ⟨none, none⟩ else scope.throttle user := by
  have after := @SpeedLimiter.throttle_removeUser scope.speed (scope.key user') (scope.key user)
  simp only [key_inj] at after
  exact after

theorem throttle_insertUser (entry : RosterUser) :
    (scope.insertUser entry).throttle user =
      if entry.id = user then
        ⟨some { staticSpeed := entry.speedLimit, deviceLimit := entry.deviceLimit },
          scope.bucket? user⟩
      else scope.throttle user := by
  have after := @SpeedLimiter.throttle_insertUser scope.speed (scope.key entry.id)
    entry.speedLimit entry.deviceLimit (scope.key user)
  simp only [key_inj] at after
  exact after

theorem throttle_effectiveCap (user' : UInt64) (now : Timestamp) :
    (scope.effectiveCap user' now).2.throttle user =
      if user' = user then (scope.throttle user).current now else scope.throttle user := by
  have after := @SpeedLimiter.throttle_clearExpired scope.speed (scope.key user') now
    (scope.key user)
  simp only [key_inj] at after
  exact after

theorem throttle_getBucket (user' : UInt64) (now : Timestamp) :
    (scope.getBucket user' now).2.throttle user =
      if user' = user then
        ((scope.throttle user).current now).supplied scope.limits.speedLimit now
          scope.speed.nextSerial
      else scope.throttle user := by
  have after := @SpeedLimiter.throttle_getBucket scope.speed (scope.key user')
    scope.limits.speedLimit now (scope.key user)
  simp only [key_inj] at after
  exact after

theorem throttle_updateBucket (user' : UInt64) (issued : IssuedBucket) :
    (scope.updateBucket user' issued).throttle user =
      if user' = user ∧ (scope.bucket? user).any (·.serial = issued.serial) then
        ⟨scope.record? user, some issued⟩
      else scope.throttle user := by
  have after := @SpeedLimiter.throttle_updateBucket scope.speed (scope.key user') issued
    (scope.key user)
  simp only [key_inj] at after
  exact after

/-- What every step that an operation can take keeps, the operation keeps. -/
theorem throttle_induction {motive : Throttle → Prop} {operation : Operation}
    (single : operation.isRosterDiff = false) (start : motive (scope.throttle user))
    (step : ∀ before after, Throttle.Step scope user operation before after → motive before →
      motive after) :
    motive ((scope.perform operation).throttle user) := by
  -- Finding out what has expired is the same step for whoever looks.
  have looked {now : Timestamp} (looks : operation.looksAt user now) :
      motive ((scope.throttle user).current now) := by
    unfold Throttle.current
    split
    next expired => exact step _ _ (.expired looks expired) start
    next => exact start
  cases operation with
  | connect user' ip =>
    rw [perform]
    rcases @throttle_connect scope user user' ip with same | ⟨rfl, unknown, after⟩
    · rw [same]
      exact start
    · rw [after]
      exact step _ _ (.connected unknown) start
  | release user' ip session =>
    rw [perform, throttle_release]
    split
    next closed =>
      obtain ⟨rfl, offline⟩ := closed
      exact step _ _ (.released offline) start
    next => exact start
  | getBucket user' now =>
    rw [perform, throttle_getBucket]
    split
    next same =>
      subst same
      have current := looked (Or.inl rfl)
      have unexpired := @Throttle.hasExpired_current (scope.throttle user') now
      generalize (scope.throttle user').current now = cleared at current unexpired
      obtain ⟨record, bucket⟩ := cleared
      cases bucket with
      | some issued => exact current
      | none =>
        unfold Throttle.supplied
        dsimp only
        cases made : TokenBucket.ofRate?
            (Throttle.cap ⟨record, none⟩ scope.limits.speedLimit now) with
        | none => exact current
        | some bucket => exact step _ _ (.issued unexpired made) current
    next => exact start
  | updateBucket user' issued =>
    rw [perform, throttle_updateBucket]
    split
    next same =>
      obtain ⟨rfl, inUse⟩ := same
      obtain ⟨held, found, serial⟩ := (scope.bucket? user').any_eq_true _ |>.1 inUse
      exact step _ _ (.used found (of_decide_eq_true serial)) start
    next => exact start
  | effectiveCap user' now =>
    rw [perform, throttle_effectiveCap]
    split
    next same =>
      subst same
      exact looked (Or.inr rfl)
    next => exact start
  | removeUser user' =>
    rw [perform, throttle_removeUser]
    split
    next same =>
      subst same
      exact step _ _ .removed start
    next => exact start
  | insertUser entry =>
    rw [perform, throttle_insertUser]
    split
    next own => exact step _ _ (.enlisted own) start
    next => exact start
  | applyRosterDiff diff => cases single
  | escalate now entries =>
    rw [perform]
    rcases @throttle_escalate scope user now entries with same | ⟨listed, record, cap, known, after⟩
    · rw [same]
      exact start
    · rw [after]
      exact step _ _ (.reduced listed known cap) start
  | teardown => exact step _ _ .tornDown start
  | _ => exact start

/-- Whoever asks for a bucket gets the one that is in use from then on. -/
theorem getBucket_fst (now : Timestamp) :
    (scope.getBucket user now).1 = (scope.getBucket user now).2.bucket? user :=
  SpeedLimiter.getBucket_fst scope.limits.speedLimit now

/-- Whoever asks for a bucket finds out what has expired. -/
theorem hasExpired_getBucket (now : Timestamp) :
    ((scope.getBucket user now).2.throttle user).hasExpired now = false := by
  have unexpired := @Throttle.hasExpired_current (scope.throttle user) now
  rw [throttle_getBucket, if_pos rfl]
  unfold Throttle.supplied
  split
  · exact unexpired
  · exact unexpired

/-! ### Numbers of buckets -/

theorem nextSerial_escalate (now : Timestamp) (entries : List TrafficEntry) :
    (scope.escalate now entries).2.speed.nextSerial = scope.speed.nextSerial := by
  induction entries generalizing scope with
  | nil => rfl
  | cons entry rest ih =>
    have first : (scope.escalateEntry entry now).2.speed.nextSerial = scope.speed.nextSerial :=
      SpeedLimiter.nextSerial_accumulate scope.escalator entry.2.total now
    rw [escalate_cons]
    exact ih.trans first

/-- Numbers of buckets are not given twice. -/
theorem le_nextSerial_perform (operation : Operation) :
    scope.speed.nextSerial ≤ (scope.perform operation).speed.nextSerial := by
  cases operation with
  | connect user ip =>
    cases isOpen : scope.isOpen with
    | false =>
      have refused : scope.perform (.connect user ip) = scope := by
        rw [perform, connect_of_closed isOpen]
      exact Nat.le_of_eq (congrArg (·.speed.nextSerial) refused.symm)
    | true =>
      rw [perform, connect_of_open isOpen]
      split
      · exact Nat.le_refl _
      · exact Nat.le_of_eq SpeedLimiter.nextSerial_ensureUser.symm
  | release user ip session =>
    rw [perform, release]
    dsimp only
    split
    · exact Nat.le_refl _
    · exact Nat.le_refl _
  | getBucket user now => exact SpeedLimiter.le_nextSerial_getBucket _ now
  | updateBucket user issued => exact Nat.le_of_eq (SpeedLimiter.nextSerial_updateBucket issued).symm
  | effectiveCap user now => exact Nat.le_of_eq (SpeedLimiter.nextSerial_clearExpired now).symm
  | applyRosterDiff diff =>
    exact applyRosterDiff_induction
      (motive := fun s => scope.speed.nextSerial ≤ s.speed.nextSerial) (Nat.le_refl _)
      (fun _ _ le => le) (fun _ _ le => le)
  | escalate now entries => exact Nat.le_of_eq (nextSerial_escalate now entries).symm
  | _ => exact Nat.le_refl _

end Scope

/-! ### What retires a bucket -/

/-- Whether an operation retires the bucket of a user, if there is one: the user's last connection
is closed, the user is taken from the roster, a temporary cap is put into the user's record, one that
is there is found expired, or the scope ends. A change of the roster counts piece by piece. -/
def Operation.Retires (user : UInt64) (scope : Scope) : Operation → Prop
  | .release user' ip session =>
    user' = user ∧ (scope.connections.release (scope.key user) ip session).1 = true
  | .removeUser user' => user' = user
  | .escalate now entries => user ∈ (scope.escalate now entries).1
  | .getBucket user' now | .effectiveCap user' now =>
    user' = user ∧ (scope.throttle user).hasExpired now = true
  | .teardown => True
  | _ => False

namespace Scope

variable {scope : Scope} {user : UInt64} {serial : Nat}

/-- A bucket is in use until it is retired. -/
theorem serial_kept {operation : Operation} (single : operation.isRosterDiff = false)
    (spared : ¬ operation.Retires user scope)
    (inUse : (scope.bucket? user).map (·.serial) = some serial) :
    ((scope.perform operation).bucket? user).map (·.serial) = some serial := by
  refine throttle_induction (motive := fun throttle =>
    throttle.bucket.map (·.serial) = some serial) single inUse ?_
  intro before after step held
  cases step with
  | connected unknown => exact held
  | enlisted own => exact held
  | removed => exact absurd rfl spared
  | tornDown => exact absurd trivial spared
  | released offline => exact absurd ⟨rfl, offline⟩ spared
  | reduced listed known cap => exact absurd listed spared
  | expired looks found =>
    rcases looks with rfl | rfl
    · exact absurd ⟨rfl, found⟩ spared
    · exact absurd ⟨rfl, found⟩ spared
  | issued current made => cases held
  | used inUse same =>
    have held' : (scope.bucket? user).map (·.serial) = some serial := held
    rw [inUse] at held'
    exact (congrArg some same.symm).trans held'

/-- A bucket is in use in a whole run until it is retired. -/
theorem serial_kept_performAll {operations : List Operation}
    (spared : scope.Follows (Piecewise fun s operation => ¬ operation.Retires user s) operations)
    (inUse : (scope.bucket? user).map (·.serial) = some serial) :
    ((scope.performAll operations).bucket? user).map (·.serial) = some serial :=
  spared.keeps_piecewise (motive := fun s => (s.bucket? user).map (·.serial) = some serial) inUse
    fun _ _ single spared held => serial_kept single spared held

end Scope

end Tollgate
