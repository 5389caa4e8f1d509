import Mathlib.Order.Basic
import Tollgate.Proofs.Throttle

/-!
# Buckets and the caps in force

A bucket is made from the cap in force at one moment and is handed out at others. In between the cap
changes by temporary caps that begin and end, by records that come and go and by the clock, also one
that is set back. `Throttle.Tracks` is what keeps the bucket right through all this: its capacity is
that of the cap at every moment at which the record holds nothing that has expired.
-/

namespace Tollgate

/-! ### The tightest of many caps -/

namespace Cap

/-- The smallest of the caps that are not zero; zero if all are. -/
def tightest (caps : List UInt64) : UInt64 := ((caps.filter (· ≠ 0)).min?).getD 0

theorem tightest_cons (cap : UInt64) (caps : List UInt64) :
    tightest (cap :: caps) = tighter cap (tightest caps) := by
  unfold tightest tighter
  by_cases unlimited : cap = 0
  · simp [unlimited]
  · rw [List.filter_cons_of_pos (by simpa using unlimited), List.min?_cons]
    cases found : (caps.filter (· ≠ 0)).min? with
    | none => simp [unlimited]
    | some least =>
      have member := (List.mem_filter.1 (List.min?_mem found)).2
      have limits : least ≠ 0 := by simpa using member
      simp [unlimited, limits]

theorem tighter_assoc (a b c : UInt64) : tighter (tighter a b) c = tighter a (tighter b c) := by
  by_cases first : a = 0
  · simp [first]
  by_cases second : b = 0
  · simp [second]
  by_cases third : c = 0
  · simp [third]
  have least : min a b ≠ 0 := by
    have limits : tighter a b ≠ 0 := fun none => first (tighter_eq_zero_iff.1 none).1
    simpa [tighter, first, second] using limits
  have least' : min b c ≠ 0 := by
    have limits : tighter b c ≠ 0 := fun none => second (tighter_eq_zero_iff.1 none).1
    simpa [tighter, second, third] using limits
  simp only [tighter, first, second, third, least, least', if_false]
  exact Std.Associative.assoc a b c

end Cap

namespace LimitRecord

/-- The speed of the temporary cap, as long as its expiry is still to come. -/
def temporaryAt (record : LimitRecord) (now : Timestamp) : UInt64 :=
  match record.temporary with
  | some cap => if now < cap.expiry then cap.speed else 0
  | none => 0

theorem cap_eq_tighter (record : LimitRecord) (nodeCap : UInt64) (now : Timestamp) :
    record.cap nodeCap now =
      Cap.tighter (Cap.tighter nodeCap record.staticSpeed) (record.temporaryAt now) := by
  unfold cap temporarySpeed? temporaryAt
  cases record.temporary with
  | none => simp
  | some cap =>
    by_cases early : now < cap.expiry
    · by_cases limits : 0 < cap.speed
      · simp [TemporaryCap.isInForce, Option.filter_some, early, limits]
      · have unlimited : cap.speed = 0 := by
          rw [UInt64.lt_iff_toNat_lt] at limits
          exact UInt64.toNat_inj.1 (Nat.eq_zero_of_not_pos limits)
        simp [TemporaryCap.isInForce, Option.filter_some, early, unlimited]
    · simp [TemporaryCap.isInForce, Option.filter_some, early]

theorem cap_eq_tightest (record : LimitRecord) (nodeCap : UInt64) (now : Timestamp) :
    record.cap nodeCap now =
      Cap.tightest [nodeCap, record.staticSpeed, record.temporaryAt now] := by
  have last : Cap.tightest [] = 0 := rfl
  simp only [Cap.tightest_cons, last, Cap.tighter_zero_right]
  rw [cap_eq_tighter, Cap.tighter_assoc]

theorem cap_of_no_caps (nodeCap : UInt64) (now : Timestamp) :
    ({} : LimitRecord).cap nodeCap now = nodeCap :=
  Cap.tighter_zero_right nodeCap

/-- While nothing has expired, time makes no difference. -/
theorem cap_eq_of_not_expired {record : LimitRecord} {now later : Timestamp}
    (unexpired : record.hasExpired now = false) (unexpired' : record.hasExpired later = false)
    (nodeCap : UInt64) : record.cap nodeCap now = record.cap nodeCap later := by
  have same : record.temporaryAt now = record.temporaryAt later := by
    unfold temporaryAt
    cases temporary : record.temporary with
    | none => rfl
    | some cap =>
      have early := (hasExpired_eq_false_iff temporary).1 unexpired
      have early' := (hasExpired_eq_false_iff temporary).1 unexpired'
      simp [early, early']
  rw [cap_eq_tighter, cap_eq_tighter, same]

end LimitRecord

namespace TokenBucket

/-- A bucket that holds a user to a cap. -/
structure HoldsTo (bucket : TokenBucket) (cap : UInt64) : Prop where
  limited : cap ≠ 0
  capacity_eq : bucket.capacity.toNat = min cap.toNat (UInt32.size - 1)

/-- There is a bucket for every rate but zero, and it holds to the rate. -/
theorem ofRate?_cases (rate : UInt64) :
    (rate = 0 ∧ ofRate? rate = none) ∨
      ∃ bucket, ofRate? rate = some bucket ∧ bucket.HoldsTo rate := by
  have size : UInt32.size = 4294967296 := rfl
  have counted : (UInt32.ofNat (min rate.toNat (UInt32.size - 1))).toNat =
      min rate.toNat (UInt32.size - 1) :=
    UInt32.toNat_ofNat_of_lt (by omega)
  unfold ofRate?
  dsimp only
  by_cases unlimited : rate = 0
  · subst unlimited
    exact Or.inl ⟨rfl, rfl⟩
  · have positive : rate.toNat ≠ 0 := fun zero => unlimited (UInt64.toNat_inj.1 zero)
    have some_bytes : 0 < UInt32.ofNat (min rate.toNat (UInt32.size - 1)) := by
      rw [UInt32.lt_iff_toNat_lt, counted]
      show 0 < _
      omega
    rw [dif_pos some_bytes]
    exact Or.inr ⟨_, rfl, unlimited, counted⟩

theorem holdsTo_of_ofRate? {rate : UInt64} {bucket : TokenBucket}
    (made : ofRate? rate = some bucket) : bucket.HoldsTo rate := by
  rcases ofRate?_cases rate with ⟨-, unmade⟩ | ⟨other, made', holds⟩
  · exact nomatch made.symm.trans unmade
  · obtain rfl := Option.some.inj (made.symm.trans made')
    exact holds

end TokenBucket

/-! ### The bucket in use and the cap -/

namespace Throttle

variable {throttle : Throttle} {nodeCap : UInt64}

/-- The bucket in use holds to the cap, at every moment at which nothing in the record has expired.
-/
def Tracks (nodeCap : UInt64) (throttle : Throttle) : Prop :=
  ∀ issued, throttle.bucket = some issued → ∀ now, throttle.hasExpired now = false →
    issued.bucket.HoldsTo (throttle.cap nodeCap now)

theorem tracks_of_none {record : Option LimitRecord} : Tracks nodeCap ⟨record, none⟩ :=
  fun _ held => nomatch held

theorem cap_eq_of_not_expired {now later : Timestamp}
    (unexpired : throttle.hasExpired now = false) (unexpired' : throttle.hasExpired later = false) :
    throttle.cap nodeCap now = throttle.cap nodeCap later := by
  obtain ⟨record, bucket⟩ := throttle
  cases record with
  | none => rfl
  | some record => exact LimitRecord.cap_eq_of_not_expired unexpired unexpired' nodeCap

/-- A bucket made from the cap of one moment holds to it at all others. -/
theorem tracks_of_issued {record : Option LimitRecord} {issued : IssuedBucket} {now : Timestamp}
    (unexpired : Throttle.hasExpired ⟨record, some issued⟩ now = false)
    (holds : issued.bucket.HoldsTo (Throttle.cap ⟨record, some issued⟩ nodeCap now)) :
    Tracks nodeCap ⟨record, some issued⟩ := by
  intro other held later unexpired'
  obtain rfl := Option.some.inj held
  rw [← cap_eq_of_not_expired unexpired unexpired']
  exact holds

end Throttle

namespace Scope

variable {scope : Scope} {user : UInt64}

/-- A rule under which buckets follow the caps: the cap of the node stays, nobody is enlisted who has
a record or a bucket already, and what is put back in place of a bucket is that bucket in another
state. -/
def KeepsCaps (scope : Scope) : Operation → Prop
  | .setLimits limits => limits.speedLimit = scope.limits.speedLimit
  | .insertUser entry => scope.record? entry.id = none ∧ scope.bucket? entry.id = none
  | .updateBucket user issued =>
    ∀ held, scope.bucket? user = some held → held.serial = issued.serial →
      held.bucket.capacity = issued.bucket.capacity
  | _ => True

/-- The cap in force for a user: the smallest that is not zero of the node's cap, the cap of the
roster and a temporary cap whose expiry is still to come; zero if there is none. -/
def capInForce (scope : Scope) (user : UInt64) (now : Timestamp) : UInt64 :=
  match scope.record? user with
  | none => Cap.tightest [scope.limits.speedLimit]
  | some record =>
    Cap.tightest [scope.limits.speedLimit, record.staticSpeed, record.temporaryAt now]

theorem capInForce_eq (now : Timestamp) :
    scope.capInForce user now = (scope.throttle user).cap scope.limits.speedLimit now := by
  have last : Cap.tightest [] = 0 := rfl
  cases known : scope.record? user with
  | none =>
    rw [throttle_of_record known, capInForce, known]
    simp only [Cap.tightest_cons, last, Cap.tighter_zero_right]
    rfl
  | some record =>
    rw [throttle_of_record known, capInForce, known]
    exact (record.cap_eq_tightest _ now).symm

theorem speedLimit_perform {operation : Operation} (fits : scope.KeepsCaps operation) :
    (scope.perform operation).limits.speedLimit = scope.limits.speedLimit := by
  cases operation with
  | connect user ip =>
    cases isOpen : scope.isOpen with
    | false => rw [perform, connect_of_closed isOpen]
    | true =>
      rw [perform, connect_of_open isOpen]
      split <;> rfl
  | release user ip session =>
    obtain ⟨speed, after, -⟩ := scope.release_frame user ip session
    rw [perform, after]
  | applyRosterDiff diff =>
    exact applyRosterDiff_induction
      (motive := fun s => s.limits.speedLimit = scope.limits.speedLimit) rfl
      (fun _ _ same => same) (fun _ _ same => same)
  | setLimits limits => exact fits
  | escalate now entries =>
    obtain ⟨escalator, speed, after⟩ := scope.escalate_frame now entries
    rw [perform, after]
  | _ => rfl

/-- Operations that keep to the rule keep the bucket of every user in line with the cap. -/
theorem tracks_perform {operation : Operation} (single : operation.isRosterDiff = false)
    (fits : scope.KeepsCaps operation)
    (tracks : (scope.throttle user).Tracks scope.limits.speedLimit) :
    ((scope.perform operation).throttle user).Tracks
      (scope.perform operation).limits.speedLimit := by
  rw [speedLimit_perform fits]
  refine throttle_induction (motive := Throttle.Tracks scope.limits.speedLimit) single tracks ?_
  intro before after step tracks
  -- A change of the record retires the bucket, but for a record that begins without caps.
  cases step with
  | connected unknown =>
    rw [throttle_of_record unknown] at tracks
    intro issued held now _
    have holds := tracks issued held now rfl
    show issued.bucket.HoldsTo (({} : LimitRecord).cap _ now)
    rw [LimitRecord.cap_of_no_caps]
    exact holds
  | enlisted own =>
    obtain ⟨-, free⟩ := fits
    rw [own] at free
    rw [free]
    exact Throttle.tracks_of_none
  | removed => exact Throttle.tracks_of_none
  | tornDown => exact Throttle.tracks_of_none
  | released offline => exact Throttle.tracks_of_none
  | reduced listed known cap => exact Throttle.tracks_of_none
  | expired looks found => exact Throttle.tracks_of_none
  | @issued now record bucket current made =>
    have holds := TokenBucket.holdsTo_of_ofRate? made
    exact Throttle.tracks_of_issued current holds
  | @used issued held inUse same =>
    have capacity := fits held inUse same
    intro other found now unexpired
    obtain rfl := Option.some.inj found
    have holds := tracks held inUse now unexpired
    exact ⟨holds.limited, capacity ▸ holds.capacity_eq⟩

theorem tracks_activate (name : String) (config : ScopeConfig) :
    ((activate name config).throttle user).Tracks (activate name config).limits.speedLimit :=
  Throttle.tracks_of_none

theorem tracks_performAll {operations : List Operation}
    (run : scope.Follows (Piecewise KeepsCaps) operations)
    (tracks : (scope.throttle user).Tracks scope.limits.speedLimit) :
    ((scope.performAll operations).throttle user).Tracks
      (scope.performAll operations).limits.speedLimit :=
  run.keeps_piecewise (motive := fun s => (s.throttle user).Tracks s.limits.speedLimit) tracks
    fun _ _ single fits holds => tracks_perform single fits holds

/-- Whoever asks for a bucket gets one that holds to the cap in force, or none where there is no
cap. -/
theorem getBucket_of_tracks (now : Timestamp)
    (tracks : (scope.throttle user).Tracks scope.limits.speedLimit) :
    ((scope.getBucket user now).1 = none ↔ scope.capInForce user now = 0) ∧
      ∀ issued, (scope.getBucket user now).1 = some issued →
        issued.bucket.HoldsTo (scope.capInForce user now) := by
  have after := @throttle_getBucket scope user user now
  rw [if_pos rfl] at after
  have answer : (scope.getBucket user now).1 =
      ((scope.getBucket user now).2.throttle user).bucket := getBucket_fst now
  -- What the bucket is looked up in holds nothing that has expired, so its cap is the one in force.
  have current : ((scope.throttle user).current now).Tracks scope.limits.speedLimit := by
    unfold Throttle.current
    split
    next => exact Throttle.tracks_of_none
    next => exact tracks
  have unexpired := @Throttle.hasExpired_current (scope.throttle user) now
  rw [answer, after, capInForce_eq, ← Throttle.cap_current]
  generalize (scope.throttle user).current now = cleared at current unexpired
  obtain ⟨record, bucket⟩ := cleared
  cases bucket with
  | some held =>
    have holds := current held rfl now unexpired
    refine ⟨⟨fun free => (nomatch free), fun none => absurd none holds.limited⟩, ?_⟩
    rintro issued ⟨⟩
    exact holds
  | none =>
    unfold Throttle.supplied
    dsimp only
    rcases TokenBucket.ofRate?_cases (Throttle.cap ⟨record, none⟩ scope.limits.speedLimit now) with
      ⟨unlimited, unmade⟩ | ⟨bucket, made, holds⟩
    · rw [unmade, unlimited]
      exact ⟨⟨fun _ => rfl, fun _ => rfl⟩, fun _ issued => nomatch issued⟩
    · rw [made]
      refine ⟨⟨fun free => (nomatch free), fun none => absurd none holds.limited⟩, ?_⟩
      rintro issued ⟨⟩
      exact holds

end Scope

/-- While the cap of the node stays and nobody is enlisted who has a record or a bucket already,
whoever asks for a bucket gets none exactly where no cap is in force, and otherwise one with the
capacity of the cap in force. It is the same bucket every time until it is retired. -/
theorem buckets_follow_caps (name : String) (config : ScopeConfig) {operations : List Operation}
    {scope : Scope} (reached : scope = (Scope.activate name config).performAll operations)
    (run : (Scope.activate name config).Follows (Scope.Piecewise Scope.KeepsCaps) operations)
    (user : UInt64) (now : Timestamp) :
    ((scope.getBucket user now).1 = none ↔ scope.capInForce user now = 0) ∧
    ∀ issued, (scope.getBucket user now).1 = some issued →
      issued.bucket.capacity.toNat =
        min (scope.capInForce user now).toNat (UInt32.size - 1) ∧
      ∀ between later,
        (scope.getBucket user now).2.Follows
          (Scope.Piecewise fun s operation => ¬ operation.Retires user s)
          (between ++ [.getBucket user later]) →
        ∃ again,
          (((scope.getBucket user now).2.performAll between).getBucket user later).1 = some again ∧
            again.serial = issued.serial := by
  subst reached
  have fresh := @Scope.tracks_activate user name config
  have tracks := Scope.tracks_performAll run fresh
  generalize (Scope.activate name config).performAll operations = scope at tracks
  obtain ⟨unlimited, limited⟩ := Scope.getBucket_of_tracks now tracks
  refine ⟨unlimited, ?_⟩
  intro issued answered
  refine ⟨(limited issued answered).capacity_eq, ?_⟩
  intro between later spared
  have inUse : ((scope.getBucket user now).2.bucket? user).map (·.serial) = some issued.serial := by
    rw [← Scope.getBucket_fst, answered]
    rfl
  have kept := Scope.serial_kept_performAll spared inUse
  rw [Scope.performAll_append] at kept
  obtain ⟨again, held, same⟩ := Option.map_eq_some_iff.1 kept
  refine ⟨again, ?_, same⟩
  rw [Scope.getBucket_fst]
  exact held

/-- A user of the roster is held to a temporary cap. The bucket stays the same with another
connection and a clock that is set back. -/
theorem buckets_follow_caps_reduced :
    ∃ (operations : List Operation) (scope : Scope) (issued again : IssuedBucket),
      operations = [.applyRosterDiff { added := [⟨7, ⟨0⟩, 1000, 0⟩] }, .connect 7 (.v4 1),
        .getBucket 7 ⟨0⟩, .escalate ⟨0⟩ [(⟨"a", 7⟩, ⟨7, 1000, 0⟩)]] ∧
      scope = (Scope.activate "a" ⟨⟨5000, 0, 0⟩, some ⟨1000, 100, 10⟩, false⟩).performAll
        operations ∧
      (scope.getBucket 7 ⟨5⟩).1 = some issued ∧ issued.bucket.capacity.toNat = 100 ∧
      (((scope.getBucket 7 ⟨5⟩).2.performAll
        [.connect 7 (.v4 2), .effectiveCap 7 ⟨-100⟩]).getBucket 7 ⟨9⟩).1 = some again ∧
      again.serial = issued.serial := by
  let start := Scope.activate "a" ⟨⟨5000, 0, 0⟩, some ⟨1000, 100, 10⟩, false⟩
  let operations : List Operation :=
    [.applyRosterDiff { added := [⟨7, ⟨0⟩, 1000, 0⟩] }, .connect 7 (.v4 1), .getBucket 7 ⟨0⟩,
      .escalate ⟨0⟩ [(⟨"a", 7⟩, ⟨7, 1000, 0⟩)]]
  have run : start.Follows (Scope.Piecewise Scope.KeepsCaps) operations := by
    refine ⟨?_, trivial, trivial, trivial, trivial⟩
    intro _
    exact ⟨⟨rfl, rfl⟩, trivial⟩
  obtain ⟨-, limited⟩ := buckets_follow_caps "a" _ rfl run 7 ⟨5⟩
  have answered : ((start.performAll operations).getBucket 7 ⟨5⟩).1 =
      some ⟨1, ⟨100, by decide, none⟩⟩ := by decide
  obtain ⟨capacity, same⟩ := limited _ answered
  obtain ⟨again, found, serial⟩ := same [.connect 7 (.v4 2), .effectiveCap 7 ⟨-100⟩] ⟨9⟩ (by
    refine ⟨?_, ?_, ?_, trivial⟩
    · exact fun retires => retires
    · rintro ⟨-, expired⟩
      revert expired
      decide
    · rintro ⟨-, expired⟩
      revert expired
      decide)
  exact ⟨operations, _, _, again, rfl, rfl, answered, capacity.trans (by decide), found, serial⟩

end Tollgate
