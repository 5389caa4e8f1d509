import Tollgate.Proofs.Throttle

/-!
# Counts towards escalations

The escalator counts in words that stop at the greatest one. Still no byte is hidden or lost: a sum
that a word cannot hold is past every threshold, and at a threshold the count starts over. So the
word of a user is at every moment the exact number of bytes that were counted since
(`toNat_pending_performAll`), and an entry crosses the threshold where the exact sum does.

A batch of entries does what its entries do one after the other (`escalate_append`), so what is said
here of a single entry in any reachable state is said of every entry of every batch.
-/

namespace Tollgate

/-- The bytes of an entry both ways, as a number that has no greatest. -/
def UserTraffic.bytes (traffic : UserTraffic) : Nat :=
  traffic.upload.toNat + traffic.download.toNat

/-- An exact count after some more bytes: at the threshold it starts over. -/
def DynamicLimit.tally (limit : DynamicLimit) (count bytes : Nat) : Nat :=
  if count + bytes < limit.thresholdBytes.toNat then count + bytes else 0

/-- A sum in words stops only past every threshold. -/
theorem addSaturating_lt_iff {count threshold : UInt64} {traffic : UserTraffic} :
    addSaturating count traffic.total < threshold ↔
      count.toNat + traffic.bytes < threshold.toNat := by
  have total := toNat_addSaturating traffic.upload traffic.download
  have sum := toNat_addSaturating count traffic.total
  have fits : threshold.toNat < UInt64.size := threshold.toNat_lt
  rw [UInt64.lt_iff_toNat_lt, sum, UserTraffic.total, total, UserTraffic.bytes]
  omega

/-- Below a threshold a sum in words is exact. -/
theorem toNat_addSaturating_of_lt {count threshold : UInt64} {traffic : UserTraffic}
    (below : count.toNat + traffic.bytes < threshold.toNat) :
    (addSaturating count traffic.total).toNat = count.toNat + traffic.bytes := by
  have total := toNat_addSaturating traffic.upload traffic.download
  have sum := toNat_addSaturating count traffic.total
  have fits : threshold.toNat < UInt64.size := threshold.toNat_lt
  rw [sum, UserTraffic.total, total]
  rw [UserTraffic.bytes] at below ⊢
  omega

namespace Scope

/-- The dynamic limit in force, if the configuration enables one. -/
def dynamicLimit? (scope : Scope) : Option DynamicLimit :=
  scope.escalator.config.filter (·.isEnabled)

variable {scope : Scope}

theorem thresholdBytes_pos {limit : DynamicLimit} (inForce : scope.dynamicLimit? = some limit) :
    0 < limit.thresholdBytes.toNat := by
  have enabled := (Option.filter_eq_some_iff.1 inForce).2
  simp only [DynamicLimit.isEnabled, Bool.and_eq_true, decide_eq_true_eq] at enabled
  exact UInt64.lt_iff_toNat_lt.1 enabled.1.1

/-! ### One entry -/

theorem escalateEntry_of_disabled (disabled : scope.dynamicLimit? = none) (entry : TrafficEntry)
    (now : Timestamp) : scope.escalateEntry entry now = (false, scope) := by
  have disabled' : scope.escalator.config.filter (·.isEnabled) = none := disabled
  simp only [escalateEntry, Escalator.accumulate, disabled']

/-- What an entry does is decided by the exact sum. -/
theorem escalateEntry_of_enabled {limit : DynamicLimit} (inForce : scope.dynamicLimit? = some limit)
    (entry : TrafficEntry) (now : Timestamp) :
    scope.escalateEntry entry now =
      if (scope.escalator.pending entry.1).toNat + entry.2.bytes < limit.thresholdBytes.toNat then
        (false, { scope with
          escalator := scope.escalator.setCount entry.1
            (addSaturating (scope.escalator.pending entry.1) entry.2.total) })
      else
        ((scope.speed.installTemporary entry.1
            ⟨limit.reducedSpeed, now.addSeconds limit.durationSecs⟩).1,
          { scope with
            escalator := scope.escalator.setCount entry.1 0
            speed := (scope.speed.installTemporary entry.1
              ⟨limit.reducedSpeed, now.addSeconds limit.durationSecs⟩).2 }) := by
  have inForce' : scope.escalator.config.filter (·.isEnabled) = some limit := inForce
  simp only [escalateEntry, Escalator.accumulate, inForce', addSaturating_lt_iff]
  split
  · rfl
  · rfl

/-- Entries leave the configuration as it is. -/
theorem config_escalateEntry (entry : TrafficEntry) (now : Timestamp) :
    (scope.escalateEntry entry now).2.escalator.config = scope.escalator.config := by
  cases inForce : scope.dynamicLimit? with
  | none => rw [escalateEntry_of_disabled inForce]
  | some limit =>
    rw [escalateEntry_of_enabled inForce]
    split <;> rfl

/-- The count of the entry's user after an entry is the exact one, and below the threshold. -/
theorem toNat_pending_escalateEntry {limit : DynamicLimit}
    (inForce : scope.dynamicLimit? = some limit) (entry : TrafficEntry) (now : Timestamp)
    (key : UserKey) :
    ((scope.escalateEntry entry now).2.escalator.pending key).toNat =
      if entry.1 = key then
        limit.tally (scope.escalator.pending key).toNat entry.2.bytes
      else (scope.escalator.pending key).toNat := by
  rw [escalateEntry_of_enabled inForce, DynamicLimit.tally]
  by_cases own : entry.1 = key
  · subst own
    rw [if_pos rfl]
    split
    next below =>
      rw [Escalator.pending_setCount, if_pos rfl]
      exact toNat_addSaturating_of_lt below
    next =>
      rw [Escalator.pending_setCount, if_pos rfl]
      rfl
  · rw [if_neg own]
    split
    · rw [Escalator.pending_setCount, if_neg own]
    · rw [Escalator.pending_setCount, if_neg own]

/-! ### Batches -/

/-- A batch does what its entries do, one after the other. -/
theorem escalate_append (now : Timestamp) (first second : List TrafficEntry) :
    scope.escalate now (first ++ second) =
      ((scope.escalate now first).1 ++ ((scope.escalate now first).2.escalate now second).1,
        ((scope.escalate now first).2.escalate now second).2) := by
  induction first generalizing scope with
  | nil => rfl
  | cons entry rest ih =>
    rw [List.cons_append, escalate_cons, ih, escalate_cons]
    dsimp only
    split
    · rw [List.cons_append]
    · rfl

theorem escalate_singleton (now : Timestamp) (entry : TrafficEntry) :
    scope.escalate now [entry] =
      (if (scope.escalateEntry entry now).1 then [entry.1.user] else [],
        (scope.escalateEntry entry now).2) := rfl

/-- The exact count of a user after the entries of a batch. -/
def countAfterEntries (scope : Scope) (key : UserKey) (count : Nat)
    (entries : List TrafficEntry) : Nat :=
  match scope.dynamicLimit? with
  | none => count
  | some limit =>
    (entries.filter (·.1 = key)).foldl (fun count entry => limit.tally count entry.2.bytes) count

theorem toNat_pending_escalate (key : UserKey) (now : Timestamp) (entries : List TrafficEntry) :
    ((scope.escalate now entries).2.escalator.pending key).toNat =
      scope.countAfterEntries key (scope.escalator.pending key).toNat entries := by
  unfold countAfterEntries
  induction entries generalizing scope with
  | nil =>
    cases scope.dynamicLimit? with
    | none => rfl
    | some limit => rfl
  | cons entry rest ih =>
    have sameLimit : (scope.escalateEntry entry now).2.dynamicLimit? = scope.dynamicLimit? :=
      congrArg (Option.filter _) (config_escalateEntry entry now)
    have later := @ih (scope.escalateEntry entry now).2
    rw [sameLimit] at later
    rw [escalate_cons, later]
    cases inForce : scope.dynamicLimit? with
    | none => rw [escalateEntry_of_disabled inForce]
    | some limit =>
      dsimp only
      rw [toNat_pending_escalateEntry inForce]
      by_cases own : entry.1 = key
      · rw [if_pos own, List.filter_cons_of_pos (by simpa using own), List.foldl_cons]
      · rw [if_neg own, List.filter_cons_of_neg (by simpa using own)]

end Scope

/-! ### Runs -/

/-- The exact count of a user after an operation. It starts over where the user is taken from the
roster and where the scope ends; a closed scope takes no change of the roster. -/
def Operation.countAfter (key : UserKey) (scope : Scope) (count : Nat) : Operation → Nat
  | .escalate _ entries => scope.countAfterEntries key count entries
  | .removeUser user => if scope.key user = key then 0 else count
  | .applyRosterDiff diff =>
    if scope.isOpen ∧ diff.removed.any (scope.key ·.id = key) then 0 else count
  | .teardown => 0
  | _ => count

namespace Scope

/-- The exact count of a user at the end of a run: the bytes of its entries, both ways, that were
counted under an enabled configuration since the count last reached the threshold in force, the user
was taken from the roster, or the scope ended. -/
def exactCount (scope : Scope) (key : UserKey) (count : Nat) : List Operation → Nat
  | [] => count
  | operation :: rest =>
    (scope.perform operation).exactCount key (operation.countAfter key scope count) rest

variable {scope : Scope} {key : UserKey}

theorem pending_removeAll (removed : List RosterUser) :
    (scope.performAll (removed.map fun entry => .removeUser entry.id)).escalator.pending key =
      if removed.any (scope.key ·.id = key) then 0 else scope.escalator.pending key := by
  induction removed generalizing scope with
  | nil => rfl
  | cons entry rest ih =>
    have later := @ih (scope.removeUser entry.id)
    have first := Escalator.pending_removeUser scope.escalator (scope.key entry.id) key
    rw [List.map_cons, performAll_cons]
    refine later.trans ?_
    show (if _ then 0 else (scope.escalator.removeUser (scope.key entry.id)).pending _) = _
    rw [first]
    by_cases own : scope.key entry.id = key
    · simp [own]
    · have sameKey : (scope.removeUser entry.id).key = scope.key := rfl
      simp [own, sameKey]

theorem escalator_insertAll (added : List RosterUser) :
    (scope.performAll (added.map .insertUser)).escalator = scope.escalator := by
  induction added generalizing scope with
  | nil => rfl
  | cons entry rest ih => exact @ih (scope.insertUser entry)

/-- Each operation does to the count of a user what it does to the exact one. -/
theorem toNat_pending_perform (operation : Operation) :
    ((scope.perform operation).escalator.pending key).toNat =
      operation.countAfter key scope (scope.escalator.pending key).toNat := by
  cases operation with
  | connect user ip =>
    cases isOpen : scope.isOpen with
    | false =>
      rw [perform, connect_of_closed isOpen]
      rfl
    | true =>
      rw [perform, connect_of_open isOpen]
      split <;> rfl
  | release user ip session =>
    obtain ⟨speed, after, -⟩ := scope.release_frame user ip session
    rw [perform, after]
    rfl
  | removeUser user =>
    have after := Escalator.pending_removeUser scope.escalator (scope.key user) key
    refine (congrArg UInt64.toNat after).trans ?_
    rw [Operation.countAfter]
    split <;> rfl
  | applyRosterDiff diff =>
    rw [perform, applyRosterDiff, Operation.countAfter]
    cases scope.isOpen with
    | false => simp
    | true =>
      rw [if_pos rfl, changeRoster_eq_performAll, RosterDiff.pieces, performAll_append,
        escalator_insertAll, pending_removeAll]
      simp only [true_and]
      split <;> rfl
  | escalate now entries => exact toNat_pending_escalate key now entries
  | teardown => rfl
  | _ => rfl

/-- In every state of a run the count of a user is the exact one. -/
theorem toNat_pending_performAll (operations : List Operation) :
    ((scope.performAll operations).escalator.pending key).toNat =
      scope.exactCount key (scope.escalator.pending key).toNat operations := by
  induction operations generalizing scope with
  | nil => rfl
  | cons operation rest ih =>
    have later := @ih (scope.perform operation)
    rw [toNat_pending_perform] at later
    exact later

/-- Who is not the user of an entry keeps record, bucket and count. -/
theorem escalateEntry_frame (entry : TrafficEntry) (now : Timestamp) {key : UserKey}
    (other : entry.1 ≠ key) :
    (scope.escalateEntry entry now).2.speed.throttle key = scope.speed.throttle key ∧
      (scope.escalateEntry entry now).2.escalator.pending key = scope.escalator.pending key := by
  cases inForce : scope.dynamicLimit? with
  | none =>
    rw [escalateEntry_of_disabled inForce]
    exact ⟨rfl, rfl⟩
  | some limit =>
    rw [escalateEntry_of_enabled inForce]
    split
    · refine ⟨rfl, ?_⟩
      rw [Escalator.pending_setCount, if_neg other]
    · refine ⟨?_, ?_⟩
      · rw [SpeedLimiter.throttle_installTemporary, if_neg other]
      · rw [Escalator.pending_setCount, if_neg other]

/-- What the next entry of a user does to a scope that has counted `count` bytes of it, exactly: the
users it reports and the scope after it. -/
structure CountsEntry (scope : Scope) (key : UserKey) (count : Nat) (traffic : UserTraffic)
    (now : Timestamp) (reported : List UInt64) (after : Scope) : Prop where
  /-- Without an enabled configuration nothing is counted. -/
  disabled : scope.dynamicLimit? = none → reported = [] ∧ after = scope
  /-- Under an enabled configuration the word stays below the threshold. -/
  lt_threshold : ∀ limit, scope.dynamicLimit? = some limit →
    after.escalator.pending key < limit.thresholdBytes
  reported_iff : ∀ limit, scope.dynamicLimit? = some limit →
    (reported = [key.user] ↔ limit.thresholdBytes.toNat ≤ count + traffic.bytes ∧
      (scope.speed.record? key).isSome)
  reported_or : reported = [key.user] ∨ reported = []
  below : ∀ limit, scope.dynamicLimit? = some limit →
    count + traffic.bytes < limit.thresholdBytes.toNat →
    (after.escalator.pending key).toNat = count + traffic.bytes ∧ after.speed = scope.speed
  /-- A crossing reduces the speed of who has a record and retires the bucket. -/
  crossed : ∀ limit, scope.dynamicLimit? = some limit →
    limit.thresholdBytes.toNat ≤ count + traffic.bytes →
    after.escalator.pending key = 0 ∧
      ∀ record, scope.speed.record? key = some record → ∃ expiry : Timestamp,
        expiry.secs.toInt = min (now.secs.toInt + min (limit.durationSecs.toNat : Int)
          Timestamp.lastSecs) Timestamp.lastSecs ∧
        after.speed.throttle key =
          ⟨some { record with temporary := some ⟨limit.reducedSpeed, expiry⟩ }, none⟩
  /-- Nobody gets a record from an entry. -/
  unknown : scope.speed.record? key = none →
    after.speed.throttle key = scope.speed.throttle key
  others : ∀ key', key ≠ key' →
    after.speed.throttle key' = scope.speed.throttle key' ∧
      after.escalator.pending key' = scope.escalator.pending key'
  /-- Nothing else in the scope changes. -/
  rest : ∃ escalator speed, escalator.config = scope.escalator.config ∧
    after = { scope with escalator, speed }

/-- An entry below the threshold is counted and nothing else happens. -/
theorem countsEntry_of_below {limit : DynamicLimit} (inForce : scope.dynamicLimit? = some limit)
    {traffic : UserTraffic}
    (below : (scope.escalator.pending key).toNat + traffic.bytes < limit.thresholdBytes.toNat)
    (now : Timestamp) :
    scope.CountsEntry key (scope.escalator.pending key).toNat traffic now []
      { scope with
        escalator := scope.escalator.setCount key
          (addSaturating (scope.escalator.pending key) traffic.total) } := by
  have known {limit' : DynamicLimit} (inForce' : scope.dynamicLimit? = some limit') :
      limit' = limit := Option.some.inj (inForce'.symm.trans inForce)
  have counted := Escalator.pending_setCount scope.escalator key key
    (addSaturating (scope.escalator.pending key) traffic.total)
  rw [if_pos rfl] at counted
  constructor
  case disabled =>
    intro disabled
    rw [inForce] at disabled
    cases disabled
  case lt_threshold =>
    intro limit' inForce'
    rw [known inForce', counted]
    exact addSaturating_lt_iff.2 below
  case reported_iff =>
    intro limit' inForce'
    rw [known inForce']
    constructor
    · intro listed
      cases listed
    · rintro ⟨reached, -⟩
      omega
  case reported_or => exact Or.inr rfl
  case below =>
    intro _ _ _
    rw [counted]
    exact ⟨toNat_addSaturating_of_lt below, rfl⟩
  case crossed =>
    intro limit' inForce' reached
    rw [known inForce'] at reached
    omega
  case unknown => exact fun _ => rfl
  case others =>
    intro key' other
    refine ⟨rfl, ?_⟩
    rw [Escalator.pending_setCount, if_neg other]
  case rest => exact ⟨scope.escalator.setCount key _, scope.speed, rfl, rfl⟩

/-- An entry that reaches the threshold sets the count back and puts a cap into the record, if there
is one. -/
theorem countsEntry_of_reached {limit : DynamicLimit} (inForce : scope.dynamicLimit? = some limit)
    {traffic : UserTraffic}
    (reached : limit.thresholdBytes.toNat ≤ (scope.escalator.pending key).toNat + traffic.bytes)
    (now : Timestamp) {cap : TemporaryCap}
    (made : cap = ⟨limit.reducedSpeed, now.addSeconds limit.durationSecs⟩) :
    scope.CountsEntry key (scope.escalator.pending key).toNat traffic now
      (if (scope.speed.installTemporary key cap).1 then [key.user] else [])
      { scope with
        escalator := scope.escalator.setCount key 0
        speed := (scope.speed.installTemporary key cap).2 } := by
  have known {limit' : DynamicLimit} (inForce' : scope.dynamicLimit? = some limit') :
      limit' = limit := Option.some.inj (inForce'.symm.trans inForce)
  have counted := Escalator.pending_setCount scope.escalator key key 0
  rw [if_pos rfl] at counted
  have installed := @SpeedLimiter.throttle_installTemporary scope.speed key cap key
  rw [if_pos rfl] at installed
  have isInstalled := @SpeedLimiter.installTemporary_fst scope.speed key cap
  constructor
  case disabled =>
    intro disabled
    rw [inForce] at disabled
    cases disabled
  case lt_threshold =>
    intro limit' inForce'
    rw [known inForce', counted]
    exact UInt64.lt_iff_toNat_lt.2 (thresholdBytes_pos inForce)
  case reported_iff =>
    intro limit' inForce'
    rw [known inForce', isInstalled]
    cases (scope.speed.record? key).isSome with
    | false => simp
    | true => simp [reached]
  case reported_or =>
    split
    · exact Or.inl rfl
    · exact Or.inr rfl
  case below =>
    intro limit' inForce' below
    rw [known inForce'] at below
    omega
  case crossed =>
    intro limit' inForce' _
    rw [known inForce']
    refine ⟨counted, ?_⟩
    intro record found
    rw [found] at installed
    exact ⟨_, now.toInt_addSeconds limit.durationSecs, made ▸ installed⟩
  case unknown =>
    intro absent
    rw [absent] at installed
    exact installed
  case others =>
    intro key' other
    refine ⟨?_, ?_⟩
    · rw [SpeedLimiter.throttle_installTemporary, if_neg other]
    · rw [Escalator.pending_setCount, if_neg other]
  case rest => exact ⟨scope.escalator.setCount key 0, _, rfl, rfl⟩

theorem countsEntry_escalate (key : UserKey) (traffic : UserTraffic) (now : Timestamp) :
    scope.CountsEntry key (scope.escalator.pending key).toNat traffic now
      (scope.escalate now [(key, traffic)]).1 (scope.escalate now [(key, traffic)]).2 := by
  rw [escalate_singleton]
  cases inForce : scope.dynamicLimit? with
  | none =>
    rw [escalateEntry_of_disabled inForce]
    constructor
    case disabled => exact fun _ => ⟨rfl, rfl⟩
    case reported_or => exact Or.inr rfl
    case unknown => exact fun _ => rfl
    case others => exact fun _ _ => ⟨rfl, rfl⟩
    case rest => exact ⟨_, _, rfl, rfl⟩
    all_goals
      intro limit inForce'
      rw [inForce] at inForce'
      cases inForce'
  | some limit =>
    rw [escalateEntry_of_enabled inForce]
    dsimp only
    split
    next below => exact countsEntry_of_below inForce below now
    next reached => exact countsEntry_of_reached inForce (Nat.not_lt.1 reached) now rfl

end Scope

/-- In every state that a scope can reach the count of a user is the exact one. The next entry of
the user is counted exactly, wherever in a batch it stands: a batch does what its first entry does
and then what the rest does. -/
theorem escalations_are_exact (name : String) (config : ScopeConfig) (operations : List Operation)
    (key : UserKey) (traffic : UserTraffic) (now : Timestamp) :
    ∃ scope count reported after,
      scope = (Scope.activate name config).performAll operations ∧
      count = (Scope.activate name config).exactCount key 0 operations ∧
      (scope.escalator.pending key).toNat = count ∧
      scope.CountsEntry key count traffic now reported after ∧
      ∀ later, scope.escalate now ((key, traffic) :: later) =
        (reported ++ (after.escalate now later).1, (after.escalate now later).2) := by
  have exact : (((Scope.activate name config).performAll operations).escalator.pending key).toNat =
      (Scope.activate name config).exactCount key 0 operations :=
    Scope.toNat_pending_performAll operations
  refine ⟨_, _, _, _, rfl, rfl, exact, ?_, Scope.escalate_append now [(key, traffic)]⟩
  rw [← exact]
  exact Scope.countsEntry_escalate key traffic now

/-- A user whose count was raised, kept through a change of the configuration and then reaches the
new threshold is held to the reduced speed. -/
theorem escalations_are_exact_crossed :
    ∃ scope after : Scope,
      scope = (Scope.activate "a" ⟨{}, some ⟨1000, 100, 10⟩, false⟩).performAll
        [.connect 7 (.v4 1), .escalate ⟨0⟩ [(⟨"a", 7⟩, ⟨7, 600, 300⟩)],
          .setDynamicLimit (some ⟨950, 50, 20⟩)] ∧
      (scope.escalator.pending ⟨"a", 7⟩).toNat = 900 ∧
      scope.escalate ⟨5⟩ [(⟨"a", 7⟩, ⟨7, 25, 25⟩)] = ([7], after) ∧
      after.escalator.pending ⟨"a", 7⟩ = 0 ∧
      ∃ expiry : Timestamp, expiry.secs.toInt = 25 ∧
        after.speed.throttle ⟨"a", 7⟩ = ⟨some ⟨0, 0, some ⟨50, expiry⟩⟩, none⟩ := by
  obtain ⟨scope, count, reported, after, rfl, rfl, exact, counts, batch⟩ :=
    escalations_are_exact "a" ⟨{}, some ⟨1000, 100, 10⟩, false⟩
      [.connect 7 (.v4 1), .escalate ⟨0⟩ [(⟨"a", 7⟩, ⟨7, 600, 300⟩)],
        .setDynamicLimit (some ⟨950, 50, 20⟩)] ⟨"a", 7⟩ ⟨7, 25, 25⟩ ⟨5⟩
  obtain ⟨restarted, reduced⟩ := counts.crossed ⟨950, 50, 20⟩ (by decide) (by decide)
  obtain ⟨expiry, last, throttle⟩ := reduced {} (by decide)
  have listed : reported = [7] := (counts.reported_iff ⟨950, 50, 20⟩ (by decide)).2 (by decide)
  refine ⟨_, after, rfl, exact.trans (by decide), ?_, restarted, expiry, last, throttle⟩
  rw [batch, listed]
  rfl

/-- Before the clock's zero a duration that the clock cannot count ends before the last moment,
which is where the moment and the duration add up to in whole numbers. -/
theorem long_reduction_ends_early :
    ∃ (limit : DynamicLimit) (scope after : Scope) (now expiry : Timestamp),
      scope = (Scope.activate "a" ⟨{}, some limit, false⟩).perform (.connect 7 (.v4 1)) ∧
      scope.escalate now [(⟨"a", 7⟩, ⟨7, 1, 0⟩)] = ([7], after) ∧
      after.record? 7 = some ⟨0, 0, some ⟨limit.reducedSpeed, expiry⟩⟩ ∧
      expiry.secs.toInt ≠ min (now.secs.toInt + limit.durationSecs.toNat) Timestamp.lastSecs := by
  refine ⟨⟨1, 100, 9223372036854775808⟩, _, _, ⟨-1⟩, ⟨9223372036854775806⟩, rfl, rfl, ?_, ?_⟩
  · decide
  · decide

end Tollgate
