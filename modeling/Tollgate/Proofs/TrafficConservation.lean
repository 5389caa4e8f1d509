import Tollgate.Proofs.Steps
import Tollgate.Proofs.Reports

/-!
# Traffic is counted once

Where traffic of a scope is counted while pushes take it out, hand it to reporters, and put back
what no reporter took, every byte is at any moment in one of three places: in a report that was
delivered, in a report in flight, or pending in the ledger. What is fed to the escalator is what was
delivered. A report is what the call hands over (`Call.traffic`), and it is delivered when the call
returns without an error.

`Accounted` is the invariant of the scope, for any amount in flight, with one lemma for each thing
that can happen to a batch. The amounts in flight are a sum over all pushes of a node.
-/

namespace Tollgate

/-! ### Sums over tables -/

namespace Table

variable {κ α : Type} [Ord κ] [Std.LawfulEqOrd κ] [Std.TransOrd κ]

/-- The sum of a weight over all values. -/
def total (t : Table κ α) (weight : α → Nat) : Nat := (t.toList.map fun e => weight e.2).sum

theorem total_insert (t : Table κ α) (k : κ) (v : α) (weight : α → Nat) :
    (t.insert k v).total weight = weight v + (t.erase k).total weight := by
  have apart : (k, v) ∉ (t.erase k).entries := by
    simp [erase]
  have perm : (t.insert k v).entries.Perm ((k, v) :: (t.erase k).entries) := by
    refine (List.perm_ext_iff_of_nodup (nodup_of_ascending (t.insert k v).ascending)
      (List.nodup_cons.2 ⟨apart, nodup_of_ascending (t.erase k).ascending⟩)).2 ?_
    intro entry
    simp [insert, erase, mem_insertEntry_iff t.ascending, Std.LawfulEqCmp.compare_eq_iff_eq]
  have summed := (perm.map fun e => weight e.2).sum_nat
  rw [List.map_cons, List.sum_cons] at summed
  exact summed

/-- One value apart from the others. -/
theorem total_eq [DecidableEq κ] (t : Table κ α) (k : κ) (weight : α → Nat) :
    t.total weight = (t.get? k).elim 0 weight + (t.erase k).total weight := by
  cases found : t.get? k with
  | some v =>
    have split := t.total_insert k v weight
    rwa [insert_of_get? found] at split
  | none =>
    rw [erase_of_get? found]
    exact (Nat.zero_add _).symm

end Table

/-! ### The account of a scope -/

/-- What was counted for the users of a scope, and the reports that were delivered, as they were
handed over, each with the moment at which it counts towards escalations. -/
structure TrafficAccount where
  counted : List (UInt64 × Traffic) := []
  delivered : List (Timestamp × List UserTraffic) := []

namespace TrafficAccount

/-- The account with more reports delivered. -/
def deliver (account : TrafficAccount) (more : List (Timestamp × List UserTraffic)) :
    TrafficAccount :=
  { account with delivered := account.delivered ++ more }

theorem deliver_nil (account : TrafficAccount) : account.deliver [] = account := by
  rw [deliver, List.append_nil]

end TrafficAccount

/-- The bytes of a user in delivered reports. -/
def bytesDelivered (user : UInt64) (way : Direction)
    (delivered : List (Timestamp × List UserTraffic)) : Nat :=
  (delivered.map fun report => bytesIn user way report.2).sum

theorem bytesDelivered_append (user : UInt64) (way : Direction)
    (first second : List (Timestamp × List UserTraffic)) :
    bytesDelivered user way (first ++ second) =
      bytesDelivered user way first + bytesDelivered user way second := by
  simp [bytesDelivered]

/-- What was delivered, with the entries of a scope: this is fed to its escalator. -/
def feedFor (scope : String) (delivered : List (Timestamp × List UserTraffic)) :
    List (Timestamp × List TrafficEntry) :=
  delivered.map fun report => (report.1, entriesFor scope report.2)

theorem feedFor_append (scope : String) (first second : List (Timestamp × List UserTraffic)) :
    feedFor scope (first ++ second) = feedFor scope first ++ feedFor scope second :=
  List.map_append

theorem IsBatch.feedFor_eq {scope : String} {entries : List TrafficEntry}
    (h : IsBatch scope entries) (now : Timestamp) :
    feedFor scope [(now, entries.map (·.2))] = [(now, entries)] := by
  rw [feedFor, List.map_singleton, h.entriesFor_eq]

/-- The same traffic, pending and counted towards escalations. -/
structure Scope.SameTraffic (before after : Scope) : Prop where
  name_eq : after.name = before.name
  ledger_eq : after.ledger = before.ledger
  escalator_eq : after.escalator = before.escalator
  speed_eq : after.speed = before.speed

theorem Scope.SameTraffic.refl {scope : Scope} : scope.SameTraffic scope := ⟨rfl, rfl, rfl, rfl⟩

/-- The scope with nothing but reports fed to its escalator. -/
def Scope.escalateAll (scope : Scope) (reports : List (Timestamp × List TrafficEntry)) : Scope :=
  reports.foldl (fun scope report => (scope.escalate report.1 report.2).2) scope

/-- What becomes of escalations depends on the escalator and the speed limiter only. -/
theorem Scope.escalate_congr {scope other : Scope} (escalators : scope.escalator = other.escalator)
    (speeds : scope.speed = other.speed) (now : Timestamp) (entries : List TrafficEntry) :
    (scope.escalate now entries).2.escalator = (other.escalate now entries).2.escalator ∧
      (scope.escalate now entries).2.speed = (other.escalate now entries).2.speed := by
  induction entries generalizing scope other with
  | nil => exact ⟨escalators, speeds⟩
  | cons entry rest ih =>
    apply @ih (scope.escalateEntry entry now).2 (other.escalateEntry entry now).2
    · simp only [escalateEntry, escalators, speeds]
    · simp only [escalateEntry, escalators, speeds]

/-- Since its start, all that was counted for a scope was delivered, is carried, or is pending, but
for whole multiples of the width; and the escalator was fed what was delivered. -/
structure Accounted (start scope : Scope) (account : TrafficAccount)
    (carried : UInt64 → Direction → Nat) : Prop where
  name_eq : scope.name = start.name
  keyed : scope.ledger.IsOf start.name
  reports : ∀ report ∈ account.delivered, report.2 ≠ [] ∧ IsReport report.2
  balance : ∀ user way, ∃ k, bytesCounted user way account.counted =
    bytesDelivered user way account.delivered + carried user way +
      (scope.ledger.pending ⟨start.name, user⟩).bytes way + k * UInt64.size
  escalator_eq :
    scope.escalator = (start.escalateAll (feedFor start.name account.delivered)).escalator
  speed_eq : scope.speed = (start.escalateAll (feedFor start.name account.delivered)).speed

namespace Accounted

variable {start scope after : Scope} {account : TrafficAccount}
  {carried carried' : UInt64 → Direction → Nat} {entries : List TrafficEntry}

theorem of_same (h : Accounted start scope account carried) (same : scope.SameTraffic after) :
    Accounted start after account carried where
  name_eq := same.name_eq.trans h.name_eq
  keyed := same.ledger_eq ▸ h.keyed
  reports := h.reports
  balance := same.ledger_eq ▸ h.balance
  escalator_eq := same.escalator_eq.trans h.escalator_eq
  speed_eq := same.speed_eq.trans h.speed_eq

theorem of_carried (h : Accounted start scope account carried)
    (same : ∀ user way, carried' user way = carried user way) :
    Accounted start scope account carried' where
  name_eq := h.name_eq
  keyed := h.keyed
  reports := h.reports
  balance user way := by
    rw [same]
    exact h.balance user way
  escalator_eq := h.escalator_eq
  speed_eq := h.speed_eq

/-- Traffic is counted. -/
theorem reportTraffic (h : Accounted start scope account carried) (user : UInt64)
    (traffic : Traffic) :
    Accounted start (scope.reportTraffic user traffic)
      { account with counted := account.counted ++ [(user, traffic)] } carried where
  name_eq := h.name_eq
  keyed := h.keyed.record h.name_eq traffic
  reports := h.reports
  balance user' way := by
    obtain ⟨k, before⟩ := h.balance user' way
    obtain ⟨k', added⟩ :=
      @Ledger.exists_bytes_record scope.ledger start.name user user' traffic way
    refine ⟨k + k', ?_⟩
    rw [bytesCounted_append, bytesCounted_singleton, before, Nat.add_mul]
    have key : scope.key user = ⟨start.name, user⟩ := by rw [Scope.key, h.name_eq]
    show _ = _ + _ + ((scope.ledger.record (scope.key user) traffic).pending _).bytes way + _
    rw [key]
    dsimp only
    omega
  escalator_eq := h.escalator_eq
  speed_eq := h.speed_eq

/-- A drain moves all that is pending into what is carried. -/
theorem drain (h : Accounted start scope account carried) :
    Accounted start (scope.perform .drainTraffic) account
      fun user way => bytesIn user way (scope.ledger.entries.map (·.2)) + carried user way where
  name_eq := h.name_eq
  keyed := Ledger.isOf_empty
  reports := h.reports
  balance user way := by
    obtain ⟨k, before⟩ := h.balance user way
    refine ⟨k, ?_⟩
    have nothing : (scope.perform .drainTraffic).ledger.pending ⟨start.name, user⟩ = {} := rfl
    rw [h.keyed.bytesIn_entries, nothing, Traffic.bytes_zero]
    omega
  escalator_eq := h.escalator_eq
  speed_eq := h.speed_eq

/-- A batch that is delivered is fed to the escalator. -/
theorem deliver
    (h : Accounted start scope account
      fun user way => bytesIn user way (entries.map (·.2)) + carried user way)
    (filled : entries ≠ []) (batch : IsBatch start.name entries) (now : Timestamp) :
    Accounted start (scope.perform (.escalate now entries))
      (account.deliver [(now, entries.map (·.2))]) carried := by
  have ledger_eq : (scope.perform (.escalate now entries)).ledger = scope.ledger := by
    obtain ⟨escalator, speed, frame⟩ := scope.escalate_frame now entries
    rw [Scope.perform, frame]
  have fed : start.escalateAll
      (feedFor start.name (account.deliver [(now, entries.map (·.2))]).delivered) =
        ((start.escalateAll (feedFor start.name account.delivered)).escalate now entries).2 := by
    rw [TrafficAccount.deliver, feedFor_append, batch.feedFor_eq, Scope.escalateAll,
      List.foldl_append]
    rfl
  obtain ⟨escalators, speeds⟩ := Scope.escalate_congr h.escalator_eq h.speed_eq now entries
  refine ⟨(Scope.name_perform _).trans h.name_eq, ?_, ?_, ?_, ?_, ?_⟩
  · rw [ledger_eq]
    exact h.keyed
  · intro other member
    rcases List.mem_append.1 member with earlier | last
    · exact h.reports other earlier
    · rw [List.mem_singleton.1 last]
      exact ⟨by simpa using filled, batch.report⟩
  · intro user way
    obtain ⟨k, before⟩ := h.balance user way
    refine ⟨k, ?_⟩
    have last : bytesDelivered user way [(now, entries.map (·.2))] =
        bytesIn user way (entries.map (·.2)) := by
      simp [bytesDelivered]
    show bytesCounted user way account.counted = _
    rw [ledger_eq, TrafficAccount.deliver, bytesDelivered_append, last, before]
    omega
  · rw [fed]
    exact escalators
  · rw [fed]
    exact speeds

/-- A batch that is not delivered goes back to what is pending. -/
theorem credit
    (h : Accounted start scope account
      fun user way => bytesIn user way (entries.map (·.2)) + carried user way)
    (batch : IsBatch start.name entries) :
    Accounted start (scope.perform (.creditTraffic entries)) account carried where
  name_eq := h.name_eq
  keyed := h.keyed.credit fun entry member => by rw [batch.keyed entry member]
  reports := h.reports
  balance user way := by
    obtain ⟨k, before⟩ := h.balance user way
    obtain ⟨k', added⟩ := @Ledger.exists_bytes_credit scope.ledger start.name entries batch.keyed
      user way
    refine ⟨k + k', ?_⟩
    show _ = _ + _ + ((scope.ledger.credit entries).pending _).bytes way + _
    rw [Nat.add_mul]
    omega
  escalator_eq := h.escalator_eq
  speed_eq := h.speed_eq

end Accounted

/-! ### Pushes -/

/-- The traffic that a call hands to the reporter. -/
def Call.traffic : Call → List UserTraffic
  | .report traffic => traffic
  | _ => []

/-- The traffic that the reporter has taken when a call returns. -/
def Call.delivered? (peers : Collaborators) : Call → Option (List UserTraffic)
  | .report traffic => peers.report.toOption.map fun _ => traffic
  | _ => none

namespace PushCycle

variable {a b : Nat} {drained : List TrafficEntry} {online : List UserIps} {summary : PushSummary}
  {peers : Collaborators} {now : Timestamp}

/-- The bytes of a user of an activation in the call that a push is at. -/
def carries (a : Nat) (user : UInt64) (way : Direction) (cycle : PushCycle) : Nat :=
  if cycle.activation = a then bytesIn user way cycle.call.traffic else 0

/-- The report of an activation that is delivered when the call of a push returns. -/
def delivers (a : Nat) (peers : Collaborators) (now : Timestamp) (cycle : PushCycle) :
    List (Timestamp × List UserTraffic) :=
  if cycle.activation = a then ((cycle.call.delivered? peers).map (now, ·)).toList else []

@[simp] theorem carries_reporting (user : UInt64) (way : Direction) :
    (reporting b drained).carries a user way =
      if b = a then bytesIn user way (drained.map (·.2)) else 0 := rfl

@[simp] theorem carries_syncing (user : UInt64) (way : Direction) :
    (syncing b online summary).carries a user way = 0 :=
  ite_self 0

theorem delivers_of_ne {cycle : PushCycle} (other : cycle.activation ≠ a) :
    cycle.delivers a peers now = [] := if_neg other

theorem delivers_of_ok (taken : peers.report = .ok ()) :
    (reporting b drained).delivers b peers now = [(now, drained.map (·.2))] := by
  simp [delivers, activation, call, Call.delivered?, taken, Except.toOption]

theorem delivers_of_error {e : Error} (failed : peers.report = .error e) :
    (reporting b drained).delivers a peers now = [] := by
  simp [delivers, call, Call.delivered?, failed, Except.toOption]

@[simp] theorem delivers_syncing : (syncing b online summary).delivers a peers now = [] :=
  ite_self []

end PushCycle

/-- The report of an activation that is delivered when a push begins: without a reporter, all that
is taken out. -/
def Coordinator.deliversAtOnce (coordinator : Coordinator) (registry : Registry) (a : Nat)
    (now : Timestamp) : List (Timestamp × List UserTraffic) :=
  if coordinator.hasReporter = false ∧ registry.active.get? coordinator.scope = some a ∧
      (registry.scope a).ledger.entries ≠ [] then
    [(now, (registry.scope a).ledger.entries.map (·.2))]
  else []

/-- What a push carries after it has come so far. -/
def Progress.carries (a : Nat) (user : UInt64) (way : Direction) :
    Progress PushCycle PushSummary → Nat
  | .calling cycle => cycle.carries a user way
  | .finished _ => 0

namespace Coordinator

variable {coordinator : Coordinator} {registry : Registry} {a : Nat}

/-- The end of a window is nothing to traffic. -/
theorem sameTraffic_closeWindow (b : Nat) (summary : PushSummary) (a : Nat) :
    (registry.scope a).SameTraffic ((coordinator.closeWindow registry b summary).2.scope a) := by
  have placed (scope : Scope) (same : (registry.scope b).SameTraffic scope) :
      (registry.scope a).SameTraffic ((registry.setScope b scope).scope a) := by
    rw [Registry.scope_setScope]
    split
    next here => exact here ▸ same
    next => exact .refl
  unfold closeWindow
  dsimp only
  split
  · split
    · exact .refl
    · exact placed _ ⟨rfl, rfl, rfl, rfl⟩
  · exact placed _ ⟨rfl, rfl, rfl, rfl⟩

/-- At the end of a window no report is in flight. -/
theorem closeWindow_ne_reporting (b : Nat) (summary : PushSummary) (a : Nat)
    (drained : List TrafficEntry) :
    (coordinator.closeWindow registry b summary).1 ≠ .calling (.reporting a drained) := by
  unfold closeWindow
  dsimp only
  split
  · split
    · rintro ⟨⟩
    · rintro ⟨⟩
  · rintro ⟨⟩

theorem carries_closeWindow (b : Nat) (summary : PushSummary) (a : Nat) (user : UInt64)
    (way : Direction) : (coordinator.closeWindow registry b summary).1.carries a user way = 0 := by
  unfold closeWindow
  dsimp only
  split
  · split
    · exact PushCycle.carries_syncing user way
    · rfl
  · rfl

/-- What a push does with the traffic that it takes out. -/
theorem beginPush_of_active {b : Nat} (active : registry.active.get? coordinator.scope = some b)
    (now : Timestamp) {entries : List TrafficEntry}
    (drained : (registry.scope b).ledger.entries = entries) :
    coordinator.beginPush registry now =
      if entries = [] then
        coordinator.closeWindow (registry.modify b (·.perform .drainTraffic)) b {}
      else if coordinator.hasReporter then
        (.calling (.reporting b entries), registry.modify b (·.perform .drainTraffic))
      else
        coordinator.closeWindow
          ((registry.modify b (·.perform .drainTraffic)).modify b
            (·.perform (.escalate now entries))) b
          (deliver (registry.modify b (·.perform .drainTraffic)) b now entries).1 := by
  subst drained
  unfold beginPush
  rw [Registry.find_eq_ok_iff.2 active]
  simp only [List.isEmpty_iff]
  rfl

end Coordinator

namespace Accounted

variable {start : Scope} {account : TrafficAccount} {carried : UInt64 → Direction → Nat}
  {coordinator : Coordinator} {registry : Registry} {a : Nat}

theorem modify (f : Scope → Scope)
    (h : Accounted start (f (registry.scope a)) account carried) :
    Accounted start ((registry.modify a f).scope a) account carried := by
  rw [Registry.scope_modify, if_pos rfl]
  exact h

theorem modify_of_ne {b : Nat} (other : b ≠ a) (f : Scope → Scope)
    (h : Accounted start (registry.scope a) account carried) :
    Accounted start ((registry.modify b f).scope a) account carried := by
  rw [Registry.scope_modify, if_neg other]
  exact h

end Accounted

/-- How a push that has come so far leaves the account of an activation. -/
structure Handed (a : Nat) (start : Scope) (account : TrafficAccount)
    (carried : UInt64 → Direction → Nat) (result : Progress PushCycle PushSummary × Registry) :
    Prop where
  books : Accounted start (result.2.scope a) account
    fun user way => result.1.carries a user way + carried user way
  flight : ∀ drained, result.1 = .calling (.reporting a drained) →
    drained ≠ [] ∧ IsBatch start.name drained

namespace Handed

variable {start : Scope} {account : TrafficAccount} {carried : UInt64 → Direction → Nat}
  {coordinator : Coordinator} {registry : Registry} {a b : Nat}

theorem closeWindow (h : Accounted start (registry.scope a) account carried) (b : Nat)
    (summary : PushSummary) :
    Handed a start account carried (coordinator.closeWindow registry b summary) where
  books := by
    refine (h.of_same (Coordinator.sameTraffic_closeWindow b summary a)).of_carried ?_
    intro user way
    rw [Coordinator.carries_closeWindow, Nat.zero_add]
  flight drained flight := absurd flight (Coordinator.closeWindow_ne_reporting b summary a drained)

theorem finished (h : Accounted start (registry.scope a) account carried)
    (result : Except Error PushSummary) :
    Handed a start account carried (.finished result, registry) where
  books := h.of_carried fun _ _ => Nat.zero_add _
  flight _ flight := nomatch flight

/-- A push that begins and has no reporter to call delivers what it takes out. -/
theorem beginPush (h : Accounted start (registry.scope a) account carried) (now : Timestamp) :
    Handed a start (account.deliver (coordinator.deliversAtOnce registry a now)) carried
      (coordinator.beginPush registry now) := by
  unfold Coordinator.deliversAtOnce
  cases active : registry.active.get? coordinator.scope with
  | none =>
    have unknown : registry.find coordinator.scope = .error (.unknownScope coordinator.scope) := by
      rw [Registry.find, active]
    rw [if_neg (by simp), account.deliver_nil, Coordinator.beginPush, unknown]
    exact .finished h _
  | some b =>
    generalize drained : (registry.scope b).ledger.entries = entries
    rw [Coordinator.beginPush_of_active active now drained]
    by_cases own : b = a
    · subst own
      have taken := h.drain
      have batch := h.keyed.isBatch
      rw [drained] at taken batch
      rw [drained]
      by_cases nothing : entries = []
      · subst nothing
        rw [if_pos rfl, if_neg (by simp), account.deliver_nil]
        exact .closeWindow (.modify _ (taken.of_carried fun _ _ => (Nat.zero_add _).symm)) b _
      · rw [if_neg nothing]
        by_cases reporter : coordinator.hasReporter = true
        · rw [if_pos reporter, if_neg (by simp [reporter]), account.deliver_nil]
          refine ⟨.modify _ (taken.of_carried fun user way => ?_), ?_⟩
          · rw [Progress.carries, PushCycle.carries_reporting, if_pos rfl]
          · rintro _ ⟨⟩
            exact ⟨nothing, batch⟩
        · rw [if_neg reporter, if_pos ⟨Bool.not_eq_true _ ▸ reporter, rfl, nothing⟩]
          refine .closeWindow (.modify _ ?_) b _
          rw [Registry.scope_modify, if_pos rfl]
          exact taken.deliver nothing batch now
    · have elsewhere : ¬ (coordinator.hasReporter = false ∧ some b = some a ∧
          (registry.scope a).ledger.entries ≠ []) := by simp [own]
      rw [if_neg elsewhere, account.deliver_nil]
      split
      · exact .closeWindow (h.modify_of_ne own _) b _
      · split
        · refine ⟨(h.modify_of_ne own _).of_carried fun user way => ?_, ?_⟩
          · rw [Progress.carries, PushCycle.carries_reporting, if_neg own, Nat.zero_add]
          · rintro _ ⟨⟩
            exact absurd rfl own
        · exact .closeWindow ((h.modify_of_ne own _).modify_of_ne own _) b _

/-- A report that returns hands its batch to the escalator, or puts it back. -/
theorem resumePush {cycle : PushCycle}
    (h : Accounted start (registry.scope a) account
      fun user way => cycle.carries a user way + carried user way)
    (flight : ∀ drained, cycle = .reporting a drained →
      drained ≠ [] ∧ IsBatch start.name drained)
    (peers : Collaborators) (now : Timestamp) :
    Handed a start (account.deliver (cycle.delivers a peers now)) carried
      (coordinator.resumePush registry peers now cycle) := by
  cases cycle with
  | reporting b drained =>
    by_cases own : b = a
    · subst own
      obtain ⟨filled, batch⟩ := flight drained rfl
      have held : Accounted start (registry.scope b) account
          fun user way => bytesIn user way (drained.map (·.2)) + carried user way :=
        h.of_carried fun user way => by rw [PushCycle.carries_reporting, if_pos rfl]
      simp only [Coordinator.resumePush]
      cases answered : peers.report with
      | ok =>
        rw [PushCycle.delivers_of_ok answered]
        exact .closeWindow (.modify (·.perform (.escalate now drained))
          (held.deliver filled batch now)) b _
      | error e =>
        rw [PushCycle.delivers_of_error answered, account.deliver_nil]
        exact .closeWindow (.modify (·.perform (.creditTraffic drained)) (held.credit batch)) b _
    · have idle : Accounted start (registry.scope a) account carried :=
        h.of_carried fun user way => by rw [PushCycle.carries_reporting, if_neg own, Nat.zero_add]
      have other : (PushCycle.reporting b drained).activation ≠ a := own
      rw [PushCycle.delivers_of_ne other, account.deliver_nil]
      simp only [Coordinator.resumePush]
      cases peers.report with
      | ok => exact .closeWindow (idle.modify_of_ne own (·.perform (.escalate now drained))) b _
      | error e =>
        exact .closeWindow (idle.modify_of_ne own (·.perform (.creditTraffic drained))) b _
  | syncing b online summary =>
    have idle : Accounted start (registry.scope a) account carried :=
      h.of_carried fun _ _ => by rw [PushCycle.carries_syncing, Nat.zero_add]
    have placed (f : Scope → Scope) (same : (registry.scope b).SameTraffic (f (registry.scope b)))
        (result : Except Error PushSummary) :
        Handed a start account carried (.finished result, registry.modify b f) := by
      refine .finished ?_ _
      by_cases own : b = a
      · subst own
        exact .modify f (idle.of_same same)
      · exact idle.modify_of_ne own f
    rw [PushCycle.delivers_syncing, account.deliver_nil]
    simp only [Coordinator.resumePush]
    cases peers.sync online with
    | ok merged => exact placed _ ⟨rfl, rfl, rfl, rfl⟩ _
    | error e => exact placed _ ⟨rfl, rfl, rfl, rfl⟩ _

end Handed

/-! ### Runs -/

/-- What an event counts for the users of an activation. -/
def Event.counted (a : Nat) : Event → List (UInt64 × Traffic)
  | .operate b (.reportTraffic user traffic) => if b = a then [(user, traffic)] else []
  | _ => []

/-- What an event delivers of the traffic of an activation. -/
def Node.delivered (node : Node) (a : Nat) : Event → List (Timestamp × List UserTraffic)
  | .beginPush c now =>
    ((node.coordinators.get? c).map (·.deliversAtOnce node.registry a now)).getD []
  | .resumePush c peers now => ((node.pushes.get? c).map (·.delivers a peers now)).getD []
  | _ => []

/-- The account after an event. -/
def TrafficAccount.after (account : TrafficAccount) (a : Nat) (node : Node) (event : Event) :
    TrafficAccount :=
  { account with counted := account.counted ++ event.counted a }.deliver (node.delivered a event)

/-- Whether traffic is counted, or pushed. -/
def Event.isTraffic : Event → Bool
  | .operate _ (.reportTraffic ..) | .beginPush .. | .resumePush .. => true
  | _ => false

/-- A run of traffic that is counted and pushed, with the account of one activation. -/
def Node.TrafficRun (a : Nat) : Node × TrafficAccount → Node × TrafficAccount → Prop :=
  Relation.ReflTransGen fun before after =>
    ∃ event, event.isTraffic = true ∧ before.1.Step event after.1 ∧
      after.2 = before.2.after a before.1 event

namespace Node

/-- The bytes of a user of an activation in reports in flight. -/
def inFlight (node : Node) (a : Nat) (user : UInt64) (way : Direction) : Nat :=
  node.pushes.total (PushCycle.carries a user way)

/-- The traffic of an activation is accounted for, in its scope and in all pushes. -/
structure TrafficAccounted (a : Nat) (start : Scope) (node : Node) (account : TrafficAccount) :
    Prop where
  books : Accounted start (node.scope a) account (node.inFlight a)
  flight : ∀ c drained, node.pushes.get? c = some (.reporting a drained) →
    drained ≠ [] ∧ IsBatch start.name drained

namespace TrafficAccounted

variable {a : Nat} {start : Scope} {node : Node} {account : TrafficAccount}

theorem settlePush (h : node.TrafficAccounted a start account) {c : Nat}
    {result : Progress PushCycle PushSummary × Registry} {account' : TrafficAccount}
    (handed : Handed a start account'
      (fun user way => (node.pushes.erase c).total (PushCycle.carries a user way)) result) :
    (node.settlePush c result).TrafficAccounted a start account' := by
  obtain ⟨progress, registry⟩ := result
  obtain ⟨books, flight⟩ := handed
  cases progress with
  | calling cycle =>
    refine ⟨books.of_carried fun user way => Table.total_insert _ _ _ _, ?_⟩
    intro c' drained found
    have found' := (Table.get?_insert _ _ _ _).symm.trans found
    split at found'
    · exact flight drained (by rw [Option.some.inj found'])
    · exact h.flight c' drained found'
  | finished result =>
    refine ⟨books.of_carried fun user way => (Nat.zero_add _).symm, ?_⟩
    intro c' drained found
    have found' := (Table.get?_erase _ _ _).symm.trans found
    split at found'
    · cases found'
    · exact h.flight c' drained found'

/-- The books with one push apart from the others. -/
theorem books_apart (h : node.TrafficAccounted a start account) (c : Nat) :
    Accounted start (node.scope a) account fun user way =>
      (node.pushes.get? c).elim 0 (PushCycle.carries a user way) +
        (node.pushes.erase c).total (PushCycle.carries a user way) :=
  h.books.of_carried fun _ _ => (Table.total_eq _ _ _).symm

theorem step (h : node.TrafficAccounted a start account) {event : Event} {next : Node}
    (ofTraffic : event.isTraffic = true) (step : node.Step event next) :
    next.TrafficAccounted a start (account.after a node event) := by
  unfold TrafficAccount.after
  cases step with
  | @operate b operation known settled =>
    cases operation with
    | reportTraffic user traffic =>
      simp only [Event.counted, Node.delivered, TrafficAccount.deliver_nil]
      refine ⟨?_, h.flight⟩
      by_cases own : b = a
      · subst own
        rw [if_pos rfl]
        exact .modify (·.perform (.reportTraffic user traffic)) (h.books.reportTraffic user traffic)
      · rw [if_neg own, List.append_nil]
        exact h.books.modify_of_ne own _
    | _ => cases ofTraffic
  | @beginPush c coordinator found free now =>
    have apart := h.books_apart c
    rw [free] at apart
    simp only [Event.counted, Node.delivered, found, Option.map_some, Option.getD_some,
      List.append_nil]
    exact h.settlePush (.beginPush (apart.of_carried fun _ _ => (Nat.zero_add _).symm) now)
  | @resumePush c coordinator cycle found flight peers now =>
    have apart := h.books_apart c
    rw [flight] at apart
    simp only [Event.counted, Node.delivered, flight, Option.map_some, Option.getD_some,
      List.append_nil]
    exact h.settlePush (.resumePush apart (fun drained same => h.flight c drained (same ▸ flight))
      peers now)
  | _ => cases ofTraffic

theorem run {initial : Node × TrafficAccount} {after : Node × TrafficAccount}
    (h : initial.1.TrafficAccounted a start initial.2) (run : TrafficRun a initial after) :
    after.1.TrafficAccounted a start after.2 := by
  induction run with
  | refl => exact h
  | tail _ last ih =>
    obtain ⟨event, traffic, step, noted⟩ := last
    rw [noted]
    exact ih.step traffic step

end TrafficAccounted

end Node

/-- A count that wraps is right modulo its width, and right where it does not wrap. -/
theorem eq_of_wrapped {total sum k width : Nat} (wrapped : total = sum + k * width) :
    total % width = sum % width ∧ (total < width → total = sum) := by
  subst wrapped
  refine ⟨Nat.add_mul_mod_self_right sum k width, ?_⟩
  intro small
  rcases Nat.eq_zero_or_pos k with rfl | positive
  · omega
  · have := Nat.le_mul_of_pos_left width positive
    omega

/-- From a ledger without counts on, and however pushes of any number of coordinators and reports of
traffic interleave: of each user, the bytes counted so far are those that the reporter was handed and
took, those it is being handed, and those pending, modulo the width of a count, and exactly where the
total fits a count. Every report that was delivered has something in it and lists each user once and
with traffic. The escalator was fed these reports and nothing else. -/
theorem traffic_counted_once {a : Nat} {start node : Node} {account : TrafficAccount}
    (unused : (start.scope a).ledger = {})
    (quiet : ∀ c drained, start.pushes.get? c ≠ some (.reporting a drained))
    (run : Node.TrafficRun a (start, {}) (node, account)) :
    (∀ user way,
      bytesCounted user way account.counted % UInt64.size =
          (bytesDelivered user way account.delivered + node.inFlight a user way +
            ((node.scope a).ledger.pending ((node.scope a).key user)).bytes way) % UInt64.size ∧
        (bytesCounted user way account.counted < UInt64.size →
          bytesCounted user way account.counted =
            bytesDelivered user way account.delivered + node.inFlight a user way +
              ((node.scope a).ledger.pending ((node.scope a).key user)).bytes way)) ∧
      (∀ report ∈ account.delivered, report.2 ≠ [] ∧ IsReport report.2) ∧
      (node.scope a).escalator =
          ((start.scope a).escalateAll (feedFor (start.scope a).name account.delivered)).escalator ∧
        (node.scope a).speed =
          ((start.scope a).escalateAll (feedFor (start.scope a).name account.delivered)).speed := by
  have nothing (user : UInt64) (way : Direction) : start.inFlight a user way = 0 := by
    refine List.sum_eq_zero_iff_forall_eq_nat.2 ?_
    intro amount member
    obtain ⟨⟨c, cycle⟩, listed, rfl⟩ := List.mem_map.1 member
    have found := Table.mem_toList_iff.1 listed
    cases cycle with
    | reporting b drained =>
      refine if_neg ?_
      rintro rfl
      exact quiet c drained found
    | syncing b online summary => exact PushCycle.carries_syncing user way
  have initial : start.TrafficAccounted a (start.scope a) {} := by
    refine ⟨⟨rfl, ?_, ?_, ?_, rfl, rfl⟩, fun c drained found => absurd found (quiet c drained)⟩
    · rw [unused]
      exact Ledger.isOf_empty
    · exact fun _ member => nomatch member
    · intro user way
      refine ⟨0, ?_⟩
      rw [nothing, unused, Ledger.pending_empty, Traffic.bytes_zero]
      rfl
  obtain ⟨books, -⟩ := initial.run run
  refine ⟨fun user way => ?_, books.reports, books.escalator_eq, books.speed_eq⟩
  obtain ⟨k, balance⟩ := books.balance user way
  rw [Scope.key, books.name_eq]
  dsimp only at balance ⊢
  exact eq_of_wrapped balance

/-- More traffic is counted while a report is in flight. The report fails, and all is pending then.
-/
theorem traffic_counted_once_credited :
    ∃ (start node : Node) (account : TrafficAccount),
      Node.TrafficRun 0 (start, {}) (node, account) ∧
      account.counted = [(7, ⟨5, 3⟩), (7, ⟨1, 0⟩)] ∧ account.delivered = [] ∧
      bytesDelivered 7 .upload account.delivered + node.inFlight 0 7 .upload +
        ((node.scope 0).ledger.pending ((node.scope 0).key 7)).bytes .upload = 6 := by
  let coordinator : Coordinator :=
    { scope := "a"
      config := {}
      hasReporter := true
      pullTask := { name := "roster-pull", intervalMs := 60000 }
      pushTask := { name := "traffic-push", intervalMs := 60000 } }
  let failing : Collaborators := { report := .error (.unknownScope "a") }
  let batch : List TrafficEntry := [(⟨"a", 7⟩, ⟨7, 5, 3⟩)]
  let start : Node :=
    { registry := (({} : Registry).activate "a" {}).2
      coordinators := Table.empty.insert 0 coordinator }
  let first := start.operate 0 (.reportTraffic 7 ⟨5, 3⟩)
  let pushing := first.settlePush 0
    (.calling (.reporting 0 batch), first.registry.modify 0 (·.perform .drainTraffic))
  let second := pushing.operate 0 (.reportTraffic 7 ⟨1, 0⟩)
  let last := second.settlePush 0
    (coordinator.resumePush second.registry failing ⟨0⟩ (.reporting 0 batch))
  have counts : start.Step (.operate 0 (.reportTraffic 7 ⟨5, 3⟩)) first :=
    .operate (by decide) (fun other => nomatch other)
  have begins : first.Step (.beginPush 0 ⟨0⟩) pushing := by
    have active : first.registry.active.get? coordinator.scope = some 0 := by decide
    have drained : (first.registry.scope 0).ledger.entries = batch := by decide
    have begun := coordinator.beginPush_of_active active ⟨0⟩ drained
    rw [if_neg (List.cons_ne_nil _ _), if_pos rfl] at begun
    have begins := @Node.Step.beginPush first 0 coordinator rfl rfl ⟨0⟩
    rwa [begun] at begins
  have recounts : pushing.Step (.operate 0 (.reportTraffic 7 ⟨1, 0⟩)) second :=
    .operate (by decide) (fun other => nomatch other)
  have fails : second.Step (.resumePush 0 failing ⟨0⟩) last :=
    @Node.Step.resumePush second 0 coordinator (.reporting 0 batch) rfl rfl failing ⟨0⟩
  have run : Node.TrafficRun 0 (start, {}) (last, { counted := [(7, ⟨5, 3⟩), (7, ⟨1, 0⟩)] }) := by
    refine .tail (b := (second, { counted := [(7, ⟨5, 3⟩), (7, ⟨1, 0⟩)] }))
      (.tail (b := (pushing, { counted := [(7, ⟨5, 3⟩)] }))
        (.tail (b := (first, { counted := [(7, ⟨5, 3⟩)] }))
          (.tail .refl ⟨_, rfl, counts, rfl⟩) ⟨_, rfl, begins, rfl⟩)
        ⟨_, rfl, recounts, rfl⟩) ⟨_, rfl, fails, rfl⟩
  obtain ⟨balance, -⟩ := @traffic_counted_once 0 start last _ rfl
    (fun c drained found => nomatch found) run
  refine ⟨start, last, _, run, rfl, rfl, ?_⟩
  rw [← (balance 7 .upload).2 (by decide)]
  decide

end Tollgate
