import Tollgate.Proofs.Stopping
import Tollgate.Simulation.Run

/-!
# The coordinator of a simulated node

What a call sets off begins no activity and ends none (`World.activities_makeCall`).

A simulated node whose calls set off no actions carries on its coordinator by moves of a coordinator
at work: each activity is a carrier, and what becomes of it next is a move (`World.goOn_isMove`). So
as time passes, or a stop is waited for, the node goes through a run without requests
(`World.Mirrors.advance`, `World.Mirrors.stop`), and what holds along such runs holds of the node: a
stop that has answered leaves nothing that could go on (`World.Mirrors.advance_stop`).
-/

namespace Tollgate

/-! ### Things that happen in time -/

namespace Timeline

variable {σ : Type} {timeline : Timeline σ} {motive : Nat → σ → Prop}

theorem steps_induction {now : Nat}
    (step : ∀ s t, motive now s → timeline.step? now s = some t → motive now t) (n : Nat) {s : σ}
    (start : motive now s) : motive now (timeline.steps now n s) := by
  induction n generalizing s with
  | zero => exact start
  | succ n ih =>
    unfold steps
    split
    · exact start
    next found => exact ih (step _ _ start found)

theorem stepsUntil_induction {now : Nat}
    (step : ∀ s t, motive now s → timeline.step? now s = some t → motive now t) (isGoal : σ → Bool)
    (n : Nat) {s : σ} (start : motive now s) : motive now (timeline.stepsUntil isGoal now n s) := by
  induction n generalizing s with
  | zero => exact start
  | succ n ih =>
    unfold stepsUntil
    split
    · exact start
    · split
      · exact start
      next found => exact ih (step _ _ start found)

theorem le_of_nextMoment? {now moment : Nat} {s : σ}
    (found : timeline.nextMoment? now s = some moment) : now ≤ moment := by
  obtain ⟨due, -, rfl⟩ := Option.map_eq_some_iff.1 found
  omega

section Passing

variable (step : ∀ now s t, motive now s → timeline.step? now s = some t → motive now t)
  (pass : ∀ now later s, motive now s → now ≤ later → motive later s)

include step pass

/-- What steps and the passing of time keep holds when the clock has moved to a target. -/
theorem advance_induction {target now : Nat} {s : σ} (ahead : now ≤ target) (start : motive now s) :
    motive target (timeline.advance target now s) := by
  induction now, s using Timeline.advance.induct timeline target with
  | case1 now s _ stays =>
    rw [advance_of_rest stays]
    exact pass _ _ _ (steps_induction (step now) stepsPerMoment start) ahead
  | case2 now s _ moment moves within ih =>
    have settled := steps_induction (step now) stepsPerMoment start
    rw [advance_of_le moves within]
    exact ih within (pass _ _ _ settled (le_of_nextMoment? moves))
  | case3 now s _ moment moves beyond =>
    rw [advance_of_not_le moves beyond]
    exact pass _ _ _ (steps_induction (step now) stepsPerMoment start) ahead

theorem await_induction (isGoal : σ → Bool) {now : Nat} {s : σ} (start : motive now s) :
    motive (timeline.await isGoal now s).1 (timeline.await isGoal now s).2 := by
  unfold await
  generalize patience = moments
  induction moments generalizing now s with
  | zero => exact start
  | succ moments ih =>
    have settled := stepsUntil_induction (step now) isGoal stepsPerMoment start
    unfold awaiting
    dsimp only
    split
    · exact settled
    · split
      · exact settled
      next moved => exact ih (pass _ _ _ settled (le_of_nextMoment? moved))

end Passing

end Timeline

/-! ### What calls set off -/

namespace Simulation.World

variable {world : World} {target : Target}

theorem activities_onTarget {f : Nat → Answer × World}
    (same : ∀ a, (f a).2.activities = world.activities) :
    (world.onTarget target f).2.activities = world.activities := by
  unfold onTarget
  split
  · exact same _
  · rfl

theorem activities_onStation {name : String} {f : Nat → Station → Answer × World}
    (same : ∀ id station, (f id station).2.activities = world.activities) :
    (world.onStation name f).2.activities = world.activities := by
  unfold onStation
  split
  · rfl
  · split
    · rfl
    · exact same _ _

theorem activities_getBucket (activation : Nat) (user : UInt64) :
    (world.getBucket activation user).2.activities = world.activities := by
  unfold getBucket numberBucket
  dsimp only
  split <;> rfl

theorem activities_useBucket {user : UInt64} {f : TokenBucket → Answer × TokenBucket × Nat} :
    (world.useBucket target user f).2.activities = world.activities := by
  refine activities_onTarget fun a => ?_
  dsimp only
  split <;> rfl

/-- An action begins no activity and ends none. -/
theorem activities_perform (action : Action) :
    (world.perform target action).2.activities = world.activities := by
  cases action with
  | activate config hold =>
    show (world.activate _ _ _).2.activities = _
    unfold activate
    split <;> rfl
  | acquire user ip lease =>
    refine activities_onTarget fun a => ?_
    dsimp only
    split <;> rfl
  | dropLease lease =>
    show (world.dropLease _).2.activities = _
    unfold dropLease
    split <;> rfl
  | leaseBucket lease =>
    simp only [perform]
    split
    · rfl
    · exact activities_getBucket _ _
  | leaseReport lease traffic =>
    simp only [perform]
    split <;> rfl
  | bucket user => exact activities_onTarget fun a => activities_getBucket a user
  | tryConsume user bytes => exact activities_useBucket
  | consume user bytes maxNanos => exact activities_useBucket
  | coordinate name config hasRecorder hasReporter =>
    show (world.coordinate _ _ _ _ _).2.activities = _
    unfold coordinate
    split <;> rfl
  | instruct name change => exact activities_onStation fun id station => rfl
  | delay name call millis => exact activities_onStation fun id station => rfl
  | hook name call actions => exact activities_onStation fun id station => rfl
  | look name => exact activities_onStation fun id station => rfl
  | deactivate | listScopes | advanceBuckets | advanceClock | setClock | refused => rfl
  | _ => exact activities_onTarget fun a => rfl

/-- Whatever actions a call sets off, the same activities go on. -/
theorem activities_makeCall (now station : Nat) (call : Call) :
    (world.makeCall now station call).2.activities = world.activities := by
  have all (world : World) (actions : List (Target × Action)) :
      (world.performAll actions).2.activities = world.activities := by
    induction actions generalizing world with
    | nil => rfl
    | cons first rest ih => exact (ih _).trans (activities_perform first.2)
  unfold makeCall
  split
  · rfl
  · exact all _ _

end Simulation.World

/-! ### What becomes of an activity -/

/-- The activity of a carrier. -/
def Carrier.activity (id c : Nat) (carrier : Carrier) : Simulation.Activity :=
  ⟨c, id, carrier.role, carrier.stage⟩

namespace Simulation

/-- A coordinator at work as a simulated node shows it. -/
structure World.Shows (world : World) (now id : Nat) (s : Service) : Prop where
  registry : s.registry = world.registry
  now : s.now = now
  station : ∃ station, world.stations.get? id = some station ∧ station.coordinator = s.coordinator ∧
    station.hooks = []

/-- A simulated node does with an activity what a coordinator at work does with the carrier: the
same calls are made, the same activity is left, and a result of a push is the result of the
activity. -/
structure World.Agrees (before : World) (now id c : Nat) (s : Service) (next : Option Activity)
    (after : World) (t : Service) : Prop where
  shows : after.Shows now id t
  next_eq : (t.carriers.get? c).map (Carrier.activity id c) = next
  working : next ≠ some (Carrier.activity id c ⟨.caller, .resting⟩)
  calls : ∃ calls, t.calls = s.calls ++ calls ∧
    after.log.map (·.call) = before.log.map (·.call) ++ calls
  result : (t.results.get? c = s.results.get? c ∧ ∀ summary,
      after.results.get? c = some (.pushed summary) →
        before.results.get? c = some (.pushed summary)) ∨
    next = none ∧ ∃ result, t.results.get? c = some result ∧
      after.results.get? c = some (.ofExcept .pushed result)
  others : ∀ c', c ≠ c' → after.results.get? c' = before.results.get? c'
  activities : after.activities = before.activities
  nextActivity : after.nextActivity = before.nextActivity
  nextCarrier : t.nextCarrier = s.nextCarrier

namespace World

variable {world : World} {now id a : Nat} {s : Service} {activity : Activity}

theorem setCoordinator_eq {station : Station} (found : world.stations.get? id = some station)
    (coordinator : Coordinator) :
    world.setCoordinator id coordinator = world.setStation id { station with coordinator } := by
  rw [setCoordinator, found]

theorem Shows.setCoordinator (shows : world.Shows now id s) (coordinator : Coordinator) :
    (world.setCoordinator id coordinator).Shows now id { s with coordinator } := by
  obtain ⟨station, found, -, quiet⟩ := shows.station
  rw [setCoordinator_eq found]
  exact ⟨shows.registry, shows.now, _, Table.get?_insert_self _ _ _, rfl, quiet⟩

theorem setCoordinator_frame (coordinator : Coordinator) :
    ∃ stations, world.setCoordinator id coordinator = { world with stations } := by
  unfold setCoordinator
  split
  · exact ⟨_, rfl⟩
  · exact ⟨_, rfl⟩

/-- Nothing is called, and there is no result. -/
theorem Agrees.of_silence {c : Nat} {next : Option Activity} {after : World} {t : Service}
    (shows : after.Shows now id t)
    (next_eq : (t.carriers.get? c).map (Carrier.activity id c) = next)
    (working : next ≠ some (Carrier.activity id c ⟨.caller, .resting⟩))
    (calls : t.calls = s.calls) (results : t.results = s.results)
    (nextCarrier : t.nextCarrier = s.nextCarrier)
    (frame : ∃ stations, after = { world with stations }) :
    world.Agrees now id c s next after t := by
  obtain ⟨stations, rfl⟩ := frame
  refine ⟨shows, next_eq, working, ?_, Or.inl ⟨by rw [results], fun _ known => known⟩,
    fun _ _ => rfl, rfl, rfl, nextCarrier⟩
  exact ⟨[], by rw [calls, List.append_nil], (List.append_nil _).symm⟩

/-- Before, nothing but the registry, the coordinators and the account changes. -/
theorem Agrees.of_before {c : Nat} {next : Option Activity} {between after : World} {u t : Service}
    (h : between.Agrees now id c u next after t)
    (frame : ∃ registry stations, between = { world with registry, stations })
    (calls : u.calls = s.calls) (results : u.results = s.results)
    (nextCarrier : u.nextCarrier = s.nextCarrier) : world.Agrees now id c s next after t := by
  obtain ⟨registry, stations, rfl⟩ := frame
  exact ⟨h.shows, h.next_eq, h.working, calls ▸ h.calls, results ▸ h.result, h.others, h.activities,
    h.nextActivity, h.nextCarrier.trans nextCarrier⟩

/-- A call that sets off nothing is logged. -/
theorem makeCall_eq {station : Station} (found : world.stations.get? id = some station)
    (quiet : station.hooks = []) (now : Nat) (call : Call) :
    ∃ returnsAt entry, entry.call = call ∧
      world.makeCall now id call = (returnsAt, { world with log := world.log ++ [entry] }) := by
  obtain ⟨name, coordinator, script, hooks⟩ := station
  obtain rfl : hooks = [] := quiet
  have same : world.setStation id { name, coordinator, script, hooks := [] } = world := by
    rw [setStation, Table.insert_of_get? found]
  rw [makeCall, found]
  simp only [List.lookup_nil, List.filter_nil, Option.getD_none, performAll, same]
  exact ⟨_, _, rfl, rfl⟩

theorem makeCall_agrees (shows : world.Shows now activity.station s) (call : Call)
    {stage : Nat → Stage} (working : ∀ returnsAt, stage returnsAt ≠ .resting) :
    ∃ returnsAt entry,
      world.makeCall now activity.station call =
        (returnsAt, { world with log := world.log ++ [entry] }) ∧
      world.Agrees now activity.station activity.id s
        (some { activity with stage := stage returnsAt }) { world with log := world.log ++ [entry] }
        (s.makeCall activity.id activity.role call (stage returnsAt)) := by
  obtain ⟨station, found, coordinator, quiet⟩ := shows.station
  obtain ⟨returnsAt, entry, rfl, called⟩ := makeCall_eq found quiet now call
  refine ⟨returnsAt, entry, called, ?_, ?_, ?_, ?_, Or.inl ⟨rfl, fun _ known => known⟩,
    fun _ _ => rfl, rfl, rfl, rfl⟩
  · exact ⟨shows.registry, shows.now, station, found, coordinator, quiet⟩
  · exact congrArg (Option.map _) (Table.get?_insert_self _ _ _)
  · intro same
    exact working returnsAt (congrArg Activity.stage (Option.some.inj same))
  · exact ⟨[entry.call], rfl, List.map_append⟩

/-- A cycle ends. -/
theorem finish_agrees (shows : world.Shows now activity.station s) (kind : CycleKind)
    (answer : Answer) {results : Table Nat (Except Error PushSummary)}
    (known : (results.get? activity.id = s.results.get? activity.id ∧
        (activity.role = .caller → ∀ summary, answer ≠ .pushed summary)) ∨
      activity.role = .caller ∧ ∃ result, results.get? activity.id = some result ∧
        answer = .ofExcept .pushed result) :
    world.Agrees now activity.station activity.id s (world.finish activity kind answer).1
      (world.finish activity kind answer).2
      { s.finish activity.id activity.role kind with results } := by
  obtain ⟨station, found, coordinator, quiet⟩ := shows.station
  obtain ⟨name, _, script, hooks⟩ := station
  obtain rfl : _ = s.coordinator := coordinator
  obtain ⟨c, id, role, stage⟩ := activity
  have at_ : world.stationOf? ⟨c, id, role, stage⟩ = some _ := found
  cases role with
  | caller =>
    simp only [finish, at_, setCoordinator_eq found]
    refine ⟨⟨shows.registry, shows.now, _, Table.get?_insert_self _ _ _, rfl, quiet⟩, ?_, ?_, ?_,
      ?_, ?_, rfl, rfl, rfl⟩
    · exact congrArg (Option.map _) (Table.get?_erase_self _ _)
    · rintro ⟨⟩
    · exact ⟨[], (List.append_nil _).symm, (List.append_nil _).symm⟩
    · rcases known with ⟨before, silent⟩ | ⟨-, result, given, rfl⟩
      · refine Or.inl ⟨before, fun summary pushed => ?_⟩
        have answered := (Table.get?_insert_self _ _ _).symm.trans pushed
        exact absurd (Option.some.inj answered) (silent rfl summary)
      · exact Or.inr ⟨rfl, result, given, Table.get?_insert_self _ _ _⟩
    · exact fun c' other => Table.get?_insert_of_ne _ other _
  | loop own loop =>
    simp only [finish, at_, setCoordinator_eq found]
    refine ⟨⟨shows.registry, shows.now, _, Table.get?_insert_self _ _ _, rfl, quiet⟩, ?_, ?_, ?_,
      ?_, fun _ _ => rfl, rfl, rfl, rfl⟩
    · exact congrArg (Option.map _) (Table.get?_insert_self _ _ _)
    · rintro ⟨⟩
    · exact ⟨[], (List.append_nil _).symm, (List.append_nil _).symm⟩
    · rcases known with ⟨before, -⟩ | ⟨isCaller, -⟩
      · exact Or.inl ⟨before, fun _ known => known⟩
      · cases isCaller

/-- An activity goes on with a pull. -/
theorem continuePull_agrees (shows : world.Shows now activity.station s)
    (progress : Progress PullCycle Unit) :
    ∃ returnsAt, world.Agrees now activity.station activity.id s
      (world.continuePull now activity progress).1 (world.continuePull now activity progress).2
      (s.settlePull activity.id activity.role returnsAt progress) := by
  cases progress with
  | calling cycle =>
    obtain ⟨returnsAt, entry, called, agrees⟩ :=
      @makeCall_agrees _ _ _ activity shows cycle.call (.pulling cycle) fun _ => nofun
    refine ⟨returnsAt, ?_⟩
    simp only [continuePull, called]
    exact agrees
  | finished result =>
    have ended := @finish_agrees _ _ _ activity shows .pull (.ofExcept (fun _ => .nothing) result)
      s.results (Or.inl ⟨rfl, fun _ => by cases result <;> exact fun _ => nofun⟩)
    refine ⟨0, ?_⟩
    cases own : activity.role <;> (rw [own] at ended; exact ended)

/-- An activity goes on with a push. -/
theorem continuePush_agrees (shows : world.Shows now activity.station s)
    (progress : Progress PushCycle PushSummary) :
    ∃ returnsAt, world.Agrees now activity.station activity.id s
      (world.continuePush now activity progress).1 (world.continuePush now activity progress).2
      (s.settlePush activity.id activity.role returnsAt progress) := by
  cases progress with
  | calling cycle =>
    obtain ⟨returnsAt, entry, called, agrees⟩ :=
      @makeCall_agrees _ _ _ activity shows cycle.call (.pushing cycle) fun _ => nofun
    refine ⟨returnsAt, ?_⟩
    simp only [continuePush, called]
    exact agrees
  | finished result =>
    refine ⟨0, finish_agrees shows .push (.ofExcept .pushed result) ?_⟩
    by_cases isCaller : activity.role = .caller
    · rw [if_pos isCaller]
      exact Or.inr ⟨isCaller, result, Table.get?_insert_self _ _ _, rfl⟩
    · exact Or.inl ⟨by rw [if_neg isCaller], fun same => absurd same isCaller⟩

/-- A loop between runs wakes up, or goes to sleep. -/
theorem goOnResting_isMove {kind : CycleKind} {loop : Nat} {state : TaskLoop}
    (shows : world.Shows now activity.station s)
    (found : s.carriers.get? activity.id = some ⟨.loop kind loop, .resting⟩)
    (same : activity = Carrier.activity activity.station activity.id ⟨.loop kind loop, .resting⟩)
    (there : (s.coordinator.task kind).loops.get? loop = some state)
    (ready : state.phase = .rearming ∨ ((s.coordinator.task kind).wakeup? state now).isSome = true)
    (a : Nat) :
    ∃ t, Service.Move a activity.id s t ∧
      world.Agrees now activity.station activity.id s
        (world.goOnResting now activity s.coordinator kind loop).1
        (world.goOnResting now activity s.coordinator kind loop).2 t := by
  obtain rfl := shows.now
  have stays : (some ⟨.loop kind loop, .resting⟩ : Option Carrier).map
      (Carrier.activity activity.station activity.id) = some activity := congrArg some same.symm
  have working : some activity ≠
      some (Carrier.activity activity.station activity.id ⟨.caller, .resting⟩) := by
    rw [same]
    exact nofun
  simp only [goOnResting, there]
  cases wakes : (s.coordinator.task kind).wakeup? state s.now with
  | none =>
    rw [wakes] at ready
    refine ⟨_, .sleep found there (ready.resolve_right nofun) wakes, ?_⟩
    refine .of_silence ?_ ((congrArg (Option.map _) found).trans stays) working rfl rfl rfl
      (setCoordinator_frame _)
    exact shows.setCoordinator _
  | some wakeup =>
    have placed := shows.setCoordinator
      (s.coordinator.setTask ((s.coordinator.task kind).wake loop wakeup) kind)
    have frame := @setCoordinator_frame world activity.station
      (s.coordinator.setTask ((s.coordinator.task kind).wake loop wakeup) kind)
    refine ⟨_, .wake found there (List.find?_some wakes), ?_⟩
    unfold Service.wake
    dsimp only
    split
    · refine .of_silence ?_ ?_ ?_ rfl rfl rfl frame
      · exact ⟨placed.registry, placed.now, placed.station⟩
      · refine (congrArg (Option.map _) (Table.get?_insert_self _ _ _)).trans ?_
        rw [same]
        rfl
      · exact fun resting => nomatch congrArg Activity.stage (Option.some.inj resting)
    · split
      · exact .of_silence placed ((congrArg (Option.map _) found).trans stays) working rfl rfl rfl
          frame
      · refine .of_silence ?_ (congrArg (Option.map _) (Table.get?_erase_self _ _)) nofun rfl rfl
          rfl frame
        exact ⟨placed.registry, placed.now, placed.station⟩

/-- An activity goes on with a pull after the registry and the coordinator have changed. -/
theorem settlePull_agrees (shows : world.Shows now activity.station s) (registry : Registry)
    (coordinator : Coordinator) (progress : Progress PullCycle Unit) :
    ∃ returnsAt, world.Agrees now activity.station activity.id s
      (({ world with registry }.setCoordinator activity.station coordinator).continuePull now
        activity progress).1
      (({ world with registry }.setCoordinator activity.station coordinator).continuePull now
        activity progress).2
      ({ s with registry, coordinator }.settlePull activity.id activity.role returnsAt
        progress) := by
  have replaced : { world with registry }.Shows now activity.station { s with registry } :=
    ⟨rfl, shows.now, shows.station⟩
  obtain ⟨returnsAt, agrees⟩ := continuePull_agrees (replaced.setCoordinator coordinator) progress
  obtain ⟨stations, frame⟩ :=
    @setCoordinator_frame { world with registry } activity.station coordinator
  exact ⟨returnsAt, agrees.of_before ⟨registry, stations, frame⟩ rfl rfl rfl⟩

/-- An activity goes on with a push after the registry has changed. -/
theorem settlePush_agrees (shows : world.Shows now activity.station s) (registry : Registry)
    (account : TrafficAccount) (progress : Progress PushCycle PushSummary) :
    ∃ returnsAt, world.Agrees now activity.station activity.id s
      ({ world with registry }.continuePush now activity progress).1
      ({ world with registry }.continuePush now activity progress).2
      ({ s with registry, account }.settlePush activity.id activity.role returnsAt progress) := by
  have replaced : { world with registry }.Shows now activity.station { s with registry, account } :=
    ⟨rfl, shows.now, shows.station⟩
  obtain ⟨returnsAt, agrees⟩ := continuePush_agrees replaced progress
  exact ⟨returnsAt, agrees.of_before ⟨registry, world.stations, rfl⟩ rfl rfl rfl⟩

/-- What an activity does next is a move of its carrier. -/
theorem goOn_isMove (shows : world.Shows now activity.station s) (manned : s.Manned)
    (found : s.carriers.get? activity.id = some ⟨activity.role, activity.stage⟩)
    (working : s.carriers.get? activity.id ≠ some ⟨.caller, .resting⟩)
    (ready : world.isReady now activity = true) (a : Nat) :
    ∃ t, Service.Move a activity.id s t ∧
      world.Agrees now activity.station activity.id s (world.goOn now activity).1
        (world.goOn now activity).2 t := by
  obtain ⟨station, there, coordinator, -⟩ := shows.station
  obtain ⟨c, id, role, stage⟩ := activity
  have at_ : world.stationOf? ⟨c, id, role, stage⟩ = some station := there
  simp only [isReady, at_, coordinator] at ready
  simp only [goOn, at_, coordinator]
  cases stage with
  | resting =>
    cases role with
    | caller => exact absurd found working
    | loop kind loop =>
      obtain ⟨state, alive⟩ := (PeriodicTask.isAlive_iff loop).1
        (manned.alive c kind loop (Service.role?_of_get? found))
      simp only [alive, Bool.or_eq_true, decide_eq_true_eq] at ready
      exact goOnResting_isMove shows found rfl alive ready a
  | entering kind =>
    have placed :=
      shows.setCoordinator (s.coordinator.setLane ((s.coordinator.lane kind).enter c) kind)
    refine ⟨_, .enter found, ?_⟩
    refine .of_silence ?_ ?_ nofun rfl rfl rfl (setCoordinator_frame _)
    · exact ⟨placed.registry, placed.now, placed.station⟩
    · exact congrArg (Option.map _) (Table.get?_insert_self _ _ _)
  | queued kind =>
    cases kind with
    | pull =>
      obtain ⟨returnsAt, agrees⟩ := @settlePull_agrees _ _ _ ⟨c, id, role, .queued .pull⟩ shows
        s.registry (s.coordinator.beginPull s.registry).2 (s.coordinator.beginPull s.registry).1
      have same : { world with registry := s.registry } = world := by rw [shows.registry]
      rw [same] at agrees
      refine ⟨_, .beginPull found ready returnsAt, ?_⟩
      simp only [beginCycle, ← shows.registry]
      exact agrees
    | push =>
      obtain ⟨returnsAt, agrees⟩ := @settlePush_agrees _ _ _ ⟨c, id, role, .queued .push⟩ shows
        (s.coordinator.beginPush s.registry world.now).2
        (s.account.deliver (s.coordinator.deliversAtOnce s.registry a world.now))
        (s.coordinator.beginPush s.registry world.now).1
      refine ⟨_, .beginPush found ready world.now returnsAt, ?_⟩
      simp only [beginCycle, ← shows.registry]
      exact agrees
  | pulling cycle due =>
    have returned : due ≤ s.now := by
      rw [shows.now]
      exact of_decide_eq_true ready
    let peers := station.script.collaborators
    obtain ⟨returnsAt, agrees⟩ := @settlePull_agrees _ _ _ ⟨c, id, role, .pulling cycle due⟩ shows
      (s.coordinator.resumePull s.registry peers cycle).2.2
      (s.coordinator.resumePull s.registry peers cycle).2.1
      (s.coordinator.resumePull s.registry peers cycle).1
    refine ⟨_, .resumePull found returned peers returnsAt, ?_⟩
    simp only [← shows.registry]
    exact agrees
  | pushing cycle due =>
    have returned : due ≤ s.now := by
      rw [shows.now]
      exact of_decide_eq_true ready
    let peers := station.script.collaborators
    obtain ⟨returnsAt, agrees⟩ := @settlePush_agrees _ _ _ ⟨c, id, role, .pushing cycle due⟩ shows
      (s.coordinator.resumePush s.registry peers world.now cycle).2
      (s.account.deliver (cycle.delivers a peers world.now))
      (s.coordinator.resumePush s.registry peers world.now cycle).1
    refine ⟨_, .resumePush found returned peers world.now returnsAt, ?_⟩
    simp only [← shows.registry]
    exact agrees
  | stopping cycle =>
    have placed := shows.setCoordinator (s.coordinator.resumeStop cycle).2
    refine ⟨_, .resumeStop found ready, ?_⟩
    refine .of_silence ?_ ?_ ?_ rfl rfl rfl (setCoordinator_frame _)
    · exact ⟨placed.registry, placed.now, placed.station⟩
    · exact congrArg (Option.map _) (Table.get?_insert_self _ _ _)
    · cases cycle <;> nofun

/-! ### What becomes of a node -/

/-- A coordinator at work, as a simulated node carries it on that carries on nothing else. -/
structure Mirrors (world : World) (now id : Nat) (s : Service) : Prop where
  shows : world.Shows now id s
  activities : ∀ activity, activity ∈ world.activities ↔
    (s.carriers.get? activity.id).map (Carrier.activity id activity.id) = some activity
  working : ∀ c, s.carriers.get? c ≠ some ⟨.caller, .resting⟩
  calls : ∃ earlier, s.calls = earlier ++ world.log.map (·.call)
  results : ∀ c result, s.results.get? c = some result →
    s.carriers.get? c = none ∧ world.results.get? c = some (.ofExcept .pushed result)
  answers : ∀ c summary, world.results.get? c = some (.pushed summary) →
    s.results.get? c = some (.ok summary)
  next : s.nextCarrier = world.nextActivity

/-- A node without one of its activities. -/
def without (world : World) (c : Nat) : World :=
  { world with activities := world.activities.filter (·.id ≠ c) }

/-- A step of a node: an activity goes on, and is put back if anything is left of it. -/
theorem step?_eq_some {after : World} (step : world.step? now = some after) :
    ∃ activity ∈ world.activities, world.isReady now activity = true ∧
      ∃ next between activities, (world.without activity.id).goOn now activity = (next, between) ∧
        after = { between with activities } ∧
        ∀ x, x ∈ activities ↔ next = some x ∨ x ∈ between.activities := by
  obtain ⟨activity, chosen, stepped⟩ := Option.map_eq_some_iff.1 step
  refine ⟨activity, List.mem_of_find?_eq_some chosen, List.find?_some chosen, ?_⟩
  obtain ⟨⟨next, between⟩, went⟩ : ∃ outcome, (world.without activity.id).goOn now activity = outcome :=
    ⟨_, rfl⟩
  rw [without] at went
  dsimp only at stepped
  rw [went] at stepped
  cases next with
  | none => exact ⟨none, between, between.activities, went, stepped.symm, fun x => by simp⟩
  | some next =>
    refine ⟨some next, between, _, went, stepped.symm, fun x => ?_⟩
    split
    · simp [eq_comm]
    · simp [eq_comm, or_comm]

namespace Mirrors

/-- A step of the node is a move of a carrier. -/
theorem step (h : world.Mirrors now id s) (manned : s.Manned) {after : World}
    (step : world.step? now = some after) (a : Nat) :
    ∃ c t, Service.Move a c s t ∧ after.Mirrors now id t := by
  obtain ⟨activity, member, ready, next, between, activities, went, rfl, members⟩ :=
    step?_eq_some step
  obtain ⟨carrier, found, same⟩ := Option.map_eq_some_iff.1 ((h.activities activity).1 member)
  obtain ⟨c, _, _, _⟩ := activity
  obtain ⟨role, stage⟩ := carrier
  cases same
  have shows : (world.without c).Shows now id s := ⟨h.shows.registry, h.shows.now, h.shows.station⟩
  obtain ⟨t, move, agrees⟩ := @goOn_isMove _ _ _ ⟨c, id, role, stage⟩ shows manned found
    (h.working c) ready a
  rw [went] at agrees
  have apart := move.apart
  refine ⟨c, t, move, ?_, ?_, ?_, ?_, ?_, ?_, ?_⟩
  · exact ⟨agrees.shows.registry, agrees.shows.now, agrees.shows.station⟩
  · intro x
    have others : x ∈ between.activities ↔ x ∈ world.activities ∧ x.id ≠ c := by
      rw [agrees.activities]
      simp [without]
    rw [members, others, h.activities]
    by_cases own : x.id = c
    · subst own
      have left : (t.carriers.get? x.id).map (Carrier.activity id x.id) = next := agrees.next_eq
      rw [← left]
      simp
    · have moved : next ≠ some x := by
        intro left
        obtain ⟨_, -, made⟩ := Option.map_eq_some_iff.1 (agrees.next_eq.trans left)
        exact own (congrArg Activity.id made.symm)
      simp [moved, own, apart.get?_eq (Ne.symm own)]
  · intro c' resting
    by_cases own : c = c'
    · subst own
      refine agrees.working (agrees.next_eq.symm.trans ?_)
      rw [resting]
      rfl
    · exact h.working c' ((apart.get?_eq own).symm.trans resting)
  · obtain ⟨earlier, calls⟩ := h.calls
    obtain ⟨more, called, logged⟩ := agrees.calls
    refine ⟨earlier, ?_⟩
    show t.calls = earlier ++ between.log.map _
    rw [called, calls, logged, List.append_assoc]
    rfl
  · intro c' result given
    show t.carriers.get? c' = none ∧ between.results.get? c' = _
    by_cases own : c = c'
    · subst own
      rcases agrees.result with ⟨before, -⟩ | ⟨gone, result', given', answered⟩
      · exact nomatch (h.results c result (before.symm.trans given)).1.symm.trans found
      · obtain rfl := Option.some.inj (given'.symm.trans given)
        exact ⟨Option.map_eq_none_iff.1 (agrees.next_eq.trans gone), answered⟩
    · obtain ⟨gone, answered⟩ := h.results c' result ((apart.results c' own).symm.trans given)
      exact ⟨(apart.get?_eq own).trans gone, (agrees.others c' own).trans answered⟩
  · intro c' summary answered
    replace answered : between.results.get? c' = some (.pushed summary) := answered
    by_cases own : c = c'
    · subst own
      rcases agrees.result with ⟨before, later⟩ | ⟨-, result, given, answered'⟩
      · exact before.trans (h.answers c summary (later summary answered))
      · have pushed := Option.some.inj (answered'.symm.trans answered)
        cases result with
        | error e => cases pushed
        | ok summary' =>
          obtain rfl := Answer.pushed.inj pushed
          exact given
    · exact (apart.results c' own).trans
        (h.answers c' summary ((agrees.others c' own).symm.trans answered))
  · exact agrees.nextCarrier.trans (h.next.trans agrees.nextActivity.symm)

/-- Time passes. -/
theorem pass (h : world.Mirrors now id s) (later : Nat) :
    world.Mirrors later id { s with now := later } where
  shows := ⟨h.shows.registry, rfl, h.shows.station⟩
  activities := h.activities
  working := h.working
  calls := h.calls
  results := h.results
  answers := h.answers
  next := h.next

/-- The node has gone through a run without requests. -/
def Reaches (a id : Nat) (s : Service) (now : Nat) (world : World) : Prop :=
  ∃ t, Service.Quiet a s t ∧ t.Manned ∧ world.Mirrors now id t

theorem Reaches.step {world after : World} (h : Reaches a id s now world)
    (step : World.timeline.step? now world = some after) : Reaches a id s now after := by
  obtain ⟨t, quiet, manned, mirrors⟩ := h
  obtain ⟨c, u, move, mirrors⟩ := mirrors.step manned step a
  exact ⟨u, .tail quiet (.move move), manned.move move, mirrors⟩

theorem Reaches.pass {later : Nat} (h : Reaches a id s now world) (ahead : now ≤ later) :
    Reaches a id s later world := by
  obtain ⟨t, quiet, manned, mirrors⟩ := h
  have passes : Service.Step a t { t with now := later } := .pass (mirrors.shows.now ▸ ahead)
  exact ⟨_, .tail quiet passes, manned.step passes, mirrors.pass later⟩

/-- As time passes, the node goes through a run without requests. -/
theorem advance (h : world.Mirrors now id s) (manned : s.Manned) {target : Nat}
    (ahead : now ≤ target) (a : Nat) :
    Reaches a id s target (World.timeline.advance target now world) :=
  Timeline.advance_induction (motive := Reaches a id s) (fun _ _ _ => .step) (fun _ _ _ => .pass)
    ahead ⟨s, .refl, manned, h⟩

/-- As something is waited for, the node goes through a run without requests. -/
theorem await (h : world.Mirrors now id s) (manned : s.Manned) (isGoal : World → Bool) (a : Nat) :
    Reaches a id s (World.timeline.await isGoal now world).1
      (World.timeline.await isGoal now world).2 :=
  Timeline.await_induction (motive := Reaches a id s) (fun _ _ _ => .step) (fun _ _ _ => .pass)
    isGoal ⟨s, .refl, manned, h⟩

theorem setCoordinator (h : world.Mirrors now id s) (coordinator : Coordinator) :
    (world.setCoordinator id coordinator).Mirrors now id { s with coordinator } := by
  have shows := h.shows.setCoordinator coordinator
  obtain ⟨stations, frame⟩ := @setCoordinator_frame world id coordinator
  rw [frame] at shows ⊢
  exact ⟨shows, h.activities, h.working, h.calls, h.results, h.answers, h.next⟩

/-- A node builds its first coordinator. -/
theorem coordinate {name scope : String} {config : CoordinatorConfig}
    {hasRecorder hasReporter : Bool} {coordinator : Coordinator}
    (created : Coordinator.create scope config hasRecorder hasReporter = .ok coordinator)
    (idle : world.activities = []) (unanswered : world.results = .empty) (now : Nat) :
    (world.coordinate name scope config hasRecorder hasReporter).2.Mirrors now world.nextStation
      { registry := world.registry, coordinator, now, nextCarrier := world.nextActivity,
        calls := world.log.map (·.call) } := by
  rw [World.coordinate, created]
  refine ⟨⟨rfl, rfl, _, Table.get?_insert_self _ _ _, rfl, rfl⟩, ?_, nofun, ⟨[], rfl⟩, nofun, ?_,
    rfl⟩
  · intro activity
    show activity ∈ world.activities ↔ _
    rw [idle]
    exact ⟨nofun, nofun⟩
  · intro c summary answered
    replace answered : world.results.get? c = _ := answered
    rw [unanswered] at answered
    cases answered

/-- An activity more. -/
theorem begin (h : world.Mirrors now id s) (fresh : s.IsFresh) (role : Role) (stage : Stage)
    (working : Carrier.mk role stage ≠ ⟨.caller, .resting⟩) :
    (world.begin id role stage).Mirrors now id (s.begin role stage) := by
  obtain ⟨free, unanswered⟩ := fresh s.nextCarrier (Nat.le_refl _)
  have after (c : Nat) : (s.begin role stage).carriers.get? c =
      if s.nextCarrier = c then some ⟨role, stage⟩ else s.carriers.get? c :=
    Table.get?_insert _ _ _ _
  refine ⟨⟨h.shows.registry, h.shows.now, h.shows.station⟩, ?_, ?_, h.calls, ?_, h.answers, ?_⟩
  · intro x
    show x ∈ world.activities ++ [⟨world.nextActivity, id, role, stage⟩] ↔ _
    rw [List.mem_append, List.mem_singleton, h.activities, after, ← h.next]
    split
    next own =>
      rw [← own, free]
      simp [Carrier.activity, eq_comm]
    next other =>
      have apart : x ≠ ⟨s.nextCarrier, id, role, stage⟩ := by
        rintro rfl
        exact other rfl
      simp [apart]
  · intro c
    rw [after]
    split
    · exact fun same => working (Option.some.inj same)
    · exact h.working c
  · intro c result given
    obtain ⟨gone, answered⟩ := h.results c result given
    refine ⟨?_, answered⟩
    rw [after, if_neg]
    · exact gone
    · rintro rfl
      exact nomatch unanswered.symm.trans given
  · exact congrArg (· + 1) h.next

/-- Loops begin one after the other. -/
theorem beginLoops (h : world.Mirrors now id s) (fresh : s.IsFresh)
    (loops : List (CycleKind × Nat)) :
    (loops.foldl (fun world (kind, loop) => world.begin id (.loop kind loop) .resting)
      world).Mirrors now id
      (loops.foldl (fun s entry => s.begin (.loop entry.1 entry.2) .resting) s) := by
  induction loops generalizing world s with
  | nil => exact h
  | cons entry loops ih => exact ih (h.begin fresh _ _ nofun) fresh.begin

/-- Loops that are started are carried from then on. -/
theorem start (h : world.Mirrors now id s) (manned : s.Manned) {name : String}
    (known : world.stationNames.get? name = some id) :
    (world.start name).2.Mirrors now id (s.ask .start) := by
  obtain ⟨station, found, coordinator, quiet⟩ := h.shows.station
  have placed := h.setCoordinator s.coordinator.start.2.2
  rw [setCoordinator_eq found] at placed
  simp only [World.start, onStation, known, found, coordinator]
  exact placed.beginLoops manned.isFresh _

/-- A stop that somebody waits for is a run without requests once it has been asked for; what it
answers is what is then known as its result. -/
theorem stop {run : Run} {name : String} (h : run.world.Mirrors run.now id s) (manned : s.Manned)
    (known : run.world.stationNames.get? name = some id) (a : Nat) :
    Reaches a id (s.ask .stop) (run.stop name).2.now (run.stop name).2.world ∧
      (run.stop name).1 =
        [((run.stop name).2.world.results.get? s.nextCarrier).getD .nothing] := by
  obtain ⟨⟨_, _, script, hooks⟩, found, coordinator, quiet⟩ := h.shows.station
  obtain rfl : _ = s.coordinator := coordinator
  have asked := (h.setCoordinator s.coordinator.beginStop.2).begin manned.isFresh
    .caller (.stopping s.coordinator.beginStop.1) nofun
  have reached := fun isGoal => asked.await (manned.ask .stop) isGoal a
  simp only [Run.stop, known, found, Run.call, Run.awaitResults]
  have caller :
      (run.world.setCoordinator id s.coordinator.beginStop.2).nextActivity = s.nextCarrier :=
    (h.setCoordinator _).next.symm
  exact ⟨reached _, congrArg (fun c => [((World.results _).get? c).getD Answer.nothing]) caller⟩

/-- A node that carries nothing on stays as it is. -/
theorem advance_eq_self (h : world.Mirrors now id s) (nobody : ∀ c, s.carriers.get? c = none)
    {target : Nat} (ahead : now ≤ target) : World.timeline.advance target now world = world := by
  have idle : world.activities = [] :=
    List.eq_nil_iff_forall_not_mem.2 fun activity member => by
      have carried := (h.activities activity).1 member
      rw [nobody] at carried
      cases carried
  refine Timeline.advance_induction (motive := fun _ after => after = world) ?_ ?_ ahead rfl
  · rintro _ _ after rfl step
    obtain ⟨activity, member, -⟩ := step?_eq_some step
    rw [idle] at member
    cases member
  · exact fun _ _ _ same _ => same

/-- A coordinator is stopped while nobody else is waiting for it. Once the stop has answered with
what its last push did, the node stays as it is, however much time passes. -/
theorem advance_stop {run : Run} {name : String} {a : Nat} {start : Registry}
    {summary : PushSummary} (h : run.world.Mirrors run.now id s) (manned : s.Manned)
    (booked : s.Booked a start) (alone : ∀ c, s.role? c ≠ some .caller)
    (known : run.world.stationNames.get? name = some id)
    (answered : (run.stop name).1 = [.pushed summary]) {target : Nat}
    (ahead : (run.stop name).2.now ≤ target) :
    World.timeline.advance target (run.stop name).2.now (run.stop name).2.world =
      (run.stop name).2.world := by
  obtain ⟨⟨t, quiet, -, mirrors⟩, result⟩ := h.stop manned known a
  have given : t.results.get? s.nextCarrier = some (.ok summary) := by
    refine mirrors.answers _ _ ?_
    rw [answered] at result
    have pushed := (List.cons.inj result).1
    cases there : (run.stop name).2.world.results.get? s.nextCarrier with
    | none =>
      rw [there] at pushed
      cases pushed
    | some answer =>
      rw [there] at pushed
      exact congrArg some pushed.symm
  have stopped := ((Service.Stops.begin manned booked alone).quiet quiet).stopping
  exact mirrors.advance_eq_self (stopped.of_answered given).1 ahead

example :
    let node := ((({} : World).activate "a" {} none).2.coordinate "a" "a" {} false true).2
    (Run.stop { world := (node.start "a").2 } "a").1 = [.pushed {}] := by
  cbv

end Mirrors

end World

end Simulation

end Tollgate
