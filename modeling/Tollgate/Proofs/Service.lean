import Mathlib.Logic.Relation
import Tollgate.Proofs.TaskLoops
import Tollgate.Proofs.TrafficConservation
import Tollgate.Simulation.World

/-!
# A coordinator at work

A coordinator with everybody who carries something on for it: the loops of its two tasks, and the
callers who asked for a cycle or a stop. One step is one thing that happens without anything in
between, so a run is any interleaving of the carriers with each other, with the data path and the
roster, and with requests. Calls return at any moment after they were made and with any answer, and
a loop that may wake up for several reasons does so for any of them.

The scope of the coordinator stays active, and what pushes do to its traffic is left to pushes.
-/

namespace Tollgate

/-- Whether a stop is waited for. -/
def Simulation.Stage.isStopping : Simulation.Stage → Bool
  | .stopping _ => true
  | _ => false

/-- Somebody who carries on the runs of a task, a cycle or a stop. -/
structure Carrier where
  role : Simulation.Role
  stage : Simulation.Stage
deriving DecidableEq

/-- What can be asked of a coordinator. -/
inductive ServiceRequest where
  | start
  | stop
  | pull
  | push

/-- Whether the operation is left to pushes, or ends the scope. -/
def Operation.isReserved : Operation → Bool
  | .drainTraffic | .creditTraffic _ | .escalate .. | .teardown => true
  | _ => false

/-- The traffic that an operation counts. -/
def Operation.counted : Operation → List (UInt64 × Traffic)
  | .reportTraffic user traffic => [(user, traffic)]
  | _ => []

/-- A coordinator at work, with the results of those who waited for a push or a stop, the calls made
so far, and the account of its scope. -/
structure Service where
  registry : Registry
  coordinator : Coordinator
  now : Nat := 0
  carriers : Table Nat Carrier := .empty
  nextCarrier : Nat := 0
  results : Table Nat (Except Error PushSummary) := .empty
  calls : List Call := []
  account : TrafficAccount := {}

namespace Service

section Definitions

variable (s : Service) (c : Nat) (role : Simulation.Role)

/-- The role of a carrier. -/
def role? : Option Simulation.Role := (s.carriers.get? c).map (·.role)

/-- Puts the task of a cycle in place. -/
def setTask (task : PeriodicTask) (kind : CycleKind) : Service :=
  { s with coordinator := s.coordinator.setTask task kind }

/-- Takes note of how far a carrier has come. -/
def put (stage : Simulation.Stage) : Service :=
  { s with carriers := s.carriers.insert c ⟨role, stage⟩ }

/-- A carrier more. -/
def begin (stage : Simulation.Stage) : Service :=
  { s.put s.nextCarrier role stage with nextCarrier := s.nextCarrier + 1 }

/-- Somebody makes a request. -/
def ask : ServiceRequest → Service
  | .start =>
    let (_, loops, coordinator) := s.coordinator.start
    loops.foldl (fun s entry => s.begin (.loop entry.1 entry.2) .resting) { s with coordinator }
  | .stop =>
    let (cycle, coordinator) := s.coordinator.beginStop
    { s with coordinator }.begin .caller (.stopping cycle)
  | .pull => s.begin .caller (.entering .pull)
  | .push => s.begin .caller (.entering .push)

/-- A carrier makes a call. -/
def makeCall (call : Call) (stage : Simulation.Stage) : Service :=
  { s.put c role stage with calls := s.calls ++ [call] }

/-- Ends a cycle: the lane is handed on, and a task counts the run. A caller is done. -/
def finish (kind : CycleKind) : Service :=
  let coordinator := s.coordinator.setLane (s.coordinator.lane kind).leave kind
  match role with
  | .caller => { s with coordinator, carriers := s.carriers.erase c }
  | .loop own loop =>
    { s with coordinator := coordinator.setTask ((coordinator.task own).finishRun loop) own }.put c
      role .resting

/-- Goes on with what a pull cycle came to. -/
def settlePull (returnsAt : Nat) : Progress PullCycle Unit → Service
  | .calling cycle => s.makeCall c role cycle.call (.pulling cycle returnsAt)
  | .finished _ => s.finish c role .pull

/-- Goes on with what a push cycle came to. A caller has the result. -/
def settlePush (returnsAt : Nat) : Progress PushCycle PushSummary → Service
  | .calling cycle => s.makeCall c role cycle.call (.pushing cycle returnsAt)
  | .finished result =>
    { s.finish c role .push with
      results := if role = .caller then s.results.insert c result else s.results }

/-- A loop wakes up: it ends, is about to run the job, or is about to wait again. -/
def wake (kind : CycleKind) (loop : Nat) (wakeup : Wakeup) : Service :=
  let task := (s.coordinator.task kind).wake loop wakeup
  if task.isInRun loop then (s.setTask task kind).put c (.loop kind loop) (.entering kind)
  else if task.isAlive loop then s.setTask task kind
  else { s.setTask task kind with carriers := s.carriers.erase c }

/-- Something is done to an activation, and what it counts is noted. -/
def operate (a : Nat) (operation : Operation) : Service :=
  { s with
    registry := s.registry.modify a (·.perform operation)
    account := { s.account with counted := s.account.counted ++ operation.counted } }

/-- A loop that has nothing to wake up for goes to sleep. -/
def sleep (kind : CycleKind) (loop : Nat) : Service :=
  s.setTask ((s.coordinator.task kind).sleep loop s.now) kind

/-- A carrier asks for the lane of a cycle. -/
def enter (kind : CycleKind) : Service :=
  { s with coordinator := s.coordinator.setLane ((s.coordinator.lane kind).enter c) kind }.put c role
    (.queued kind)

/-- Begins a pull cycle. -/
def beginPull (returnsAt : Nat) : Service :=
  { s with coordinator := (s.coordinator.beginPull s.registry).2 }.settlePull c role returnsAt
    (s.coordinator.beginPull s.registry).1

/-- Goes on with a pull cycle whose call returns. -/
def resumePull (cycle : PullCycle) (plane : Collaborators) (returnsAt : Nat) : Service :=
  { s with
    coordinator := (s.coordinator.resumePull s.registry plane cycle).2.1
    registry := (s.coordinator.resumePull s.registry plane cycle).2.2 }.settlePull c role returnsAt
    (s.coordinator.resumePull s.registry plane cycle).1

/-- Begins a push cycle. What it delivers of the traffic of an activation is noted. -/
def beginPush (a : Nat) (now : Timestamp) (returnsAt : Nat) : Service :=
  { s with
    registry := (s.coordinator.beginPush s.registry now).2
    account := s.account.deliver (s.coordinator.deliversAtOnce s.registry a now)
    }.settlePush c role returnsAt (s.coordinator.beginPush s.registry now).1

/-- Goes on with a push cycle whose call returns. What it delivers of the traffic of an activation is
noted. -/
def resumePush (a : Nat) (cycle : PushCycle) (peers : Collaborators) (now : Timestamp)
    (returnsAt : Nat) : Service :=
  { s with
    registry := (s.coordinator.resumePush s.registry peers now cycle).2
    account := s.account.deliver (cycle.delivers a peers now) }.settlePush c role returnsAt
    (s.coordinator.resumePush s.registry peers now cycle).1

/-- Goes on with a stop whose loop has ended. -/
def resumeStop (cycle : StopCycle) : Service :=
  { s with coordinator := (s.coordinator.resumeStop cycle).2 }.put c role
    (((s.coordinator.resumeStop cycle).1.map Simulation.Stage.stopping).getD (.entering .push))

end Definitions

/-- What a carrier does next. -/
inductive Move (a c : Nat) (s : Service) : Service → Prop
  | wake {kind : CycleKind} {loop : Nat} {state : TaskLoop} {wakeup : Wakeup}
    (found : s.carriers.get? c = some ⟨.loop kind loop, .resting⟩)
    (there : (s.coordinator.task kind).loops.get? loop = some state)
    (may : (s.coordinator.task kind).mayWake state s.now wakeup = true) :
    Move a c s (s.wake c kind loop wakeup)
  | sleep {kind : CycleKind} {loop : Nat} {state : TaskLoop}
    (found : s.carriers.get? c = some ⟨.loop kind loop, .resting⟩)
    (there : (s.coordinator.task kind).loops.get? loop = some state)
    (rearming : state.phase = .rearming)
    (nothing : (s.coordinator.task kind).wakeup? state s.now = none) :
    Move a c s (s.sleep kind loop)
  | enter {role : Simulation.Role} {kind : CycleKind}
    (found : s.carriers.get? c = some ⟨role, .entering kind⟩) : Move a c s (s.enter c role kind)
  | beginPull {role : Simulation.Role} (found : s.carriers.get? c = some ⟨role, .queued .pull⟩)
    (held : s.coordinator.pullLane.isHeldBy c = true) (returnsAt : Nat) :
    Move a c s (s.beginPull c role returnsAt)
  | resumePull {role : Simulation.Role} {cycle : PullCycle} {due : Nat}
    (found : s.carriers.get? c = some ⟨role, .pulling cycle due⟩) (returned : due ≤ s.now)
    (plane : Collaborators) (returnsAt : Nat) : Move a c s (s.resumePull c role cycle plane returnsAt)
  | beginPush {role : Simulation.Role} (found : s.carriers.get? c = some ⟨role, .queued .push⟩)
    (held : s.coordinator.pushLane.isHeldBy c = true) (now : Timestamp) (returnsAt : Nat) :
    Move a c s (s.beginPush c role a now returnsAt)
  | resumePush {role : Simulation.Role} {cycle : PushCycle} {due : Nat}
    (found : s.carriers.get? c = some ⟨role, .pushing cycle due⟩) (returned : due ≤ s.now)
    (peers : Collaborators) (now : Timestamp) (returnsAt : Nat) :
    Move a c s (s.resumePush c role a cycle peers now returnsAt)
  | resumeStop {role : Simulation.Role} {cycle : StopCycle}
    (found : s.carriers.get? c = some ⟨role, .stopping cycle⟩)
    (stopped : s.coordinator.isStopped cycle = true) : Move a c s (s.resumeStop c role cycle)

/-- One thing that happens, other than a request: something is done to the scope, or to others; time
passes; or a carrier goes on. -/
inductive Step (a : Nat) (s : Service) : Service → Prop
  | operate {operation : Operation} (open_ : operation.isReserved = false) :
    Step a s (s.operate a operation)
  | elsewhere {registry : Registry}
    (active : registry.active.get? s.coordinator.scope =
      s.registry.active.get? s.coordinator.scope)
    (scope : registry.scope a = s.registry.scope a) : Step a s { s with registry }
  | pass {later : Nat} (forward : s.now ≤ later) : Step a s { s with now := later }
  | move {c : Nat} {t : Service} (move : Move a c s t) : Step a s t

/-- A run without requests. -/
def Quiet (a : Nat) : Service → Service → Prop := Relation.ReflTransGen (Step a)

/-- A run with any requests. -/
def Run (a : Nat) : Service → Service → Prop :=
  Relation.ReflTransGen fun s t => Step a s t ∨ ∃ request, t = s.ask request

end Service

/-! ### What leaves the tasks of a coordinator -/

namespace Coordinator

variable {coordinator : Coordinator}

theorem task_setTask (task : PeriodicTask) (kind kind' : CycleKind) :
    (coordinator.setTask task kind).task kind' =
      if kind = kind' then task else coordinator.task kind' := by
  cases kind <;> cases kind' <;> rfl

/-- The same loops of both tasks, for the same scope and with the same reporter. -/
structure KeepsLoops (before after : Coordinator) : Prop where
  task : ∀ kind, (before.task kind).KeepsLoops (after.task kind)
  scope_eq : after.scope = before.scope
  reporter_eq : after.hasReporter = before.hasReporter

/-- No loop of either task that was not there, for the same scope and with the same reporter. -/
structure LosesLoops (before after : Coordinator) : Prop where
  task : ∀ kind, (before.task kind).LosesLoops (after.task kind)
  scope_eq : after.scope = before.scope
  reporter_eq : after.hasReporter = before.hasReporter

theorem KeepsLoops.losesLoops {after : Coordinator} (h : coordinator.KeepsLoops after) :
    coordinator.LosesLoops after :=
  ⟨fun kind => (h.task kind).losesLoops, h.scope_eq, h.reporter_eq⟩

theorem KeepsLoops.refl : coordinator.KeepsLoops coordinator := ⟨fun _ => .refl, rfl, rfl⟩

theorem KeepsLoops.trans {first second third : Coordinator} (h : first.KeepsLoops second)
    (h' : second.KeepsLoops third) : first.KeepsLoops third where
  task kind := (h.task kind).trans (h'.task kind)
  scope_eq := h'.scope_eq.trans h.scope_eq
  reporter_eq := h'.reporter_eq.trans h.reporter_eq

theorem scope_setTask (task : PeriodicTask) (kind : CycleKind) :
    (coordinator.setTask task kind).scope = coordinator.scope := by
  cases kind <;> rfl

theorem hasReporter_setTask (task : PeriodicTask) (kind : CycleKind) :
    (coordinator.setTask task kind).hasReporter = coordinator.hasReporter := by
  cases kind <;> rfl

theorem keepsLoops_setTask {task : PeriodicTask} {kind : CycleKind}
    (h : (coordinator.task kind).KeepsLoops task) :
    coordinator.KeepsLoops (coordinator.setTask task kind) where
  task kind' := by
    rw [task_setTask]
    split
    next own => exact own ▸ h
    next => exact .refl
  scope_eq := scope_setTask task kind
  reporter_eq := hasReporter_setTask task kind

theorem losesLoops_setTask {task : PeriodicTask} {kind : CycleKind}
    (h : (coordinator.task kind).LosesLoops task) :
    coordinator.LosesLoops (coordinator.setTask task kind) where
  task kind' := by
    rw [task_setTask]
    split
    next own => exact own ▸ h
    next => exact PeriodicTask.KeepsLoops.refl.losesLoops
  scope_eq := scope_setTask task kind
  reporter_eq := hasReporter_setTask task kind

/-- The same loops of both tasks in the same phases, for the same scope and with the same reporter;
the intervals may differ, and the permits with them. -/
structure Retimes (before after : Coordinator) : Prop where
  task : ∀ kind, ∃ intervalMs hasPermit,
    after.task kind = { before.task kind with intervalMs, hasPermit }
  scope_eq : after.scope = before.scope
  reporter_eq : after.hasReporter = before.hasReporter

theorem Retimes.refl : coordinator.Retimes coordinator := ⟨fun _ => ⟨_, _, rfl⟩, rfl, rfl⟩

theorem Retimes.trans {first second third : Coordinator} (h : first.Retimes second)
    (h' : second.Retimes third) : first.Retimes third where
  task kind := by
    obtain ⟨_, _, same⟩ := h.task kind
    obtain ⟨intervalMs, hasPermit, same'⟩ := h'.task kind
    exact ⟨intervalMs, hasPermit, by rw [same', same]⟩
  scope_eq := h'.scope_eq.trans h.scope_eq
  reporter_eq := h'.reporter_eq.trans h.reporter_eq

theorem Retimes.keepsLoops {after : Coordinator} (h : coordinator.Retimes after) :
    coordinator.KeepsLoops after where
  task kind := by
    obtain ⟨_, _, same⟩ := h.task kind
    rw [same]
    exact ⟨fun _ => rfl, rfl, rfl⟩
  scope_eq := h.scope_eq
  reporter_eq := h.reporter_eq

theorem retimes_of_tasks {after : Coordinator} (pull : after.pullTask = coordinator.pullTask)
    (push : after.pushTask = coordinator.pushTask) (scope : after.scope = coordinator.scope)
    (reporter : after.hasReporter = coordinator.hasReporter) : coordinator.Retimes after where
  task kind := by
    cases kind with
    | pull => exact ⟨_, _, pull⟩
    | push => exact ⟨_, _, push⟩
  scope_eq := scope
  reporter_eq := reporter

theorem retimes_setLane (lane : Lane) (kind : CycleKind) :
    coordinator.Retimes (coordinator.setLane lane kind) := by
  cases kind <;> exact retimes_of_tasks rfl rfl rfl rfl

theorem retimes_setIntervals (info : NodeInfo) :
    coordinator.Retimes (coordinator.setIntervals info) where
  task kind := by
    have set (task : PeriodicTask) (interval : Option Nat) : ∃ intervalMs hasPermit,
        (interval.map task.setInterval).getD task = { task with intervalMs, hasPermit } := by
      cases interval with
      | none => exact ⟨_, _, rfl⟩
      | some nanos =>
        show ∃ _ _, task.setInterval nanos = _
        unfold PeriodicTask.setInterval
        split
        · exact ⟨_, _, rfl⟩
        · exact ⟨_, _, rfl⟩
    cases kind with
    | pull => exact set _ _
    | push => exact set _ _
  scope_eq := rfl
  reporter_eq := rfl

theorem retimes_beginPull (registry : Registry) :
    coordinator.Retimes (coordinator.beginPull registry).2 := by
  unfold beginPull
  split
  · exact .refl
  · exact retimes_of_tasks rfl rfl rfl rfl

theorem retimes_endPull (result : Except Error Unit) :
    coordinator.Retimes (coordinator.endPull result).2 := retimes_of_tasks rfl rfl rfl rfl

theorem retimes_applyFetched (scope : Scope) (fetched : Fetched) :
    coordinator.Retimes (coordinator.applyFetched scope fetched).2.1 := by
  have node : coordinator.Retimes (coordinator.applyNode scope fetched.node).1 := by
    unfold applyNode
    split
    · exact .refl
    · exact retimes_setIntervals _
  have roster (after : Coordinator) (scope : Scope) :
      after.Retimes (after.applyRoster scope fetched.roster).2.1 := by
    unfold applyRoster
    split
    · exact .refl
    · dsimp only
      split
      · exact .refl
      · exact retimes_of_tasks rfl rfl rfl rfl
  have both := node.trans (roster _ (coordinator.applyNode scope fetched.node).2)
  unfold applyFetched
  dsimp only
  split
  next refused => rwa [refused] at both
  next taken => rwa [taken] at both

theorem retimes_resumePull (registry : Registry) (plane : Collaborators) (cycle : PullCycle) :
    coordinator.Retimes (coordinator.resumePull registry plane cycle).2.1 := by
  cases cycle with
  | fetchingNode activation =>
    simp only [resumePull]
    cases plane.node with
    | error e => exact retimes_endPull (.error e)
    | ok node => exact .refl
  | fetchingRoster activation node =>
    simp only [resumePull]
    cases plane.roster with
    | error e => exact retimes_endPull (.error e)
    | ok roster => exact .refl
  | fetchingRules activation node roster =>
    simp only [resumePull]
    cases plane.rules with
    | error e => exact retimes_endPull (.error e)
    | ok rules =>
      let fetched : Fetched := ⟨node, roster, rules⟩
      exact (retimes_applyFetched (registry.scope activation) fetched).trans
        (retimes_endPull (coordinator.applyFetched (registry.scope activation) fetched).1)

theorem keepsLoops_setLane (lane : Lane) (kind : CycleKind) :
    coordinator.KeepsLoops (coordinator.setLane lane kind) := (retimes_setLane lane kind).keepsLoops

theorem keepsLoops_beginPull (registry : Registry) :
    coordinator.KeepsLoops (coordinator.beginPull registry).2 := (retimes_beginPull registry).keepsLoops

theorem keepsLoops_resumePull (registry : Registry) (plane : Collaborators) (cycle : PullCycle) :
    coordinator.KeepsLoops (coordinator.resumePull registry plane cycle).2.1 :=
  (retimes_resumePull registry plane cycle).keepsLoops

end Coordinator

/-! ### What a move leaves of the others -/

namespace Service

variable {a c : Nat} {s t : Service} {role : Simulation.Role}

theorem role?_of_get? {stage : Simulation.Stage} (found : s.carriers.get? c = some ⟨role, stage⟩) :
    s.role? c = some role := by
  rw [role?, found]
  rfl

theorem role?_insert (carrier : Carrier) (same : t.carriers = s.carriers.insert c carrier) (c' : Nat) :
    t.role? c' = if c = c' then some carrier.role else s.role? c' := by
  rw [role?, role?, same, Table.get?_insert]
  split <;> rfl

theorem role?_erase (same : t.carriers = s.carriers.erase c) (c' : Nat) :
    t.role? c' = if c = c' then none else s.role? c' := by
  rw [role?, role?, same, Table.get?_erase]
  split <;> rfl

theorem coordinator_wake (kind : CycleKind) (loop : Nat) (wakeup : Wakeup) :
    (s.wake c kind loop wakeup).coordinator =
      s.coordinator.setTask ((s.coordinator.task kind).wake loop wakeup) kind := by
  unfold Service.wake
  dsimp only
  split
  · rfl
  · split <;> rfl

/-- A carrier goes on in its role, or is done, and leaves alone the others, what was counted, which
scopes are active, and what the coordinator is for. -/
structure Apart (c : Nat) (s t : Service) : Prop where
  carriers : t.carriers.erase c = s.carriers.erase c
  role : ∀ role, t.role? c = some role → s.role? c = some role
  results : ∀ c', c ≠ c' → t.results.get? c' = s.results.get? c'
  counted : t.account.counted = s.account.counted
  active : t.registry.active = s.registry.active
  scope : t.coordinator.scope = s.coordinator.scope
  reporter : t.coordinator.hasReporter = s.coordinator.hasReporter

namespace Apart

theorem get?_eq (h : Apart c s t) {c' : Nat} (other : c ≠ c') :
    t.carriers.get? c' = s.carriers.get? c' := by
  rw [← Table.get?_erase_of_ne _ other, h.carriers, Table.get?_erase_of_ne _ other]

theorem role?_of (h : Apart c s t) {c' : Nat} {role : Simulation.Role}
    (found : t.role? c' = some role) : s.role? c' = some role := by
  by_cases own : c = c'
  · subst own
    exact h.role role found
  · rwa [role?, h.get?_eq own] at found

/-- Nothing happens to the carriers. -/
theorem of_carriers (carriers : t.carriers = s.carriers) (results : t.results = s.results)
    (counted : t.account.counted = s.account.counted)
    (active : t.registry.active = s.registry.active)
    (scope : t.coordinator.scope = s.coordinator.scope)
    (reporter : t.coordinator.hasReporter = s.coordinator.hasReporter) : Apart c s t where
  carriers := by rw [carriers]
  role role found := by rwa [role?, carriers] at found
  results c' _ := by rw [results]
  counted := counted
  active := active
  scope := scope
  reporter := reporter

theorem refl : Apart c s s := of_carriers rfl rfl rfl rfl rfl rfl

theorem put (h : Apart c s t) (known : s.role? c = some role) (stage : Simulation.Stage) :
    Apart c s (t.put c role stage) where
  carriers := (Table.erase_insert _ _ _).trans h.carriers
  role role' found := by
    rw [@role?_insert _ t _ ⟨role, stage⟩ rfl, if_pos rfl] at found
    exact Option.some.inj found ▸ known
  results := h.results
  counted := h.counted
  active := h.active
  scope := h.scope
  reporter := h.reporter

theorem erase (h : Apart c s t) : Apart c s { t with carriers := t.carriers.erase c } where
  carriers := (Table.erase_of_get? (Table.get?_erase_self _ _)).trans h.carriers
  role role found := by
    rw [@role?_erase _ t _ rfl, if_pos rfl] at found
    cases found
  results := h.results
  counted := h.counted
  active := h.active
  scope := h.scope
  reporter := h.reporter

theorem coordinator (h : Apart c s t) {coordinator : Coordinator}
    (scope : coordinator.scope = t.coordinator.scope)
    (reporter : coordinator.hasReporter = t.coordinator.hasReporter) :
    Apart c s { t with coordinator } :=
  ⟨h.carriers, h.role, h.results, h.counted, h.active, scope.trans h.scope,
    reporter.trans h.reporter⟩

theorem finish (h : Apart c s t) (known : s.role? c = some role) (kind : CycleKind) :
    Apart c s (t.finish c role kind) := by
  have keeps :=
    @Coordinator.keepsLoops_setLane t.coordinator (t.coordinator.lane kind).leave kind
  have handed := h.coordinator keeps.scope_eq keeps.reporter_eq
  cases role with
  | caller => exact handed.erase
  | loop own loop =>
    exact (handed.coordinator (Coordinator.scope_setTask _ _)
      (Coordinator.hasReporter_setTask _ _)).put known .resting

theorem makeCall (h : Apart c s t) (known : s.role? c = some role) (call : Call)
    (stage : Simulation.Stage) : Apart c s (t.makeCall c role call stage) :=
  have put := h.put known stage
  ⟨put.carriers, put.role, put.results, put.counted, put.active, put.scope, put.reporter⟩

theorem settlePull (h : Apart c s t) (known : s.role? c = some role) (returnsAt : Nat)
    (progress : Progress PullCycle Unit) : Apart c s (t.settlePull c role returnsAt progress) := by
  cases progress with
  | calling cycle => exact h.makeCall known _ _
  | finished result => exact h.finish known .pull

theorem settlePush (h : Apart c s t) (known : s.role? c = some role) (returnsAt : Nat)
    (progress : Progress PushCycle PushSummary) :
    Apart c s (t.settlePush c role returnsAt progress) := by
  cases progress with
  | calling cycle => exact h.makeCall known _ _
  | finished result =>
    have done := h.finish known .push
    refine ⟨done.carriers, done.role, ?_, done.counted, done.active, done.scope, done.reporter⟩
    intro c' other
    refine Eq.trans ?_ (h.results c' other)
    show (if role = .caller then t.results.insert c result else t.results).get? c' = _
    split
    · exact Table.get?_insert_of_ne _ other _
    · rfl

theorem wake {kind : CycleKind} {loop : Nat} (known : s.role? c = some (.loop kind loop))
    (wakeup : Wakeup) : Apart c s (s.wake c kind loop wakeup) := by
  have placed : Apart c s (s.setTask ((s.coordinator.task kind).wake loop wakeup) kind) :=
    .of_carriers rfl rfl rfl rfl (Coordinator.scope_setTask _ _) (Coordinator.hasReporter_setTask _ _)
  unfold Service.wake
  dsimp only
  split
  · exact placed.put known _
  · split
    · exact placed
    · exact placed.erase

end Apart

/-- A move is the business of the carrier that makes it. -/
theorem Move.apart (move : Move a c s t) : Apart c s t := by
  cases move with
  | wake found there may => exact .wake (role?_of_get? found) _
  | sleep found there rearming nothing =>
    exact .of_carriers rfl rfl rfl rfl (Coordinator.scope_setTask _ _)
      (Coordinator.hasReporter_setTask _ _)
  | enter found =>
    have keeps := @Coordinator.keepsLoops_setLane s.coordinator
    refine .put ?_ (role?_of_get? found) _
    exact .of_carriers rfl rfl rfl rfl (keeps _ _).scope_eq (keeps _ _).reporter_eq
  | beginPull found held returnsAt =>
    have keeps := @Coordinator.keepsLoops_beginPull s.coordinator s.registry
    refine .settlePull ?_ (role?_of_get? found) _ _
    exact .of_carriers rfl rfl rfl rfl keeps.scope_eq keeps.reporter_eq
  | @resumePull role cycle due found returned plane returnsAt =>
    have keeps := @Coordinator.keepsLoops_resumePull s.coordinator s.registry plane cycle
    refine .settlePull ?_ (role?_of_get? found) _ _
    exact .of_carriers rfl rfl rfl (Coordinator.evolves_resumePull plane _).active_eq keeps.scope_eq
      keeps.reporter_eq
  | beginPush found held now returnsAt =>
    refine .settlePush ?_ (role?_of_get? found) _ _
    exact .of_carriers rfl rfl rfl (Coordinator.evolves_beginPush now).active_eq rfl rfl
  | resumePush found returned peers now returnsAt =>
    refine .settlePush ?_ (role?_of_get? found) _ _
    exact .of_carriers rfl rfl rfl (Coordinator.evolves_resumePush peers now _).active_eq rfl rfl
  | @resumeStop role cycle found stopped =>
    refine .put ?_ (role?_of_get? found) _
    refine .of_carriers rfl rfl rfl rfl ?_ ?_
    · cases cycle <;> rfl
    · cases cycle <;> rfl

end Service

end Tollgate
