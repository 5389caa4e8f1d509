import Mathlib.Data.List.Nodup
import Tollgate.Proofs.RosterMoves

/-!
# Rosters and limit records in step

A coordinator remembers the roster that it last took over; the scope keeps a limit record for each
user. The two change in different places, and only by the difference between rosters. In between,
connections make records for users of no roster, escalations put temporary caps into records and
time takes them out again.

`OnCourse` is what holds in the middle of a change: every user of the roster to be is still to be
added, or has the right record already and is not going to be removed.
-/

namespace Tollgate

/-- The limit record of a user of the roster has the caps of the roster. -/
def Scope.Honours (scope : Scope) (user : RosterUser) : Prop :=
  scope.standing? user.id = some (user.speedLimit, user.deviceLimit)

/-- A roster has one entry for each user. -/
def DistinctUsers (roster : List RosterUser) : Prop := (roster.map (·.id)).Nodup

theorem DistinctUsers.eq_of_id_eq {roster : List RosterUser} (h : DistinctUsers roster)
    {user user' : RosterUser} (member : user ∈ roster) (member' : user' ∈ roster)
    (same : user.id = user'.id) : user = user' :=
  List.inj_on_of_nodup_map h member member' same

namespace Scope

variable {scope after : Scope} {user : RosterUser}

theorem Honours.of_standing (h : scope.Honours user)
    (kept : ∀ id caps, scope.standing? id = some caps → after.standing? id = some caps) :
    after.Honours user :=
  kept _ _ h

/-- The record behind the caps. -/
theorem Honours.record (h : scope.Honours user) :
    ∃ record, scope.record? user.id = some record ∧ record.staticSpeed = user.speedLimit ∧
      record.deviceLimit = user.deviceLimit := by
  obtain ⟨record, found, caps⟩ := Option.map_eq_some_iff.1 h
  obtain ⟨speed, device⟩ := Prod.mk.injEq .. ▸ caps
  exact ⟨record, found, speed, device⟩

theorem standing?_removeUser (removed user : UInt64) :
    (scope.removeUser removed).standing? user =
      if removed = user then none else scope.standing? user := by
  have after := @SpeedLimiter.standing?_removeUser scope.speed (scope.key removed) (scope.key user)
  simp only [key_inj] at after
  exact after

theorem standing?_insertUser (entry : RosterUser) (user : UInt64) :
    (scope.insertUser entry).standing? user =
      if entry.id = user then some (entry.speedLimit, entry.deviceLimit)
      else scope.standing? user := by
  have after := @SpeedLimiter.standing?_insertUser scope.speed (scope.key entry.id)
    entry.speedLimit entry.deviceLimit (scope.key user)
  simp only [key_inj] at after
  exact after

end Scope

/-! ### The middle of a change -/

/-- A change of a scope's records towards a roster that will be right when nothing is left to remove
and to add. -/
structure OnCourse (scope : Scope) (removed added roster : List RosterUser) : Prop where
  distinct : DistinctUsers roster
  listed : ∀ user ∈ added, user ∈ roster
  pending : ∀ user ∈ roster,
    user ∈ added ∨ (scope.Honours user ∧ ∀ other ∈ removed, other.id ≠ user.id)

namespace OnCourse

variable {scope after : Scope} {removed added roster : List RosterUser} {user : RosterUser}

/-- The difference between two rosters sets the right course. -/
theorem start {old : List RosterUser} (oldDistinct : DistinctUsers old)
    (honoured : ∀ user ∈ old, scope.Honours user) (distinct : DistinctUsers roster) :
    OnCourse scope (RosterDiff.between old roster).removed (RosterDiff.between old roster).added
      roster := by
  refine ⟨distinct, ?_, ?_⟩
  · intro user member
    exact (RosterDiff.mem_missing.1 member).1
  · intro user member
    by_cases known : user ∈ old
    · refine Or.inr ⟨honoured user known, ?_⟩
      intro other gone same
      obtain ⟨was, isNot⟩ := RosterDiff.mem_missing.1 gone
      rw [oldDistinct.eq_of_id_eq was known same] at isNot
      exact isNot member
    · exact Or.inl (RosterDiff.mem_missing.2 ⟨member, known⟩)

theorem removeUser (h : OnCourse scope (user :: removed) added roster) :
    OnCourse (scope.removeUser user.id) removed added roster := by
  refine ⟨h.distinct, h.listed, ?_⟩
  intro other member
  rcases h.pending other member with later | ⟨honoured, spared⟩
  · exact Or.inl later
  · refine Or.inr ⟨?_, fun v gone => spared v (List.mem_cons_of_mem _ gone)⟩
    rw [Scope.Honours, Scope.standing?_removeUser, if_neg (spared user List.mem_cons_self)]
    exact honoured

theorem insertUser (h : OnCourse scope [] (user :: added) roster) :
    OnCourse (scope.insertUser user) [] added roster := by
  have own := h.listed user List.mem_cons_self
  refine ⟨h.distinct, fun v member => h.listed v (List.mem_cons_of_mem _ member), ?_⟩
  intro other member
  by_cases same : user.id = other.id
  · refine Or.inr ⟨?_, fun _ gone => nomatch gone⟩
    rw [← h.distinct.eq_of_id_eq own member same, Scope.Honours, Scope.standing?_insertUser,
      if_pos rfl]
  · rcases h.pending other member with later | ⟨honoured, -⟩
    · rcases List.mem_cons.1 later with rfl | later
      · exact absurd rfl same
      · exact Or.inl later
    · refine Or.inr ⟨?_, fun _ gone => nomatch gone⟩
      rw [Scope.Honours, Scope.standing?_insertUser, if_neg same]
      exact honoured

theorem finish (h : OnCourse scope [] [] roster) : ∀ user ∈ roster, scope.Honours user := by
  intro user member
  rcases h.pending user member with later | ⟨honoured, -⟩
  · cases later
  · exact honoured

theorem of_standing (h : OnCourse scope removed added roster)
    (kept : ∀ id caps, scope.standing? id = some caps → after.standing? id = some caps) :
    OnCourse after removed added roster where
  distinct := h.distinct
  listed := h.listed
  pending user member := by
    rcases h.pending user member with later | ⟨honoured, spared⟩
    · exact Or.inl later
    · exact Or.inr ⟨honoured.of_standing kept, spared⟩

/-- Every move stays on course, as long as each roster has one entry for each user. -/
theorem move {view next : RosterView} (h : OnCourse view.scope view.removed view.added view.roster)
    (move : RosterView.Move (fun _ new => DistinctUsers new) view next) :
    OnCourse next.scope next.removed next.added next.roster := by
  cases move with
  | keep kept => exact h.of_standing kept
  | begin follows => exact start h.distinct h.finish follows
  | remove => exact h.removeUser
  | insert => exact h.insertUser

theorem moves {view next : RosterView} (h : OnCourse view.scope view.removed view.added view.roster)
    (moves : RosterView.Moves (fun _ new => DistinctUsers new) view next) :
    OnCourse next.scope next.removed next.added next.roster := by
  induction moves with
  | refl => exact h
  | tail _ last ih => exact ih.move last

/-- A change without a break gets there. -/
theorem performAll {diff : RosterDiff} (h : OnCourse scope diff.removed diff.added roster) :
    ∀ user ∈ roster, (scope.performAll diff.pieces).Honours user :=
  finish (@moves ⟨diff.removed, diff.added, roster, scope⟩ _ h (RosterView.moves_pieces diff roster))

end OnCourse

/-! ### Coordinators and their pulls -/

/-- A coordinator remembers a roster that the records of a scope honour. -/
structure Coordinator.InStep (coordinator : Coordinator) (scope : Scope) : Prop where
  distinct : DistinctUsers coordinator.roster
  honoured : ∀ user ∈ coordinator.roster, scope.Honours user

theorem Coordinator.inStep_iff {coordinator : Coordinator} {scope : Scope} :
    coordinator.InStep scope ↔ OnCourse scope [] [] coordinator.roster := by
  constructor
  · intro h
    refine ⟨h.distinct, ?_, ?_⟩
    · exact fun _ member => nomatch member
    · exact fun user member => Or.inr ⟨h.honoured user member, fun _ gone => nomatch gone⟩
  · intro course
    exact ⟨course.distinct, course.finish⟩

/-- The roster that a pull has fetched so far, if there is one, has one entry for each user. -/
def PullCycle.FetchedDistinct : PullCycle → Prop
  | .fetchingRules _ _ (some roster) => DistinctUsers roster
  | _ => True

/-- How a pull that works on an activation stands with the records of its scope. -/
def PullStage.InStep (a : Nat) (coordinator : Coordinator) (scope : Scope) : PullStage → Prop
  | .fetching cycle =>
    cycle.activation = a ∧ cycle.FetchedDistinct ∧ coordinator.InStep scope
  | .changing change =>
    change.activation = a ∧ OnCourse scope change.removed change.added change.roster

/-- A coordinator whose scope is active, in step with its records but for a change under way. -/
structure Node.InStep (node : Node) (c a : Nat) (coordinator : Coordinator) : Prop where
  known : a < node.registry.nextActivation
  found : node.coordinators.get? c = some coordinator
  active : node.registry.active.get? coordinator.scope = some a
  settled : node.pulls.get? c = none → coordinator.InStep (node.scope a)
  flight : ∀ stage, node.pulls.get? c = some stage → stage.InStep a coordinator (node.scope a)

/-- Steps on which an activation lasts and nobody but one coordinator changes its roster. The
rosters that the coordinator is given list each user once. -/
structure OwnRoster (c a : Nat) (node : Node) (event : Event) (next : Node) : Prop where
  lasting : ∀ name, event = .deactivate name → node.registry.active.get? name ≠ some a
  direct : ∀ operation, event = .operate a operation → operation.changesRoster = false
  others : ∀ c', c' ≠ c → event.isPullOf c' = true →
    (node.scope a).Evolves (·.changesRoster = false) (next.scope a)
  distinct : ∀ plane roster, event = .resumePull c plane → plane.roster = .ok (some roster) →
    DistinctUsers roster

theorem OwnRoster.of_isPullOf {c a : Nat} {node next : Node} {event : Event}
    (own : event.isPullOf c = true)
    (distinct : ∀ plane roster, event = .resumePull c plane → plane.roster = .ok (some roster) →
      DistinctUsers roster) : OwnRoster c a node event next :=
  have sole : SoleOwner c a node event next := .of_isPullOf own
  ⟨sole.lasting, sole.direct, sole.others, distinct⟩

theorem OwnRoster.soleOwner {c a : Nat} {node next : Node} {event : Event}
    (h : OwnRoster c a node event next) : SoleOwner c a node event next :=
  ⟨h.lasting, h.direct, h.others⟩

/-! ### Rosters that were fetched -/

/-- A pull that has called for a roster has one entry for each user in what it was told. -/
theorem Coordinator.fetchedDistinct_resumePull {coordinator : Coordinator} {registry : Registry}
    {plane : Collaborators} {cycle later : PullCycle}
    (distinct : ∀ roster, plane.roster = .ok (some roster) → DistinctUsers roster)
    (goesOn : (coordinator.resumePull registry plane cycle).1 = .calling later) :
    later.FetchedDistinct := by
  cases cycle with
  | fetchingNode activation =>
    simp only [resumePull] at goesOn
    cases answered : plane.node with
    | error e =>
      rw [answered] at goesOn
      cases goesOn
    | ok info =>
      rw [answered] at goesOn
      cases goesOn
      trivial
  | fetchingRoster activation info =>
    simp only [resumePull] at goesOn
    cases answered : plane.roster with
    | error e =>
      rw [answered] at goesOn
      cases goesOn
    | ok roster =>
      rw [answered] at goesOn
      cases goesOn
      cases roster with
      | none => trivial
      | some users => exact distinct users answered
  | fetchingRules activation info roster =>
    simp only [resumePull] at goesOn
    cases answered : plane.rules with
    | error e =>
      rw [answered] at goesOn
      cases goesOn
    | ok rules =>
      rw [answered] at goesOn
      cases goesOn

namespace Node

variable {node next : Node} {event : Event} {c a : Nat} {coordinator : Coordinator}

theorem calling_of_settlePull {progress : Progress PullCycle Unit} {registry : Registry}
    {cycle : PullCycle} (flight : (node.settlePull c (progress, coordinator, registry)).pulls.get? c =
      some (.fetching cycle)) : progress = .calling cycle := by
  cases progress with
  | calling later =>
    cases (Table.get?_insert_self _ _ _).symm.trans flight
    rfl
  | finished result => cases (Table.get?_erase_self _ _).symm.trans flight

/-- The rosters that a pull fetches are those that it is told. -/
theorem Step.fetchedDistinct (step : node.Step event next)
    (found : node.coordinators.get? c = some coordinator)
    (fetched : ∀ cycle, node.pulls.get? c = some (.fetching cycle) → cycle.FetchedDistinct)
    (distinct : ∀ plane roster, event = .resumePull c plane → plane.roster = .ok (some roster) →
      DistinctUsers roster) {cycle : PullCycle}
    (flight : next.pulls.get? c = some (.fetching cycle)) : cycle.FetchedDistinct := by
  by_cases own : event.isPullOf c = true
  · cases step with
    | @beginPull c' coordinator' found' free =>
      obtain rfl := of_decide_eq_true own
      have begun := calling_of_settlePull flight
      unfold Coordinator.beginPull at begun
      split at begun
      · cases begun
      · cases begun
        trivial
    | @resumePull c' coordinator' cycle' found' flight' plane =>
      obtain rfl := of_decide_eq_true own
      exact Coordinator.fetchedDistinct_resumePull (fun roster => distinct plane roster rfl)
        (calling_of_settlePull flight)
    | @beginChange c' coordinator' b info roster rules plane found' flight' answered isOpen =>
      obtain rfl := of_decide_eq_true own
      cases (Table.get?_insert_self _ _ _).symm.trans flight
    | @goOnChanging c' coordinator' change found' flight' =>
      obtain rfl := of_decide_eq_true own
      unfold Node.goOnChanging at flight
      split at flight
      · cases (Table.get?_insert_self _ _ _).symm.trans flight
      · cases (Table.get?_insert_self _ _ _).symm.trans flight
      · cases calling_of_settlePull flight
    | _ => cases own
  · rw [(step.frame (Bool.not_eq_true _ ▸ own) found).2] at flight
    exact fetched cycle flight

/-! ### Steps -/

theorem InStep.worksOn (h : node.InStep c a coordinator) : node.WorksOn c a coordinator := by
  refine ⟨h.known, h.found, h.active, fun stage flight => ?_⟩
  cases stage with
  | fetching cycle => exact (h.flight _ flight).1
  | changing change => exact (h.flight _ flight).1

/-- Being in step is being on course, with rosters of one entry for each user to come. -/
theorem InStep.onCourse (h : node.InStep c a coordinator) :
    let view := node.rosterView c a coordinator
    OnCourse view.scope view.removed view.added view.roster := by
  cases flight : node.pulls.get? c with
  | none =>
    rw [rosterView_of_free flight]
    exact Coordinator.inStep_iff.1 (h.settled flight)
  | some stage =>
    cases stage with
    | fetching cycle =>
      rw [rosterView_of_fetching flight]
      exact Coordinator.inStep_iff.1 (h.flight _ flight).2.2
    | changing change =>
      rw [rosterView_of_changing flight]
      exact (h.flight _ flight).2

theorem InStep.of_onCourse (worksOn : node.WorksOn c a coordinator)
    (course : let view := node.rosterView c a coordinator
      OnCourse view.scope view.removed view.added view.roster)
    (fetched : ∀ cycle, node.pulls.get? c = some (.fetching cycle) → cycle.FetchedDistinct) :
    node.InStep c a coordinator := by
  refine ⟨worksOn.known, worksOn.found, worksOn.active, fun free => ?_, fun stage flight => ?_⟩
  · rw [rosterView_of_free free] at course
    exact Coordinator.inStep_iff.2 course
  · cases stage with
    | fetching cycle =>
      rw [rosterView_of_fetching flight] at course
      exact ⟨worksOn.here _ flight, fetched cycle flight, Coordinator.inStep_iff.2 course⟩
    | changing change =>
      rw [rosterView_of_changing flight] at course
      exact ⟨worksOn.here _ flight, course⟩

/-- Every step keeps the coordinator in step. -/
theorem InStep.step (h : node.InStep c a coordinator) (step : node.Step event next)
    (allowed : OwnRoster c a node event next) : ∃ coordinator', next.InStep c a coordinator' := by
  have fetched (cycle : PullCycle) (flight : node.pulls.get? c = some (.fetching cycle)) :
      cycle.FetchedDistinct := (h.flight _ flight).2.1
  obtain ⟨later, worksOn, moves⟩ :=
    @WorksOn.step _ _ _ _ _ _ (fun _ new => DistinctUsers new) h.worksOn step allowed.soleOwner
      fun roster ⟨_, _, _, _, _, _, flight⟩ => fetched _ flight
  exact ⟨later, .of_onCourse worksOn (h.onCourse.moves moves)
    fun _ => step.fetchedDistinct h.found fetched allowed.distinct⟩

/-! ### Runs -/

theorem InStep.run {start : Node} (h : start.InStep c a coordinator)
    (run : Run (OwnRoster c a) start node) : ∃ coordinator', node.InStep c a coordinator' := by
  induction run with
  | refl => exact ⟨coordinator, h⟩
  | tail _ last ih =>
    obtain ⟨event, step, allowed⟩ := last
    obtain ⟨coordinator', inStep⟩ := ih
    exact inStep.step step allowed

end Node

/-- While an activation lasts and nobody else changes its roster, a coordinator that began without a
roster always remembers one that the limit records honour, except in the middle of taking one over.
-/
theorem roster_agrees_with_records {start node : Node} {c a : Nat} {coordinator : Coordinator}
    (reached : Node.Run (fun _ _ _ => True) {} start)
    (created : start.coordinators.get? c = some coordinator) (fresh : coordinator.roster = [])
    (active : start.registry.active.get? coordinator.scope = some a)
    (idle : start.pulls.get? c = none) (run : Node.Run (OwnRoster c a) start node) :
    ∃ now, node.coordinators.get? c = some now ∧
      ((∀ change, node.pulls.get? c ≠ some (.changing change)) →
        ∀ user ∈ now.roster, ∃ record, (node.scope a).record? user.id = some record ∧
          record.staticSpeed = user.speedLimit ∧ record.deviceLimit = user.deviceLimit) := by
  have begun : start.InStep c a coordinator := by
    refine ⟨Node.active_lt_of_run reached active, created, active, ?_, ?_⟩
    · intro _
      refine ⟨?_, ?_⟩
      · rw [fresh]
        exact List.nodup_nil
      · rw [fresh]
        exact fun _ member => nomatch member
    · intro stage flight
      exact nomatch idle.symm.trans flight
  obtain ⟨now, inStep⟩ := begun.run run
  refine ⟨now, inStep.found, ?_⟩
  intro unchanging user member
  have settled : now.InStep (node.scope a) := by
    cases flight : node.pulls.get? c with
    | none => exact inStep.settled flight
    | some stage =>
      cases stage with
      | fetching cycle => exact (inStep.flight _ flight).2.2
      | changing change => exact absurd flight (unchanging change)
  exact (settled.honoured user member).record

/-- A user who was connected before the first roster came has the record of the roster after it. -/
theorem roster_agrees_with_records_connected :
    ∃ (node : Node) (now : Coordinator), node.coordinators.get? 0 = some now ∧
      now.roster = [⟨7, ⟨0⟩, 100, 2⟩] ∧ (node.scope 0).connectionsOf 7 = 1 ∧
      ∃ record, (node.scope 0).record? 7 = some record ∧ record.staticSpeed = 100 ∧
        record.deviceLimit = 2 := by
  let plane : Collaborators := { roster := .ok (some [⟨7, ⟨0⟩, 100, 2⟩]) }
  let made : Coordinator :=
    { scope := "a"
      config := {}
      pullTask := { name := "roster-pull", intervalMs := 60000 }
      pushTask := { name := "traffic-push", intervalMs := 60000 } }
  let fetching := { made with phase := .fetching }
  let active : Node := { registry := (({} : Registry).activate "a" {}).2 }
  let start : Node := { active with coordinators := active.coordinators.insert 0 made }
  let connected := start.acquire 0 7 default
  let first := connected.settlePull 0
    (.calling (.fetchingNode 0), fetching, connected.registry)
  let second := first.settlePull 0
    (.calling (.fetchingRoster 0 none), fetching, first.registry)
  let third := second.settlePull 0
    (.calling (.fetchingRules 0 none (some [⟨7, ⟨0⟩, 100, 2⟩])), fetching, second.registry)
  let last := third.settlePull 0 (fetching.resumePull third.registry plane
    (.fetchingRules 0 none (some [⟨7, ⟨0⟩, 100, 2⟩])))
  have reached : Node.Run (fun _ _ _ => True) {} start := by
    refine .tail (b := active) (.tail .refl ⟨.activate "a" {}, .activate "a" {}, trivial⟩)
      ⟨.coordinate 0 "a" {} false false, ?_, trivial⟩
    exact .coordinate rfl (by cbv)
  have connects : start.Step (.acquire 0 7 default) connected := .acquire (by decide) 7 default
  have begins : connected.Step (.beginPull 0) first := by
    have here : connected.registry.find made.scope = .ok 0 := by decide
    have begun : made.beginPull connected.registry = (.calling (.fetchingNode 0), fetching) := by
      rw [Coordinator.beginPull, here]
    have begins := @Node.Step.beginPull connected 0 made rfl rfl
    rwa [begun] at begins
  have hears : first.Step (.resumePull 0 plane) second :=
    @Node.Step.resumePull first 0 fetching (.fetchingNode 0) rfl rfl plane
  have lists : second.Step (.resumePull 0 plane) third :=
    @Node.Step.resumePull second 0 fetching (.fetchingRoster 0 none) rfl rfl plane
  have applies : third.Step (.resumePull 0 plane) last :=
    @Node.Step.resumePull third 0 fetching
      (.fetchingRules 0 none (some [⟨7, ⟨0⟩, 100, 2⟩])) rfl rfl plane
  have once : ∀ (plane' : Collaborators) roster, Event.resumePull 0 plane = .resumePull 0 plane' →
      plane'.roster = .ok (some roster) → DistinctUsers roster := by
    rintro _ roster ⟨⟩ ⟨⟩
    exact List.nodup_singleton _
  have run : Node.Run (OwnRoster 0 0) start last := by
    refine .tail (b := third) (.tail (b := second) (.tail (b := first) (.tail (b := connected)
      (.tail .refl ⟨_, connects, ?_⟩) ⟨_, begins, ?_⟩) ⟨_, hears, ?_⟩) ⟨_, lists, ?_⟩)
      ⟨_, applies, ?_⟩
    · refine ⟨?_, ?_, ?_, ?_⟩
      · rintro _ ⟨⟩
      · rintro _ ⟨⟩
      · rintro _ _ ⟨⟩
      · rintro _ _ ⟨⟩
    · refine .of_isPullOf rfl ?_
      rintro _ _ ⟨⟩
    · exact .of_isPullOf rfl once
    · exact .of_isPullOf rfl once
    · exact .of_isPullOf rfl once
  obtain ⟨now, found, honoured⟩ :=
    @roster_agrees_with_records start last 0 0 made reached rfl rfl (by decide) rfl run
  have roster : now.roster = [⟨7, ⟨0⟩, 100, 2⟩] := by
    rw [← Option.some.inj ((rfl : last.coordinators.get? 0 = some _).symm.trans found)]
  refine ⟨last, now, found, roster, by decide, ?_⟩
  refine honoured (fun change changing => ?_) ⟨7, ⟨0⟩, 100, 2⟩ ?_
  · cases (rfl : last.pulls.get? 0 = none).symm.trans changing
  · rw [roster]
    exact List.mem_singleton_self _

end Tollgate
