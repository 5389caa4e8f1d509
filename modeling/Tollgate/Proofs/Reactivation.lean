import Tollgate.Proofs.RosterAgreement
import Tollgate.Proofs.Throttle

/-!
# Rosters and scopes that are activated again

A coordinator finds its scope by name and changes its roster by the difference to the one that it
remembers. Where the scope was activated again in between, the records are gone and the roster is
remembered, so the difference names only the users who are new since. What becomes of a user is what
`Scope.honours_between_iff` says: who is new gets the record of the roster, and anybody else keeps
what is there, which is nothing in a scope that was just activated.
-/

namespace Tollgate

instance (roster : List RosterUser) : Decidable (DistinctUsers roster) :=
  inferInstanceAs (Decidable (roster.map (·.id)).Nodup)

/-- No entry of an old roster that a new one lacks has the number of the user. -/
def RosterUser.IsSpared (user : RosterUser) (old new : List RosterUser) : Prop :=
  ∀ other ∈ old, other ∉ new → other.id ≠ user.id

namespace Scope

variable {scope : Scope}

/-! ### What a difference makes of a user -/

theorem standing?_removeAll (removed : List RosterUser) (id : UInt64) :
    (scope.performAll (removed.map fun user => .removeUser user.id)).standing? id =
      if removed.any (·.id = id) then none else scope.standing? id := by
  induction removed generalizing scope with
  | nil => rfl
  | cons user rest ih =>
    rw [List.map_cons, performAll_cons, ih]
    show (if _ then none else (scope.removeUser user.id).standing? id) = _
    rw [standing?_removeUser]
    by_cases own : user.id = id
    · simp [own]
    · simp [own]

theorem standing?_insertAll {added : List RosterUser} {id : UInt64}
    (apart : ∀ entry ∈ added, entry.id ≠ id) :
    (scope.performAll (added.map .insertUser)).standing? id = scope.standing? id := by
  induction added generalizing scope with
  | nil => rfl
  | cons entry rest ih =>
    have apart' : ∀ later ∈ rest, later.id ≠ id :=
      fun later member => apart later (List.mem_cons_of_mem _ member)
    rw [List.map_cons, performAll_cons, ih apart']
    show (scope.insertUser entry).standing? id = _
    rw [standing?_insertUser, if_neg (apart entry List.mem_cons_self)]

/-- Who is new is added, and has the record of the roster then. -/
theorem honours_of_new {old new : List RosterUser} (distinct : DistinctUsers new)
    {user : RosterUser} (member : user ∈ new) (isNew : user ∉ old) :
    (scope.performAll (RosterDiff.between old new).pieces).Honours user := by
  have added : user ∈ (RosterDiff.between old new).added :=
    RosterDiff.mem_missing.2 ⟨member, isNew⟩
  have course : OnCourse scope (RosterDiff.between old new).removed
      (RosterDiff.between old new).added (new.filter (· ∉ old)) := by
    refine ⟨?_, ?_, ?_⟩
    · exact distinct.sublist (List.filter_sublist.map _)
    · intro other listed
      obtain ⟨other_new, unknown⟩ := RosterDiff.mem_missing.1 listed
      exact List.mem_filter.2 ⟨other_new, by simpa using unknown⟩
    · intro other listed
      obtain ⟨other_new, unknown⟩ := List.mem_filter.1 listed
      exact Or.inl (RosterDiff.mem_missing.2 ⟨other_new, by simpa using unknown⟩)
  exact course.performAll user (course.listed user added)

/-- Who is not new keeps what there is, unless somebody with the same number is removed. -/
theorem standing?_of_known {old new : List RosterUser} (distinct : DistinctUsers new)
    {user : RosterUser} (member : user ∈ new) (known : user ∈ old) :
    (scope.performAll (RosterDiff.between old new).pieces).standing? user.id =
      if (RosterDiff.between old new).removed.any (·.id = user.id) then none
      else scope.standing? user.id := by
  -- An entry that is added for the same number would be the same entry, which is not new.
  have apart : ∀ entry ∈ (RosterDiff.between old new).added, entry.id ≠ user.id := by
    intro entry added same
    obtain ⟨entry_new, unknown⟩ := RosterDiff.mem_missing.1 added
    rw [distinct.eq_of_id_eq entry_new member same] at unknown
    exact unknown known
  rw [RosterDiff.pieces, performAll_append, standing?_insertAll apart, standing?_removeAll]

/-- The difference between two rosters, taken over in any scope, makes it honour the users of the new
one who are not in the old one. All others are honoured only where they were already, and nobody with
their number is removed. -/
theorem honours_between_iff {old new : List RosterUser} (distinct : DistinctUsers new)
    {user : RosterUser} (member : user ∈ new) :
    (scope.performAll (RosterDiff.between old new).pieces).Honours user ↔
      user ∉ old ∨ (scope.Honours user ∧ user.IsSpared old new) := by
  by_cases known : user ∈ old
  · have after := @standing?_of_known scope _ _ distinct _ member known
    have spared_iff : (RosterDiff.between old new).removed.any (·.id = user.id) = false ↔
        user.IsSpared old new := by
      rw [List.any_eq_false]
      constructor
      · intro spared other was isNot
        simpa using spared other (RosterDiff.mem_missing.2 ⟨was, isNot⟩)
      · intro spared other gone
        obtain ⟨was, isNot⟩ := RosterDiff.mem_missing.1 gone
        simpa using spared other was isNot
    rw [Honours, after, ← spared_iff]
    cases (RosterDiff.between old new).removed.any (·.id = user.id) with
    | false => simp [known, Honours]
    | true => simp [known]
  · exact ⟨fun _ => Or.inl known, fun _ => honours_of_new distinct member known⟩

end Scope

/-! ### What a pull takes over -/

namespace Coordinator

variable {coordinator : Coordinator} {scope : Scope}

@[simp] theorem isOpen_applyNode (info : Option NodeInfo) :
    (coordinator.applyNode scope info).2.isOpen = scope.isOpen := by
  cases info <;> rfl

/-- An open scope takes over all that was fetched, and so does a closed one whose roster is the same.
-/
theorem applyFetched_of_taken {info : Option NodeInfo} {roster : List RosterUser}
    {rules : Option RuleSet}
    (taken : (RosterDiff.between coordinator.roster roster).isEmpty = true ∨ scope.isOpen = true) :
    coordinator.applyFetched scope { node := info, roster := some roster, rules } =
      (.ok (), { (coordinator.applyNode scope info).1 with roster },
        applyRules
          ((coordinator.applyNode scope info).2.performAll
            (RosterDiff.between coordinator.roster roster).pieces) rules) := by
  have same := (@applyNode_keeps coordinator scope info).1
  rw [← same, ← @isOpen_applyNode coordinator scope info] at taken
  unfold applyFetched
  dsimp only
  rw [applyRoster_of_taken taken, same]

theorem applyFetched_of_open (isOpen : scope.isOpen = true) (info : Option NodeInfo)
    (roster : List RosterUser) (rules : Option RuleSet) :
    coordinator.applyFetched scope { node := info, roster := some roster, rules } =
      (.ok (), { (coordinator.applyNode scope info).1 with roster },
        applyRules
          ((coordinator.applyNode scope info).2.performAll
            (RosterDiff.between coordinator.roster roster).pieces) rules) :=
  applyFetched_of_taken (Or.inr isOpen)

/-- What is taken over without an error was not refused. -/
theorem taken_of_applyFetched {info : Option NodeInfo} {roster : List RosterUser}
    {rules : Option RuleSet}
    (succeeds : (coordinator.applyFetched scope { node := info, roster := some roster, rules }).1 =
      .ok ()) :
    (RosterDiff.between coordinator.roster roster).isEmpty = true ∨ scope.isOpen = true := by
  by_contra refused
  have same := (@applyNode_keeps coordinator scope info).1
  rw [not_or, Bool.not_eq_true, Bool.not_eq_true, ← same,
    ← @isOpen_applyNode coordinator scope info] at refused
  unfold applyFetched at succeeds
  dsimp only at succeeds
  rw [applyRoster_of_refused refused.1 refused.2] at succeeds
  cases succeeds

theorem honours_applyFetched_iff (isOpen : scope.isOpen = true) {info : Option NodeInfo}
    {roster : List RosterUser} {rules : Option RuleSet} (distinct : DistinctUsers roster)
    {user : RosterUser} (member : user ∈ roster) :
    (coordinator.applyFetched scope { node := info, roster := some roster, rules }).2.2.Honours
        user ↔
      user ∉ coordinator.roster ∨ (scope.Honours user ∧ user.IsSpared coordinator.roster roster) := by
  rw [applyFetched_of_open isOpen, Scope.Honours, standing?_applyRules]
  have taken := @Scope.honours_between_iff (coordinator.applyNode scope info).2
    coordinator.roster roster distinct user member
  rw [Scope.Honours, Scope.Honours, standing?_applyNode] at taken
  exact taken

end Coordinator

/-! ### Scopes that are activated -/

namespace Scope

variable {scope : Scope} {id : UInt64}

/-- The record of a user, if there is one, has no caps of a roster. -/
def IsUncapped (scope : Scope) (id : UInt64) : Prop :=
  ∀ record, scope.record? id = some record → record.standing = (0, 0)

theorem isUncapped_activate (name : String) (config : ScopeConfig) :
    (activate name config).IsUncapped id :=
  fun _ found => nomatch found

/-- Records that are not made by a change of the roster have no caps of a roster. -/
theorem IsUncapped.perform (h : scope.IsUncapped id) {operation : Operation}
    (still : operation.changesRoster = false) : (scope.perform operation).IsUncapped id := by
  have single : operation.isRosterDiff = false := by
    cases operation with
    | applyRosterDiff diff => cases still
    | _ => rfl
  have start : ∀ record, (scope.throttle id).record = some record → record.standing = (0, 0) := h
  refine throttle_induction (motive := fun throttle => ∀ record, throttle.record = some record →
    record.standing = (0, 0)) single start ?_
  intro before after step uncapped
  cases step with
  | connected unknown =>
    intro record found
    obtain rfl := Option.some.inj found
    rfl
  | enlisted own => cases still
  | @reduced now entries record listed known cap =>
    intro record' found
    obtain rfl := Option.some.inj found
    exact h record known
  | expired looks found =>
    intro record' found'
    obtain ⟨record, known, rfl⟩ := Option.map_eq_some_iff.1 found'
    exact h record known
  | removed => cases still
  | tornDown => cases still
  | released offline => exact h
  | issued current made => exact uncapped
  | used inUse same => exact h

/-- Without caps of a roster, a user of a roster is honoured by any record if the roster has no caps
for it either, and else not. -/
theorem IsUncapped.honours_iff {user : RosterUser} (h : scope.IsUncapped user.id) :
    scope.Honours user ↔
      (scope.record? user.id).isSome ∧ user.speedLimit = 0 ∧ user.deviceLimit = 0 := by
  have standing : scope.standing? user.id = (scope.record? user.id).map (·.standing) := rfl
  rw [Honours, standing]
  cases found : scope.record? user.id with
  | none => simp
  | some record =>
    rw [Option.map_some, h record found]
    simp [eq_comm]

end Scope

/-- Steps on which nobody changes the roster of an activation. -/
def KeepsRoster (a : Nat) (node : Node) (_ : Event) (next : Node) : Prop :=
  (node.scope a).Evolves (·.changesRoster = false) (next.scope a)

/-- Steps of a coordinator's pull that only fetch. -/
def Fetches (c : Nat) (node : Node) (event : Event) (next : Node) : Prop :=
  event.isPullOf c = true ∧ next.registry = node.registry ∧
    ∀ roster, ¬ node.TakesOver c event roster

namespace Node

variable {node : Node} {a : Nat}

theorem isUncapped_of_run {start : Node} (run : Run (KeepsRoster a) start node) {id : UInt64}
    (uncapped : (start.scope a).IsUncapped id) : (node.scope a).IsUncapped id := by
  induction run with
  | refl => exact uncapped
  | tail _ last ih =>
    obtain ⟨_, _, operations, after, still⟩ := last
    rw [after]
    exact Scope.performAll_induction (motive := fun s => s.IsUncapped id) ih
      fun _ operation member holds => holds.perform (still operation member)

/-- A name that is free is activated with a scope of its own. -/
theorem scope_of_activated {off started : Node} {name : String} {config : ScopeConfig}
    (inactive : off.registry.active.get? name = none)
    (activated : off.Step (.activate name config) started) :
    started.scope off.registry.nextActivation = Scope.activate name config := by
  cases activated with
  | activate =>
    have free : off.registry.active.contains name = false := by simp [Table.contains, inactive]
    show (off.registry.activate name config).2.scope off.registry.nextActivation = _
    rw [Registry.activate, if_neg (by simp [free])]
    exact (Registry.scope_setScope _ _ _).trans (if_pos rfl)

/-- The node with a pull of a coordinator at one of its fetches. -/
def withPull (node : Node) (c : Nat) (now : Coordinator) (cycle : PullCycle) : Node :=
  { node with
    coordinators := node.coordinators.insert c { now with phase := .fetching }
    pulls := node.pulls.insert c (.fetching cycle) }

section Fetching

variable {c : Nat} {now : Coordinator} {cycle : PullCycle}

theorem coordinator_withPull :
    (node.withPull c now cycle).coordinators.get? c = some { now with phase := .fetching } :=
  Table.get?_insert_self _ _ _

theorem pull_withPull : (node.withPull c now cycle).pulls.get? c = some (.fetching cycle) :=
  Table.get?_insert_self _ _ _

theorem begins_withPull (found : node.coordinators.get? c = some now)
    (free : node.pulls.get? c = none) (active : node.registry.find now.scope = .ok a) :
    node.Step (.beginPull c) (node.withPull c now (.fetchingNode a)) := by
  have begins := Step.beginPull found free
  rw [Coordinator.beginPull, active] at begins
  exact begins

/-- A pull that goes on from one fetch to the next. -/
theorem resumes_withPull {plane : Collaborators} {later : PullCycle}
    (calls : { now with phase := .fetching }.resumePull node.registry plane cycle =
      (.calling later, { now with phase := .fetching }, node.registry)) :
    (node.withPull c now cycle).Step (.resumePull c plane) (node.withPull c now later) := by
  have resumes := @Step.resumePull (node.withPull c now cycle) c _ _ coordinator_withPull
    pull_withPull plane
  have calls' : { now with phase := .fetching }.resumePull (node.withPull c now cycle).registry plane
      cycle = _ := calls
  rw [calls'] at resumes
  simp only [settlePull, withPull, Table.insert_insert] at resumes
  exact resumes

/-- A pull is asked for and told a roster, with nothing else in between. -/
theorem fetches_withPull {plane : Collaborators} {info : Option NodeInfo}
    {roster : Option (List RosterUser)} (found : node.coordinators.get? c = some now)
    (free : node.pulls.get? c = none) (active : node.registry.find now.scope = .ok a)
    (told : plane.node = .ok info) (listed : plane.roster = .ok roster) :
    Run (Fetches c) node (node.withPull c now (.fetchingRules a info roster)) := by
  have begins := begins_withPull found free active
  have hears : (node.withPull c now (.fetchingNode a)).Step (.resumePull c plane)
      (node.withPull c now (.fetchingRoster a info)) :=
    resumes_withPull (by rw [Coordinator.resumePull, told])
  have lists : (node.withPull c now (.fetchingRoster a info)).Step (.resumePull c plane)
      (node.withPull c now (.fetchingRules a info roster)) :=
    resumes_withPull (by rw [Coordinator.resumePull, listed])
  -- only the last fetch is followed by a roster that is taken over
  have early {cycle : PullCycle} {event : Event} {users : List RosterUser}
      (before : ∀ b info', cycle ≠ .fetchingRules b info' (some users)) :
      ¬ (node.withPull c now cycle).TakesOver c event users := by
    rintro ⟨_, _, b, info', -, -, flight⟩
    cases pull_withPull.symm.trans flight
    exact before b info' rfl
  refine .tail (.tail (.tail .refl ⟨_, begins, ?_⟩) ⟨_, hears, ?_⟩) ⟨_, lists, ?_⟩
  · refine ⟨decide_eq_true rfl, rfl, ?_⟩
    rintro _ ⟨_, _, _, _, -, -, flight⟩
    cases free.symm.trans flight
  · refine ⟨decide_eq_true rfl, rfl, fun _ => early ?_⟩
    rintro _ _ ⟨⟩
  · refine ⟨decide_eq_true rfl, rfl, fun _ => early ?_⟩
    rintro _ _ ⟨⟩

/-- While a pull fetches, no scope changes. -/
theorem run_withPull (b : Nat) {plane : Collaborators} {info : Option NodeInfo}
    {roster : Option (List RosterUser)} (found : node.coordinators.get? c = some now)
    (free : node.pulls.get? c = none) (active : node.registry.find now.scope = .ok a)
    (told : plane.node = .ok info) (listed : plane.roster = .ok roster) :
    Run (KeepsRoster b) node (node.withPull c now (.fetchingRules a info roster)) := by
  refine Run.mono ?_ (fetches_withPull found free active told listed)
  rintro before event after ⟨-, same, -⟩
  rw [KeepsRoster, scope, scope, same]
  exact .refl

end Fetching

end Node

/-- A pull that has fetched a roster with an entry for each user is taken over by an open scope. It
honours every user who is not in the roster that the coordinator remembers; any other user only if it
did before, and nobody with the user's number is removed. Where the scope was activated and nobody
has changed its roster since, that is a user who got a record by a connection and for whom the roster
has no caps. -/
theorem reactivated_roster_honoured_iff {node next : Node} {c a : Nat} {now : Coordinator}
    {info : Option NodeInfo} {roster : List RosterUser} {rules : Option RuleSet}
    {plane : Collaborators} (found : node.coordinators.get? c = some now)
    (flight : node.pulls.get? c = some (.fetching (.fetchingRules a info (some roster))))
    (answered : plane.rules = .ok rules) (isOpen : (node.scope a).isOpen = true)
    (distinct : DistinctUsers roster)
    (last : next = node.settlePull c
      (now.resumePull node.registry plane (.fetchingRules a info (some roster)))) :
    node.Step (.resumePull c plane) next ∧
    (now.resumePull node.registry plane (.fetchingRules a info (some roster))).1 =
      .finished (.ok ()) ∧
    (∀ user ∈ roster, (next.scope a).Honours user ↔
      user ∉ now.roster ∨ ((node.scope a).Honours user ∧ user.IsSpared now.roster roster)) ∧
    ∀ (off started : Node) (config : ScopeConfig), off.registry.active.get? now.scope = none →
      off.Step (.activate now.scope config) started → a = off.registry.nextActivation →
      Node.Run (KeepsRoster a) started node →
      ∀ user ∈ roster, (next.scope a).Honours user ↔
        user ∉ now.roster ∨
          (((node.scope a).record? user.id).isSome ∧ user.speedLimit = 0 ∧ user.deviceLimit = 0) ∧
            user.IsSpared now.roster roster := by
  have general : ∀ user ∈ roster, (next.scope a).Honours user ↔
      user ∉ now.roster ∨ ((node.scope a).Honours user ∧ user.IsSpared now.roster roster) := by
    intro user member
    have taken := @Coordinator.honours_applyFetched_iff now _ isOpen info _ rules distinct _ member
    have after : next.scope a =
        (now.applyFetched (node.scope a) { node := info, roster := some roster, rules }).2.2 := by
      rw [last, Node.scope, Node.registry_settlePull]
      simp only [Coordinator.resumePull, answered]
      exact (Registry.scope_setScope _ _ _).trans (if_pos rfl)
    rw [after]
    exact taken
  refine ⟨last ▸ .resumePull found flight plane, ?_, general, ?_⟩
  · have taken : now.applyFetched (node.registry.scope a) ⟨info, some roster, rules⟩ = _ :=
      Coordinator.applyFetched_of_open isOpen info roster rules
    simp only [Coordinator.resumePull, answered, taken]
    rfl
  · intro off started config inactive activated here run user member
    have fresh : (started.scope a).IsUncapped user.id := by
      rw [here, Node.scope_of_activated inactive activated]
      exact Scope.isUncapped_activate now.scope config
    rw [general user member, (Node.isUncapped_of_run run fresh).honours_iff]

/-- A coordinator remembers a user from before and finds the scope activated again. A new user of the
roster is honoured then, and the one from before is not. -/
theorem reactivated_roster_honoured_new :
    ∃ (off started node next : Node) (now : Coordinator),
      off.registry.active.get? "a" = none ∧ off.coordinators.get? 0 = some now ∧
      now.roster = [⟨7, ⟨0⟩, 1000, 2⟩] ∧ off.Step (.activate "a" {}) started ∧
      Node.Run (KeepsRoster 1) started node ∧
      node.Step (.resumePull 0 { roster := .ok (some [⟨7, ⟨0⟩, 1000, 2⟩, ⟨8, ⟨0⟩, 500, 0⟩]) }) next ∧
      (next.scope 1).Honours ⟨8, ⟨0⟩, 500, 0⟩ ∧ ¬ (next.scope 1).Honours ⟨7, ⟨0⟩, 1000, 2⟩ := by
  let roster : List RosterUser := [⟨7, ⟨0⟩, 1000, 2⟩, ⟨8, ⟨0⟩, 500, 0⟩]
  let plane : Collaborators := { roster := .ok (some roster) }
  let now : Coordinator :=
    { scope := "a"
      config := {}
      roster := [⟨7, ⟨0⟩, 1000, 2⟩]
      pullTask := { name := "roster-pull", intervalMs := 60000 }
      pushTask := { name := "traffic-push", intervalMs := 60000 } }
  let off : Node :=
    { registry := ((({} : Registry).activate "a" {}).2.deactivate "a").2
      coordinators := .insert .empty 0 now }
  let started : Node := { off with registry := (off.registry.activate "a" {}).2 }
  let node := started.withPull 0 now (.fetchingRules 1 none (some roster))
  have activates : off.Step (.activate "a" {}) started := .activate "a" {}
  have active : started.registry.find now.scope = .ok 1 := by decide
  have run : Node.Run (KeepsRoster 1) started node :=
    @Node.run_withPull started 1 0 now 1 plane _ _ rfl rfl active rfl rfl
  have found : node.coordinators.get? 0 = some { now with phase := .fetching } := rfl
  have answered : plane.rules = .ok none := rfl
  have isOpen : (node.scope 1).isOpen = true := by decide
  obtain ⟨resumes, -, -, honoured⟩ :=
    reactivated_roster_honoured_iff found rfl answered isOpen (by decide) rfl
  have honoured := honoured off started {} (by decide) activates (by decide) run
  refine ⟨off, started, node, _, now, by decide, rfl, rfl, activates, run, resumes, ?_, ?_⟩
  · refine (honoured ⟨8, ⟨0⟩, 500, 0⟩ (by decide)).2 (Or.inl ?_)
    decide
  · intro still
    rcases (honoured ⟨7, ⟨0⟩, 1000, 2⟩ (by decide)).1 still with unknown | ⟨⟨-, uncapped, -⟩, -⟩
    · exact unknown (List.mem_singleton_self _)
    · revert uncapped
      decide

/-- A roster is taken over, the scope is deactivated and activated again, and the same roster is
pulled without an error. The scope is left without a record of its user. -/
theorem reactivated_roster_forgotten :
    ∃ (pulled off started node next : Node) (fetching now : Coordinator) (plane : Collaborators)
      (user : RosterUser),
      user = ⟨7, ⟨0⟩, 1000, 2⟩ ∧ plane = { roster := .ok (some [user]) } ∧
      Node.Run (fun _ _ _ => True) {} pulled ∧ pulled.pulls.get? 0 = none ∧
      (pulled.scope 0).Honours user ∧ pulled.Step (.deactivate "a") off ∧
      off.Step (.activate "a" {}) started ∧ Node.Run (KeepsRoster 1) started node ∧
      node.coordinators.get? 0 = some fetching ∧
      next = node.settlePull 0
        (fetching.resumePull node.registry plane (.fetchingRules 1 none (some [user]))) ∧
      node.Step (.resumePull 0 plane) next ∧
      (fetching.resumePull node.registry plane (.fetchingRules 1 none (some [user]))).1 =
        .finished (.ok ()) ∧
      next.coordinators.get? 0 = some now ∧ now.roster = [user] ∧
      (next.scope 1).record? 7 = none := by
  let user : RosterUser := ⟨7, ⟨0⟩, 1000, 2⟩
  let plane : Collaborators := { roster := .ok (some [user]) }
  let made : Coordinator :=
    { scope := "a"
      config := {}
      pullTask := { name := "roster-pull", intervalMs := 60000 }
      pushTask := { name := "traffic-push", intervalMs := 60000 } }
  let fetching := { made with phase := .fetching }
  let active : Node := { registry := (({} : Registry).activate "a" {}).2 }
  let start : Node := { active with coordinators := active.coordinators.insert 0 made }
  let fetched := start.withPull 0 made (.fetchingRules 0 none (some [user]))
  let pulled := fetched.settlePull 0
    (fetching.resumePull fetched.registry plane (.fetchingRules 0 none (some [user])))
  let remembering := { made with roster := [user] }
  let refetching := { remembering with phase := .fetching }
  let off : Node := { pulled with registry := (pulled.registry.deactivate "a").2 }
  let started : Node := { off with registry := (off.registry.activate "a" {}).2 }
  let node := started.withPull 0 remembering (.fetchingRules 1 none (some [user]))
  let next := node.settlePull 0
    (refetching.resumePull node.registry plane (.fetchingRules 1 none (some [user])))
  have creates : active.Step (.coordinate 0 "a" {} false false) start := .coordinate rfl (by cbv)
  have known : start.registry.find made.scope = .ok 0 := by decide
  have fetches : Node.Run (KeepsRoster 0) start fetched :=
    @Node.run_withPull start 0 0 made 0 plane _ _ rfl rfl known rfl rfl
  have applies : fetched.Step (.resumePull 0 plane) pulled :=
    @Node.Step.resumePull fetched 0 fetching (.fetchingRules 0 none (some [user])) rfl rfl plane
  have run : Node.Run (fun _ _ _ => True) {} pulled := by
    have first : Node.Run (fun _ _ _ => True) {} start :=
      .tail (b := active) (.tail .refl ⟨_, .activate "a" {}, trivial⟩) ⟨_, creates, trivial⟩
    have second : Node.Run (fun _ _ _ => True) start fetched :=
      Relation.ReflTransGen.mono (fun _ _ step => step.imp fun _ h => ⟨h.1, trivial⟩) _ _ fetches
    exact (first.trans second).tail ⟨_, applies, trivial⟩
  have deactivates : pulled.Step (.deactivate "a") off := by
    refine .deactivate ?_
    have idle : pulled.pulls = .empty := rfl
    rintro a - ⟨c, change, flight, -⟩
    rw [idle] at flight
    cases flight
  have found : started.registry.find remembering.scope = .ok 1 := by decide
  have rerun : Node.Run (KeepsRoster 1) started node :=
    @Node.run_withPull started 1 0 remembering 1 plane _ _ rfl rfl found rfl rfl
  have reapplies : node.Step (.resumePull 0 plane) next :=
    @Node.Step.resumePull node 0 refetching (.fetchingRules 1 none (some [user])) rfl rfl plane
  refine ⟨pulled, off, started, node, next, refetching, remembering, plane, user, rfl, rfl, run, ?_,
    ?_, deactivates, .activate "a" {}, rerun, rfl, rfl, reapplies, ?_, rfl, rfl, ?_⟩
  · rfl
  · show (pulled.scope 0).standing? 7 = some (1000, 2)
    decide
  · rfl
  · decide

end Tollgate
