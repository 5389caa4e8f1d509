import Tollgate.Proofs.RosterEffect

/-!
# Rosters that list a user more than once

Rosters are compared entry by entry, but users are taken away by their numbers. With several entries
for one user the two can disagree: a roster that *narrows* a user drops one of the old entries and
adds none, so that the user is taken away and not put in again (`Narrows`).

Unless that happens, every user of the roster that a coordinator remembers has a record with the caps
of one of the user's entries. `RosterView.Provides` is what holds of a user in the middle of a change
as well, and every move but the beginning of a narrowing change keeps it.
-/

namespace Tollgate

/-- A roster has an entry for a user. -/
def Lists (roster : List RosterUser) (id : UInt64) : Prop := ∃ entry ∈ roster, entry.id = id

instance (roster : List RosterUser) (id : UInt64) : Decidable (Lists roster id) :=
  inferInstanceAs (Decidable (∃ entry ∈ roster, entry.id = id))

/-- A user stays listed, with no entry that is new and one entry less. -/
structure Narrows (old new : List RosterUser) (id : UInt64) : Prop where
  listed : Lists new id
  known : ∀ entry ∈ new, entry.id = id → entry ∈ old
  lacks : ∃ was ∈ old, was ∉ new ∧ was.id = id

instance (old new : List RosterUser) (id : UInt64) : Decidable (Narrows old new id) :=
  decidable_of_iff
    (Lists new id ∧ (∀ entry ∈ new, entry.id = id → entry ∈ old) ∧
      ∃ was ∈ old, was ∉ new ∧ was.id = id)
    ⟨fun h => ⟨h.1, h.2.1, h.2.2⟩, fun h => ⟨h.listed, h.known, h.lacks⟩⟩

namespace Scope

variable {scope after : Scope} {old new roster : List RosterUser} {id : UInt64}

/-- The record of a user has the caps of one of the user's entries. -/
def HonoursOneOf (scope : Scope) (roster : List RosterUser) (id : UInt64) : Prop :=
  ∃ entry ∈ roster, entry.id = id ∧ scope.Honours entry

theorem HonoursOneOf.of_standing (h : scope.HonoursOneOf roster id)
    (kept : ∀ id caps, scope.standing? id = some caps → after.standing? id = some caps) :
    after.HonoursOneOf roster id := by
  obtain ⟨entry, member, own, honoured⟩ := h
  exact ⟨entry, member, own, honoured.of_standing kept⟩

/-- So there is a record. -/
theorem HonoursOneOf.record (h : scope.HonoursOneOf roster id) : scope.record? id ≠ none := by
  obtain ⟨entry, -, rfl, honoured⟩ := h
  obtain ⟨record, found, -⟩ := honoured.record
  rw [found]
  exact Option.some_ne_none record

/-- A user who is narrowed is taken away. -/
theorem record?_of_narrows (narrows : Narrows old new id) :
    (scope.performAll (RosterDiff.between old new).pieces).record? id = none := by
  have apart : ∀ entry ∈ new, entry ∉ old → scope.key entry.id ≠ scope.key id := by
    intro entry member isNew own
    exact isNew (narrows.known entry member (key_inj.1 own))
  obtain ⟨was, listed, isGone, own⟩ := narrows.lacks
  have left := holdings_of_not_added apart
  rw [if_pos ⟨was, listed, isGone, own ▸ rfl⟩] at left
  rw [record?, key_performAll]
  exact congrArg Holdings.record left

end Scope

/-! ### A user in the middle of a change -/

/-- A user of the roster to be is still to be put in, or has a record already and is not going to be
taken away. -/
structure RosterView.Provides (view : RosterView) (id : UInt64) : Prop where
  added : ∀ entry ∈ view.added, entry ∈ view.roster
  pending : Lists view.roster id → Lists view.added id ∨
    (¬ Lists view.removed id ∧ view.scope.HonoursOneOf view.roster id)

namespace RosterView.Provides

variable {view next : RosterView} {removed added old new roster : List RosterUser} {scope : Scope}
  {user : RosterUser} {id : UInt64}

/-- When no change is under way, whoever is listed has a record. -/
theorem finish (h : (settled roster scope).Provides id) (listed : Lists roster id) :
    scope.HonoursOneOf roster id := by
  rcases h.pending listed with ⟨entry, later, -⟩ | ⟨-, honoured⟩
  · cases later
  · exact honoured

/-- An entry that is new is put in. Without one, the entries of the user are the same in both rosters,
or the change narrows the user. -/
theorem begin (h : (settled old scope).Provides id) (wide : ¬ Narrows old new id) :
    Provides ⟨(RosterDiff.between old new).removed, (RosterDiff.between old new).added, new, scope⟩
      id := by
  refine ⟨fun entry member => (RosterDiff.mem_missing.1 member).1, fun listed => ?_⟩
  by_cases isNew : ∃ entry ∈ new, entry.id = id ∧ entry ∉ old
  · obtain ⟨entry, member, own, unknown⟩ := isNew
    exact Or.inl ⟨entry, RosterDiff.mem_missing.2 ⟨member, unknown⟩, own⟩
  · have known : ∀ entry ∈ new, entry.id = id → entry ∈ old := by
      intro entry member own
      by_contra unknown
      exact isNew ⟨entry, member, own, unknown⟩
    have spared : ∀ was ∈ old, was.id = id → was ∈ new := by
      intro was member own
      by_contra isGone
      exact wide ⟨listed, known, was, member, isGone, own⟩
    have wasListed : Lists old id := by
      obtain ⟨entry, member, own⟩ := listed
      exact ⟨entry, known entry member own, own⟩
    obtain ⟨was, member, own, honoured⟩ := h.finish wasListed
    refine Or.inr ⟨?_, was, spared was member own, own, honoured⟩
    rintro ⟨other, gone, own'⟩
    obtain ⟨other_old, isGone⟩ := RosterDiff.mem_missing.1 gone
    exact isGone (spared other other_old own')

theorem remove (h : Provides ⟨user :: removed, added, roster, scope⟩ id) :
    Provides ⟨removed, added, roster, scope.removeUser user.id⟩ id := by
  refine ⟨h.added, fun listed => (h.pending listed).imp_right ?_⟩
  rintro ⟨spared, entry, member, own, honoured⟩
  have other : user.id ≠ id := fun same => spared ⟨user, List.mem_cons_self, same⟩
  refine ⟨?_, entry, member, own, ?_⟩
  · rintro ⟨gone, later, same⟩
    exact spared ⟨gone, List.mem_cons_of_mem _ later, same⟩
  · rw [Scope.Honours, Scope.standing?_removeUser, if_neg (own ▸ other)]
    exact honoured

theorem insert (h : Provides ⟨[], user :: added, roster, scope⟩ id) :
    Provides ⟨[], added, roster, scope.insertUser user⟩ id := by
  have first := h.added user List.mem_cons_self
  refine ⟨fun entry later => h.added entry (List.mem_cons_of_mem _ later), fun listed => ?_⟩
  by_cases own : user.id = id
  · refine Or.inr ⟨?_, user, first, own, ?_⟩
    · rintro ⟨_, ⟨⟩, -⟩
    · rw [Scope.Honours, Scope.standing?_insertUser, if_pos rfl]
  · rcases h.pending listed with ⟨entry, later, same⟩ | ⟨spared, entry, member, same, honoured⟩
    · rcases List.mem_cons.1 later with rfl | later
      · exact absurd same own
      · exact Or.inl ⟨entry, later, same⟩
    · refine Or.inr ⟨spared, entry, member, same, ?_⟩
      rw [Scope.Honours, Scope.standing?_insertUser, if_neg (same ▸ own)]
      exact honoured

theorem move (h : view.Provides id)
    (move : RosterView.Move (fun old new => ¬ Narrows old new id) view next) : next.Provides id := by
  cases move with
  | keep kept =>
    refine ⟨h.added, fun listed => (h.pending listed).imp_right ?_⟩
    rintro ⟨spared, honoured⟩
    exact ⟨spared, honoured.of_standing kept⟩
  | begin follows => exact h.begin follows
  | remove => exact h.remove
  | insert => exact h.insert

theorem moves (h : view.Provides id)
    (moves : RosterView.Moves (fun old new => ¬ Narrows old new id) view next) :
    next.Provides id := by
  induction moves with
  | refl => exact h
  | tail _ last ih => exact ih.move last

end RosterView.Provides

/-! ### Runs -/

/-- Steps on which an activation lasts, nobody but one coordinator changes its roster, and no roster
that the coordinator takes over narrows a user. -/
structure NeverNarrows (id : UInt64) (c a : Nat) (node : Node) (event : Event) (next : Node) : Prop
    extends SoleOwner c a node event next where
  wide : ∀ now roster, node.coordinators.get? c = some now → node.TakesOver c event roster →
    ¬ Narrows now.roster roster id

theorem NeverNarrows.of_fetches {id : UInt64} {c a : Nat} {node next : Node} {event : Event}
    (h : Fetches c node event next) : NeverNarrows id c a node event next where
  toSoleOwner := .of_isPullOf h.1
  wide _ roster _ takes := absurd takes (h.2.2 roster)

/-- A roster that is taken over without an error, whatever the records were: whoever it narrows is
left without one, and any other of its users has the caps of one of its entries if the users of the
roster before had. -/
theorem Coordinator.honoursOneOf_applyFetched_iff {coordinator : Coordinator} {scope : Scope}
    {info : Option NodeInfo} {roster : List RosterUser} {rules : Option RuleSet} {id : UInt64}
    (provides : (RosterView.settled coordinator.roster scope).Provides id)
    (succeeds : (coordinator.applyFetched scope { node := info, roster := some roster, rules }).1 =
      .ok ()) (listed : Lists roster id) :
    ((coordinator.applyFetched scope { node := info, roster := some roster, rules }).2.2.HonoursOneOf
        roster id ↔ ¬ Narrows coordinator.roster roster id) ∧
      (Narrows coordinator.roster roster id →
        (coordinator.applyFetched scope
          { node := info, roster := some roster, rules }).2.2.record? id = none) := by
  have taken := @applyFetched_of_taken _ _ info _ rules (taken_of_applyFetched succeeds)
  have gone : Narrows coordinator.roster roster id → (coordinator.applyFetched scope
      { node := info, roster := some roster, rules }).2.2.record? id = none := by
    intro narrows
    rw [taken]
    have left := @Scope.record?_of_narrows (coordinator.applyNode scope info).2 _ _ _ narrows
    cases rules with
    | none => exact left
    | some rules => exact left
  refine ⟨⟨fun honoured narrows => honoured.record (gone narrows), fun wide => ?_⟩, gone⟩
  have follows : ∀ users, some roster = some users → ¬ Narrows coordinator.roster users id := by
    rintro users ⟨⟩
    exact wide
  have after := provides.moves
    (@moves_applyFetched coordinator scope _ ⟨info, some roster, rules⟩ follows).1
  rw [taken] at after ⊢
  exact after.finish listed

namespace Node

variable {start node : Node} {c a : Nat} {coordinator : Coordinator} {id : UInt64}

theorem WorksOn.provides_of_run (h : start.WorksOn c a coordinator)
    (provides : (start.rosterView c a coordinator).Provides id)
    (run : Run (NeverNarrows id c a) start node) :
    ∃ now, node.WorksOn c a now ∧ (node.rosterView c a now).Provides id := by
  induction run with
  | refl => exact ⟨coordinator, h, provides⟩
  | tail _ last ih =>
    obtain ⟨event, step, allowed⟩ := last
    obtain ⟨now, worksOn, provides⟩ := ih
    have wide (roster : List RosterUser) := allowed.wide now roster worksOn.found
    obtain ⟨later, worksOn', moves⟩ :=
      @WorksOn.step _ _ _ _ _ _ (fun old new => ¬ Narrows old new id) worksOn step
        allowed.toSoleOwner wide
    exact ⟨later, worksOn', provides.moves moves⟩

/-- A pull that ends without an error with a roster that lists the user. -/
theorem honoursOneOf_resumePull_iff {now : Coordinator} {plane : Collaborators}
    {info : Option NodeInfo} {roster : List RosterUser}
    (provides : (node.rosterView c a now).Provides id)
    (flight : node.pulls.get? c = some (.fetching (.fetchingRules a info (some roster))))
    (succeeds : (now.resumePull node.registry plane (.fetchingRules a info (some roster))).1 =
      .finished (.ok ()))
    (listed : Lists roster id) :
    let next := node.settlePull c
      (now.resumePull node.registry plane (.fetchingRules a info (some roster)))
    ((next.scope a).HonoursOneOf roster id ↔ ¬ Narrows now.roster roster id) ∧
      (Narrows now.roster roster id → (next.scope a).record? id = none) := by
  rw [rosterView_of_fetching flight] at provides
  simp only [scope, registry_settlePull, Coordinator.resumePull] at succeeds ⊢
  cases answered : plane.rules with
  | error e =>
    rw [answered] at succeeds
    cases succeeds
  | ok rules =>
    rw [answered] at succeeds
    simp only [Registry.scope_setScope, if_true]
    exact Coordinator.honoursOneOf_applyFetched_iff provides (Progress.finished.inj succeeds) listed

end Node

/-- While an activation lasts and nobody else changes its roster, and as long as no roster that is
taken over narrows a user: whenever the roster that the coordinator remembers lists the user, and no
change is under way, the user has a record with the caps of one of its entries. The next pull that
takes a roster over which lists the user leaves such a record exactly if that roster does not narrow
the user, and no record at all otherwise. -/
theorem listed_users_keep_records {start node : Node} {c a : Nat} {coordinator : Coordinator}
    {id : UInt64} (reached : Node.Run (fun _ _ _ => True) {} start)
    (created : start.coordinators.get? c = some coordinator) (fresh : coordinator.roster = [])
    (active : start.registry.active.get? coordinator.scope = some a)
    (idle : start.pulls.get? c = none) (run : Node.Run (NeverNarrows id c a) start node) :
    ∃ now, node.coordinators.get? c = some now ∧
      ((∀ change, node.pulls.get? c ≠ some (.changing change)) → Lists now.roster id →
        (node.scope a).HonoursOneOf now.roster id) ∧
      ∀ (next : Node) (plane : Collaborators) (info : Option NodeInfo) (roster : List RosterUser),
        node.pulls.get? c = some (.fetching (.fetchingRules a info (some roster))) →
        (now.resumePull node.registry plane (.fetchingRules a info (some roster))).1 =
          .finished (.ok ()) →
        next = node.settlePull c
          (now.resumePull node.registry plane (.fetchingRules a info (some roster))) →
        Lists roster id →
        node.Step (.resumePull c plane) next ∧
          ((next.scope a).HonoursOneOf roster id ↔ ¬ Narrows now.roster roster id) ∧
          (Narrows now.roster roster id → (next.scope a).record? id = none) := by
  have begun : start.WorksOn c a coordinator := by
    refine ⟨Node.active_lt_of_run reached active, created, active, fun stage flight => ?_⟩
    cases idle.symm.trans flight
  have empty : (start.rosterView c a coordinator).Provides id := by
    rw [Node.rosterView_of_free idle, fresh]
    refine ⟨?_, ?_⟩
    · rintro _ ⟨⟩
    · rintro ⟨_, ⟨⟩, -⟩
  obtain ⟨now, worksOn, provides⟩ := begun.provides_of_run empty run
  refine ⟨now, worksOn.found, ?_, ?_⟩
  · intro unchanging listed
    rw [Node.rosterView_of_unchanging unchanging] at provides
    exact provides.finish listed
  · rintro _ plane info roster flight succeeds rfl listed
    exact ⟨.resumePull worksOn.found flight plane,
      Node.honoursOneOf_resumePull_iff provides flight succeeds listed⟩

/-- A user is listed twice, then a roster comes that has one of the two entries and a new one. -/
theorem listed_users_keep_records_replaced :
    ∃ (start node next : Node) (now : Coordinator),
      Node.Run (NeverNarrows 7 0 0) start node ∧ node.coordinators.get? 0 = some now ∧
      now.roster = [⟨7, ⟨0⟩, 1000, 0⟩, ⟨7, ⟨0⟩, 2000, 0⟩] ∧
      node.Step
        (.resumePull 0 { roster := .ok (some [⟨7, ⟨0⟩, 3000, 0⟩, ⟨7, ⟨0⟩, 1000, 0⟩]) }) next ∧
      (next.scope 0).HonoursOneOf [⟨7, ⟨0⟩, 3000, 0⟩, ⟨7, ⟨0⟩, 1000, 0⟩] 7 := by
  let first : List RosterUser := [⟨7, ⟨0⟩, 1000, 0⟩, ⟨7, ⟨0⟩, 2000, 0⟩]
  let second : List RosterUser := [⟨7, ⟨0⟩, 3000, 0⟩, ⟨7, ⟨0⟩, 1000, 0⟩]
  let plane (roster : List RosterUser) : Collaborators := { roster := .ok (some roster) }
  let made : Coordinator :=
    { scope := "a"
      config := {}
      pullTask := { name := "roster-pull", intervalMs := 60000 }
      pushTask := { name := "traffic-push", intervalMs := 60000 } }
  let fetching := { made with phase := .fetching }
  let remembering := { made with roster := first }
  let refetching := { remembering with phase := .fetching }
  let active : Node := { registry := (({} : Registry).activate "a" {}).2 }
  let start : Node := { active with coordinators := active.coordinators.insert 0 made }
  let fetched := start.withPull 0 made (.fetchingRules 0 none (some first))
  let pulled := fetched.settlePull 0
    (fetching.resumePull fetched.registry (plane first) (.fetchingRules 0 none (some first)))
  let node := pulled.withPull 0 remembering (.fetchingRules 0 none (some second))
  have creates : active.Step (.coordinate 0 "a" {} false false) start := .coordinate rfl (by cbv)
  have reached : Node.Run (fun _ _ _ => True) {} start :=
    .tail (b := active) (.tail .refl ⟨_, .activate "a" {}, trivial⟩) ⟨_, creates, trivial⟩
  have fetches : Node.Run (Fetches 0) start fetched :=
    @Node.fetches_withPull start 0 0 made (plane first) _ _ rfl rfl (by decide) rfl rfl
  have applies : fetched.Step (.resumePull 0 (plane first)) pulled :=
    @Node.Step.resumePull fetched 0 fetching (.fetchingRules 0 none (some first)) rfl rfl _
  have refetches : Node.Run (Fetches 0) pulled node :=
    @Node.fetches_withPull pulled 0 0 remembering (plane second) _ _ rfl rfl (by decide) rfl rfl
  have fetchesOnly {before after : Node} (run : Node.Run (Fetches 0) before after) :
      Node.Run (NeverNarrows 7 0 0) before after := run.mono fun _ _ _ => .of_fetches
  have widens : NeverNarrows 7 0 0 fetched (.resumePull 0 (plane first)) pulled := by
    refine ⟨.of_isPullOf rfl, ?_⟩
    rintro now roster found ⟨_, _, _, _, -, -, flight⟩
    cases found
    cases flight
    decide
  have run : Node.Run (NeverNarrows 7 0 0) start node :=
    ((fetchesOnly fetches).tail ⟨_, applies, widens⟩).trans (fetchesOnly refetches)
  obtain ⟨now, found, -, pulls⟩ :=
    listed_users_keep_records reached (c := 0) (a := 0) rfl rfl (by decide) rfl run
  obtain rfl : refetching = now := Option.some.inj found
  obtain ⟨resumes, honoured, -⟩ := pulls _ (plane second) none second rfl rfl rfl (by decide)
  exact ⟨start, node, _, refetching, run, rfl, rfl, resumes, honoured.2 (by decide)⟩

/-- A user is listed twice and has the record of the second entry. The next roster has the first
entry only, and is pulled without an error. The user is left without a record. -/
theorem listed_user_forgotten :
    ∃ (node next : Node) (now later : Coordinator) (plane : Collaborators)
      (first second : RosterUser),
      first = ⟨7, ⟨0⟩, 1000, 0⟩ ∧ second = ⟨7, ⟨0⟩, 2000, 0⟩ ∧
      plane = { roster := .ok (some [first]) } ∧ Node.Run (fun _ _ _ => True) {} node ∧
      node.coordinators.get? 0 = some now ∧ now.roster = [first, second] ∧
      (node.scope 0).isOpen = true ∧ (node.scope 0).Honours second ∧
      node.pulls.get? 0 = some (.fetching (.fetchingRules 0 none (some [first]))) ∧
      node.Step (.resumePull 0 plane) next ∧
      (now.resumePull node.registry plane (.fetchingRules 0 none (some [first]))).1 =
        .finished (.ok ()) ∧
      next = node.settlePull 0
        (now.resumePull node.registry plane (.fetchingRules 0 none (some [first]))) ∧
      next.coordinators.get? 0 = some later ∧ later.roster = [first] ∧
      (next.scope 0).record? 7 = none := by
  let first : RosterUser := ⟨7, ⟨0⟩, 1000, 0⟩
  let second : RosterUser := ⟨7, ⟨0⟩, 2000, 0⟩
  let plane (roster : List RosterUser) : Collaborators := { roster := .ok (some roster) }
  let made : Coordinator :=
    { scope := "a"
      config := {}
      pullTask := { name := "roster-pull", intervalMs := 60000 }
      pushTask := { name := "traffic-push", intervalMs := 60000 } }
  let fetching := { made with phase := .fetching }
  let remembering := { made with roster := [first, second] }
  let refetching := { remembering with phase := .fetching }
  let active : Node := { registry := (({} : Registry).activate "a" {}).2 }
  let start : Node := { active with coordinators := active.coordinators.insert 0 made }
  let fetched := start.withPull 0 made (.fetchingRules 0 none (some [first, second]))
  let pulled := fetched.settlePull 0 (fetching.resumePull fetched.registry (plane [first, second])
    (.fetchingRules 0 none (some [first, second])))
  let node := pulled.withPull 0 remembering (.fetchingRules 0 none (some [first]))
  let next := node.settlePull 0 (refetching.resumePull node.registry (plane [first])
    (.fetchingRules 0 none (some [first])))
  have creates : active.Step (.coordinate 0 "a" {} false false) start := .coordinate rfl (by cbv)
  have fetches : Node.Run (Fetches 0) start fetched :=
    @Node.fetches_withPull start 0 0 made (plane [first, second]) _ _ rfl rfl (by decide) rfl rfl
  have applies : fetched.Step (.resumePull 0 (plane [first, second])) pulled :=
    @Node.Step.resumePull fetched 0 fetching (.fetchingRules 0 none (some [first, second])) rfl rfl _
  have refetches : Node.Run (Fetches 0) pulled node :=
    @Node.fetches_withPull pulled 0 0 remembering (plane [first]) _ _ rfl rfl (by decide) rfl rfl
  have reapplies : node.Step (.resumePull 0 (plane [first])) next :=
    @Node.Step.resumePull node 0 refetching (.fetchingRules 0 none (some [first])) rfl rfl _
  have anyway {before after : Node} (run : Node.Run (Fetches 0) before after) :
      Node.Run (fun _ _ _ => True) before after := run.mono fun _ _ _ _ => trivial
  have run : Node.Run (fun _ _ _ => True) {} node := by
    have begun : Node.Run (fun _ _ _ => True) {} start :=
      .tail (b := active) (.tail .refl ⟨_, .activate "a" {}, trivial⟩) ⟨_, creates, trivial⟩
    exact ((begun.trans (anyway fetches)).tail ⟨_, applies, trivial⟩).trans (anyway refetches)
  refine ⟨node, next, refetching, { made with roster := [first] }, plane [first], first, second, rfl,
    rfl, rfl, run, rfl, rfl, ?_, ?_, rfl, reapplies, ?_, rfl, ?_, rfl, ?_⟩
  · decide
  · show (pulled.scope 0).standing? 7 = some (2000, 0)
    decide
  · rfl
  · rfl
  · decide

end Tollgate
