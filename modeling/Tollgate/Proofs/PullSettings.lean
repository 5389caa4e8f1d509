import Tollgate.Proofs.Reactivation

/-!
# The settings that pulls supply

What a pull sets, in the scope and in the coordinator, is set by nothing that belongs to the data
path and by no change of the roster. An open scope takes over all that was fetched
(`Coordinator.settings_applyFetched`), each part as far as the control plane had something to say
about it. So after any sequence of pulls every part is the latest that was supplied
(`PullSettings.supplied`).
-/

namespace Tollgate

/-! ### Settings -/

/-- The last value that was supplied, or else the initial one. -/
def latest {α : Type} (initial : α) (given : List (Option α)) : α :=
  (given.filterMap id).getLastD initial

theorem latest_concat {α : Type} (initial : α) (given : List (Option α)) (last : Option α) :
    latest initial (given ++ [last]) = last.getD (latest initial given) := by
  cases last with
  | none => simp [latest]
  | some value => simp [latest]

/-- All that pulls set, in a scope and in its coordinator. -/
structure PullSettings where
  limits : NodeLimits
  dynamicLimit : Option DynamicLimit
  rules : CompiledRules Pattern
  roster : List RosterUser
  pullMs : Nat
  pushMs : Nat

namespace PullSettings

/-- The settings that a coordinator and its scope have. -/
def of (coordinator : Coordinator) (scope : Scope) : PullSettings where
  limits := scope.limits
  dynamicLimit := scope.escalator.config
  rules := scope.rules
  roster := coordinator.roster
  pullMs := coordinator.pullTask.intervalMs
  pushMs := coordinator.pushTask.intervalMs

/-- The interval in milliseconds that a number of seconds sets, if it sets one. -/
def intervalMs? (config : CoordinatorConfig) (secs : UInt64) : Option Nat :=
  if 0 < secs then
    some (min (max secs.toNat config.minIntervalSecs.toNat * 1000) (UInt64.size - 1))
  else none

/-- Of each part the latest that pulls have supplied, or else the initial one. -/
def supplied (initial : PullSettings) (config : CoordinatorConfig) (taken : List Fetched) :
    PullSettings where
  limits := latest initial.limits (taken.map fun fetched => fetched.node.map (·.limits))
  dynamicLimit :=
    latest initial.dynamicLimit (taken.map fun fetched => fetched.node.map (·.dynamicLimit))
  rules := latest initial.rules
    (taken.map fun fetched => fetched.rules.map (CompiledRules.compile Pattern.language))
  roster := latest initial.roster (taken.map (·.roster))
  pullMs := latest initial.pullMs
    (taken.map fun fetched => fetched.node.bind (intervalMs? config ·.pullIntervalSecs))
  pushMs := latest initial.pushMs
    (taken.map fun fetched => fetched.node.bind (intervalMs? config ·.pushIntervalSecs))

/-- The settings with what was said about the node. -/
def takeNode (settings : PullSettings) (config : CoordinatorConfig) (info : Option NodeInfo) :
    PullSettings :=
  { settings with
    limits := (info.map (·.limits)).getD settings.limits
    dynamicLimit := (info.map (·.dynamicLimit)).getD settings.dynamicLimit
    pullMs := (info.bind (intervalMs? config ·.pullIntervalSecs)).getD settings.pullMs
    pushMs := (info.bind (intervalMs? config ·.pushIntervalSecs)).getD settings.pushMs }

/-- The settings with a roster and rules. -/
def takeRest (settings : PullSettings) (roster : Option (List RosterUser))
    (rules : Option RuleSet) : PullSettings :=
  { settings with
    roster := roster.getD settings.roster
    rules := (rules.map (CompiledRules.compile Pattern.language)).getD settings.rules }

/-- One more pull supplies its parts on top of those before. -/
theorem supplied_concat (initial : PullSettings) (config : CoordinatorConfig)
    (taken : List Fetched) (fetched : Fetched) :
    initial.supplied config (taken ++ [fetched]) =
      ((initial.supplied config taken).takeNode config fetched.node).takeRest fetched.roster
        fetched.rules := by
  simp only [supplied, takeNode, takeRest, List.map_append, List.map_cons, List.map_nil,
    latest_concat]

end PullSettings

/-! ### What pulls take over -/

namespace Scope

/-- Open or closed alike, and with the same caps, configuration and rules. -/
structure SameSettings (before after : Scope) : Prop where
  isOpen_eq : after.isOpen = before.isOpen
  limits_eq : after.limits = before.limits
  config_eq : after.escalator.config = before.escalator.config
  rules_eq : after.rules = before.rules

variable {scope after : Scope}

theorem SameSettings.refl : scope.SameSettings scope := ⟨rfl, rfl, rfl, rfl⟩

theorem SameSettings.trans {third : Scope} (h : scope.SameSettings after)
    (h' : after.SameSettings third) : scope.SameSettings third where
  isOpen_eq := h'.isOpen_eq.trans h.isOpen_eq
  limits_eq := h'.limits_eq.trans h.limits_eq
  config_eq := h'.config_eq.trans h.config_eq
  rules_eq := h'.rules_eq.trans h.rules_eq

theorem SameSettings.of_eq (h : scope.SameSettings after) (coordinator : Coordinator) :
    PullSettings.of coordinator after = PullSettings.of coordinator scope := by
  simp only [PullSettings.of, h.limits_eq, h.config_eq, h.rules_eq]

end Scope

/-- Whether the operation belongs to the data path. -/
def Operation.isDataPath : Operation → Bool
  | .connect .. | .release .. | .getBucket .. | .updateBucket .. | .effectiveCap ..
  | .reportTraffic .. => true
  | _ => false

namespace Scope

variable {scope : Scope}

/-- The data path sets nothing. -/
theorem sameSettings_perform {operation : Operation} (ofPath : operation.isDataPath = true) :
    scope.SameSettings (scope.perform operation) := by
  cases operation with
  | connect user ip =>
    cases isOpen : scope.isOpen with
    | false =>
      rw [perform, connect_of_closed isOpen]
      exact .refl
    | true =>
      rw [perform, connect_of_open isOpen]
      split
      · exact .refl
      · exact ⟨rfl, rfl, rfl, rfl⟩
  | release user ip session =>
    obtain ⟨speed, after, -⟩ := scope.release_frame user ip session
    rw [perform, after]
    exact ⟨rfl, rfl, rfl, rfl⟩
  | getBucket user now => exact ⟨rfl, rfl, rfl, rfl⟩
  | updateBucket user issued => exact ⟨rfl, rfl, rfl, rfl⟩
  | effectiveCap user now => exact ⟨rfl, rfl, rfl, rfl⟩
  | reportTraffic user traffic => exact ⟨rfl, rfl, rfl, rfl⟩
  | _ => cases ofPath

/-- Neither does a change of the roster. -/
theorem sameSettings_pieces (diff : RosterDiff) :
    scope.SameSettings (scope.performAll diff.pieces) := by
  refine performAll_induction (motive := scope.SameSettings) .refl ?_
  intro s operation member same
  refine same.trans ?_
  rcases List.mem_append.1 member with removed | added
  · obtain ⟨user, -, rfl⟩ := List.mem_map.1 removed
    exact ⟨rfl, rfl, rfl, rfl⟩
  · obtain ⟨entry, -, rfl⟩ := List.mem_map.1 added
    exact ⟨rfl, rfl, rfl, rfl⟩

end Scope

namespace Coordinator

variable {coordinator : Coordinator} {scope : Scope} {registry : Registry}

/-- An interval of a task after one was set in seconds, or none. -/
theorem intervalMs_clampInterval (config : CoordinatorConfig) (task : PeriodicTask) (secs : UInt64) :
    (((clampInterval config secs).map task.setInterval).getD task).intervalMs =
      (PullSettings.intervalMs? config secs).getD task.intervalMs := by
  unfold clampInterval PullSettings.intervalMs?
  by_cases zero : 0 < secs
  · have greatest : (max secs config.minIntervalSecs).toNat =
        max secs.toNat config.minIntervalSecs.toNat := by
      show (if secs ≤ config.minIntervalSecs then config.minIntervalSecs else secs).toNat = _
      split
      next below =>
        have below' := UInt64.le_iff_toNat_le.1 below
        omega
      next above =>
        rw [UInt64.le_iff_toNat_le] at above
        omega
    have positive : 0 < secs.toNat := UInt64.lt_iff_toNat_lt.1 zero
    have some_nanos : secondsToNanos (max secs config.minIntervalSecs) ≠ 0 := by
      unfold secondsToNanos
      omega
    rw [if_pos zero, if_pos zero, Option.map_some, Option.getD_some, Option.getD_some,
      PeriodicTask.setInterval, if_neg some_nanos]
    show PeriodicTask.wholeMillis _ = _
    rw [PeriodicTask.wholeMillis, secondsToNanos, greatest]
    omega
  · rw [if_neg zero, if_neg zero]
    rfl

theorem settings_applyNode (info : Option NodeInfo) :
    PullSettings.of (coordinator.applyNode scope info).1 (coordinator.applyNode scope info).2 =
      (PullSettings.of coordinator scope).takeNode coordinator.config info := by
  cases info with
  | none => rfl
  | some info =>
    simp only [applyNode, setIntervals, PullSettings.of, PullSettings.takeNode,
      intervalMs_clampInterval]
    rfl

theorem config_applyNode (info : Option NodeInfo) :
    (coordinator.applyNode scope info).1.config = coordinator.config := by
  cases info with
  | none => rfl
  | some info => rfl

theorem isOpen_applyRules (rules : Option RuleSet) :
    (applyRules scope rules).isOpen = scope.isOpen := by
  cases rules with
  | none => rfl
  | some rules => rfl

theorem settings_applyRules (rules : Option RuleSet) :
    PullSettings.of coordinator (applyRules scope rules) =
      (PullSettings.of coordinator scope).takeRest none rules := by
  cases rules with
  | none => rfl
  | some rules => rfl

/-- An open scope takes over all that was fetched. -/
theorem settings_applyFetched (isOpen : scope.isOpen = true) (fetched : Fetched) :
    ∃ after scope', coordinator.applyFetched scope fetched = (.ok (), after, scope') ∧
      PullSettings.of after scope' =
        ((PullSettings.of coordinator scope).takeNode coordinator.config fetched.node).takeRest
          fetched.roster fetched.rules ∧
      after.config = coordinator.config ∧ after.scope = coordinator.scope ∧
      scope'.isOpen = true := by
  have node := @settings_applyNode coordinator scope fetched.node
  have isOpen' := (@isOpen_applyNode coordinator scope fetched.node).trans isOpen
  have kept := (@applyNode_keeps coordinator scope fetched.node).2
  have config := @config_applyNode coordinator scope fetched.node
  unfold applyFetched
  dsimp only
  generalize (coordinator.applyNode scope fetched.node).1 = after at node kept config
  generalize (coordinator.applyNode scope fetched.node).2 = scope' at node isOpen'
  cases fetched.roster with
  | none =>
    refine ⟨after, applyRules scope' fetched.rules, rfl, ?_, config, kept, ?_⟩
    · rw [settings_applyRules, node]
    · rw [isOpen_applyRules, isOpen']
  | some roster =>
    have same := @Scope.sameSettings_pieces scope' (RosterDiff.between after.roster roster)
    rw [applyRoster_of_taken (Or.inr isOpen')]
    refine ⟨_, _, rfl, ?_, config, kept, ?_⟩
    · rw [settings_applyRules, same.of_eq, ← node]
      rfl
    · rw [isOpen_applyRules, same.isOpen_eq, isOpen']

end Coordinator

end Tollgate
