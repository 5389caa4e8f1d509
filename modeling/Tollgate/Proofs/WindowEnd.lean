import Tollgate.Proofs.Bookkeeping
import Tollgate.Proofs.Merging
import Tollgate.Proofs.Steps

/-!
# The end of the online window

A window ends with a merge of a view, and without word from other nodes it ends as if they had
reported nobody. Either way each user is left with the addresses of its open connections and those
that are reported (`ConnectionLimiter.ClosesWindow`). What is open stays open
(`ConnectionLimiter.KeepsOpen`), so a push, which touches connections by the end of its window only,
leaves them as it found them, whatever reporter and recorder answer
(`Node.Step.keepsOpen_of_isPush`).
-/

namespace Tollgate

namespace ConnectionLimiter

variable {limiter after : ConnectionLimiter} {view : OnlineView} {key : UserKey}

/-! ### Open connections -/

/-- A user is online from somewhere. -/
def IsOnline (limiter : ConnectionLimiter) (key : UserKey) : Prop :=
  0 < limiter.connections key ∨ ∃ ip, 0 < (limiter.deviceOf key ip).connections

/-- The open connections are the same, and those of one session still are. -/
structure KeepsOpen (before after : ConnectionLimiter) : Prop where
  connections_eq : ∀ key, after.connections key = before.connections key
  deviceOf_eq : ∀ key ip,
    (after.deviceOf key ip).connections = (before.deviceOf key ip).connections
  id_eq : ∀ key, before.IsOnline key →
    (after.session? key).map (·.id) = (before.session? key).map (·.id)

theorem KeepsOpen.refl : limiter.KeepsOpen limiter where
  connections_eq _ := rfl
  deviceOf_eq _ _ := rfl
  id_eq _ _ := rfl

theorem KeepsOpen.isOnline (h : limiter.KeepsOpen after) (online : limiter.IsOnline key) :
    after.IsOnline key := by
  rcases online with counted | ⟨ip, opened⟩
  · left
    rw [h.connections_eq]
    exact counted
  · right
    refine ⟨ip, ?_⟩
    rw [h.deviceOf_eq]
    exact opened

theorem KeepsOpen.trans {first second third : ConnectionLimiter} (h : first.KeepsOpen second)
    (h' : second.KeepsOpen third) : first.KeepsOpen third where
  connections_eq key := (h'.connections_eq key).trans (h.connections_eq key)
  deviceOf_eq key ip := (h'.deviceOf_eq key ip).trans (h.deviceOf_eq key ip)
  id_eq key online := (h'.id_eq key (h.isOnline online)).trans (h.id_eq key online)

/-- Who is online has a session, and a counted one counts the user as online. -/
theorem exists_session_of_isOnline (online : limiter.IsOnline key) :
    ∃ session, limiter.session? key = some session := by
  cases known : limiter.session? key with
  | some session => exact ⟨session, rfl⟩
  | none =>
    rcases online with counted | ⟨ip, opened⟩
    · rw [connections_of_none known] at counted
      cases counted
    · rw [deviceOf_of_none known] at opened
      cases opened

/-- Where the books are kept, who is online has open connections. -/
theorem Counted.isOnline_iff {bound : Nat} (h : limiter.Counted bound) :
    limiter.IsOnline key ↔ 0 < limiter.connections key := by
  constructor
  · rintro (counted | ⟨ip, opened⟩)
    · exact counted
    · obtain ⟨session, known⟩ := exists_session_of_isOnline (Or.inr ⟨ip, opened⟩)
      rw [deviceOf_of_some known] at opened
      rw [connections_of_some known, (h key session known).1]
      exact Nat.lt_of_lt_of_le opened (Session.device_le_deviceTotal ip)
  · exact Or.inl

/-! ### Merges -/

/-- A merge neither opens nor closes a connection. -/
theorem Merges.keepsOpen (h : limiter.Merges view after) : limiter.KeepsOpen after where
  connections_eq := h.connections_eq
  deviceOf_eq key ip := by rw [h.deviceOf_eq]
  id_eq key online := by
    obtain ⟨old, known⟩ := exists_session_of_isOnline online
    obtain ⟨session, found⟩ := Option.isSome_iff_exists.1
      ((h.isSome_session?_iff key).2 (Or.inl online))
    rw [known, found, Option.map_some, Option.map_some, h.id_eq known found]

theorem keepsOpen_mergeRemote (view : OnlineView) : limiter.KeepsOpen (limiter.mergeRemote view) :=
  (merges_mergeRemote view).keepsOpen

/-- To begin a new window is to merge a view of nobody. -/
theorem mergeRemote_empty : limiter.mergeRemote .empty = limiter.resetWindow :=
  (merges_mergeRemote .empty).eq_resetWindow

theorem keepsOpen_resetWindow : limiter.KeepsOpen limiter.resetWindow := by
  rw [← mergeRemote_empty]
  exact keepsOpen_mergeRemote .empty

/-- What the end of a window with a view leaves. -/
structure ClosesWindow (before : ConnectionLimiter) (view : OnlineView)
    (after : ConnectionLimiter) : Prop extends KeepsOpen before after where
  /-- Nothing else is known of a user than open connections and what the view says. -/
  isSome_device?_iff : ∀ key ip, (after.device? key ip).isSome = true ↔
    0 < (before.deviceOf key ip).connections ∨ ip ∈ view.addresses key
  isRemote_iff : ∀ key ip, (after.deviceOf key ip).isRemote = true ↔ ip ∈ view.addresses key
  isSome_session?_iff : ∀ key, (after.session? key).isSome = true ↔
    0 < before.connections key ∨ view.addresses key ≠ []
  id_eq_of_some : ∀ key old session, before.session? key = some old →
    after.session? key = some session → session.id = old.id

theorem Counted.closesWindow {bound : Nat} (h : limiter.Counted bound)
    (merges : limiter.Merges view after) : limiter.ClosesWindow view after where
  toKeepsOpen := merges.keepsOpen
  isSome_device?_iff key ip := by
    rw [merges.device?_eq]
    split
    next left => exact ⟨fun _ => left, fun _ => rfl⟩
    next gone =>
      constructor
      · intro left
        cases left
      · intro left
        exact absurd left gone
  isRemote_iff key ip := by
    rw [merges.deviceOf_eq]
    exact decide_eq_true_iff
  isSome_session?_iff key := by
    rw [← h.isOnline_iff]
    exact merges.isSome_session?_iff key
  id_eq_of_some _ _ _ known found := merges.id_eq known found

end ConnectionLimiter

/-! ### Pushes -/

/-- Whether a push begins or goes on. -/
def Event.isPush : Event → Bool
  | .beginPush .. | .resumePush .. => true
  | _ => false

/-- Of the work of a push only the end of the window touches connections. -/
theorem Scope.keepsOpen_perform {scope : Scope} {operation : Operation}
    (work : operation.isPushWork = true) :
    scope.connections.KeepsOpen (scope.perform operation).connections := by
  cases operation with
  | drainTraffic => exact .refl
  | creditTraffic entries => exact .refl
  | escalate now entries =>
    obtain ⟨escalator, speed, escalated⟩ := scope.escalate_frame now entries
    rw [perform, escalated]
    exact .refl
  | endWindow =>
    have ended : (scope.perform .endWindow).connections =
        if scope.recorderEnabled then scope.connections else scope.connections.resetWindow := rfl
    rw [ended]
    split
    · exact .refl
    · exact ConnectionLimiter.keepsOpen_resetWindow
  | mergeOnline entries => exact ConnectionLimiter.keepsOpen_mergeRemote _
  | discardWindow => exact ConnectionLimiter.keepsOpen_resetWindow
  | _ => cases work

namespace Node

variable {node next : Node} {event : Event}

/-- A step of a push leaves every open connection of every scope. -/
theorem Step.keepsOpen_of_isPush (step : node.Step event next) (push : event.isPush = true)
    (a : Nat) : (node.scope a).connections.KeepsOpen (next.scope a).connections := by
  have lasting : event.isLifecycle = false := by
    cases event <;> first | rfl | cases push
  have work (operation : Operation) (performed : event.mayPerform node a operation) :
      operation.isPushWork = true := by
    cases event with
    | beginPush c now => exact performed
    | resumePush c peers now => exact performed
    | _ => cases push
  obtain ⟨operations, same, fits⟩ := (step.evolves lasting).scope a
  have there : next.scope a = (node.scope a).performAll operations := same
  rw [there]
  refine Scope.performAll_induction
    (motive := fun s => (node.scope a).connections.KeepsOpen s.connections) .refl ?_
  intro s operation member kept
  exact kept.trans (Scope.keepsOpen_perform (work operation (fits operation member)))

theorem Run.keepsOpen_of_isPush (run : Node.Run (fun _ event _ => event.isPush = true) node next)
    (a : Nat) : (node.scope a).connections.KeepsOpen (next.scope a).connections := by
  induction run with
  | refl => exact .refl
  | tail _ last ih =>
    obtain ⟨event, step, push⟩ := last
    exact ih.trans (step.keepsOpen_of_isPush push a)

end Node

/-- After requests with fewer granted connections than a word counts: to merge a view leaves each
user with exactly the addresses of its open connections and of the view, in whatever order the view
is visited. To merge it twice is to merge it once, and to begin a new window is to merge a view of
nobody. Steps of pushes, as many as there are before the data path has its next one, leave the open
connections of all users and the numbers of their sessions as it made them, whatever reporters and
recorders answer. -/
theorem window_end_is_exact {requests : List ConnectionLimiter.Request}
    {limiter : ConnectionLimiter} (reached : limiter = ConnectionLimiter.performAll {} requests)
    (few : ConnectionLimiter.granted {} requests < UInt32.size) :
    (∀ view, limiter.Merges view (limiter.mergeRemote view)) ∧
    (∀ view after, limiter.Merges view after → limiter.ClosesWindow view after ∧
      ∀ twice, after.Merges view twice → twice = after) ∧
    (∀ after, limiter.Merges .empty after → after = limiter.resetWindow) ∧
    ∀ node next, Node.Run (fun _ event _ => event.isPush = true) node next →
      ∀ a, (node.scope a).connections.KeepsOpen (next.scope a).connections := by
  have size : maxConnections = UInt32.size - 1 := rfl
  have counted : limiter.Counted (0 + ConnectionLimiter.granted {} requests) := by
    rw [reached]
    exact ConnectionLimiter.counted_empty.performAll (by omega)
  refine ⟨ConnectionLimiter.merges_mergeRemote, ?_, ?_, ?_⟩
  · intro view after merges
    exact ⟨counted.closesWindow merges, fun _ => merges.again⟩
  · intro after merges
    exact merges.eq_resetWindow
  · intro node next run a
    exact run.keepsOpen_of_isPush a

/-- One user is online from one address and was from another, which is reported now; a second user
has gone, and a third is online elsewhere only. -/
theorem window_end_is_exact_crossed :
    ∃ (requests : List ConnectionLimiter.Request) (limiter : ConnectionLimiter) (view : OnlineView),
      limiter = ConnectionLimiter.performAll {} requests ∧
      ConnectionLimiter.granted {} requests = 3 ∧
      limiter.ClosesWindow view (limiter.mergeRemote view) ∧
      (limiter.mergeRemote view).mergeRemote view = limiter.mergeRemote view ∧
      limiter.mergeRemote .empty = limiter.resetWindow ∧
      (limiter.mergeRemote view).device? ⟨"a", 7⟩ (.v4 1) = some ⟨1, false⟩ ∧
      (limiter.mergeRemote view).device? ⟨"a", 7⟩ (.v4 2) = some ⟨0, true⟩ ∧
      (limiter.mergeRemote view).session? ⟨"a", 8⟩ = none ∧
      (limiter.mergeRemote view).device? ⟨"a", 9⟩ (.v4 5) = some ⟨0, true⟩ := by
  let requests : List ConnectionLimiter.Request :=
    [.connect ⟨"a", 7⟩ (.v4 1) {}, .connect ⟨"a", 7⟩ (.v4 2) {}, .release ⟨"a", 7⟩ (.v4 2) none,
      .connect ⟨"a", 8⟩ (.v4 1) {}, .release ⟨"a", 8⟩ (.v4 1) (some 1)]
  let view := OnlineView.ofUserIps "a" [⟨9, [.v4 5]⟩, ⟨7, [.v4 2]⟩]
  obtain ⟨merges, closing, beginning, -⟩ := @window_end_is_exact requests _ rfl (by decide)
  obtain ⟨closes, once⟩ := closing view _ (merges view)
  have again := once _ (ConnectionLimiter.merges_mergeRemote view)
  exact ⟨requests, _, view, rfl, by decide, closes, again, beginning _ (merges .empty), by decide,
    by decide, by decide, by decide⟩

end Tollgate
