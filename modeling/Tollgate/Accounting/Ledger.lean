import Tollgate.Control.Records
import Tollgate.Table
import Tollgate.UserKey

/-!
# The traffic ledger

Bytes that users sent and received and that no report has delivered yet. A drain takes all counts
out at once; what could not be delivered is credited back, on top of what arrived meanwhile. The
counts are words, so they wrap. `pending_record` and `pending_drain` say what each operation does to
the counts of every user, `mem_entries_iff` what a drain hands out.
-/

namespace Tollgate

/-- Bytes sent and received. -/
structure Traffic where
  upload : UInt64 := 0
  download : UInt64 := 0
deriving DecidableEq, Repr, Inhabited

namespace Traffic

/-- Both counts added, each modulo its width. -/
def add (a b : Traffic) : Traffic := ⟨a.upload + b.upload, a.download + b.download⟩

/-- Whether nothing was sent or received. -/
def isZero (t : Traffic) : Bool := t.upload = 0 && t.download = 0

@[simp] theorem add_zero (a : Traffic) : a.add {} = a := by simp [add]

@[simp] theorem zero_add (a : Traffic) : Traffic.add {} a = a := by simp [add]

theorem isZero_iff {t : Traffic} : t.isZero = true ↔ t = {} := by
  cases t
  simp [isZero]

end Traffic

/-- The counts of a report entry. -/
def UserTraffic.counts (t : UserTraffic) : Traffic := ⟨t.upload, t.download⟩

/-- One user's counts as they are reported. -/
abbrev TrafficEntry := UserKey × UserTraffic

/-- Undelivered counts per user. -/
structure Ledger where
  counts : Table UserKey Traffic := .empty
deriving Inhabited

namespace Ledger

/-- The counts of a user. -/
def pending (ledger : Ledger) (key : UserKey) : Traffic := (ledger.counts.get? key).getD {}

/-- Counts traffic of a user; no traffic leaves no mark. -/
def record (ledger : Ledger) (key : UserKey) (traffic : Traffic) : Ledger :=
  if traffic.isZero then ledger
  else ⟨ledger.counts.insert key ((ledger.pending key).add traffic)⟩

/-- The entries of all users with counts that are not zero, ascending by key. -/
def entries (ledger : Ledger) : List TrafficEntry :=
  (ledger.counts.toList.filter (fun e => !e.2.isZero)).map fun e =>
    (e.1, ⟨e.1.user, e.2.upload, e.2.download⟩)

/-- Takes every count out. -/
def drain (ledger : Ledger) : List TrafficEntry × Ledger := (ledger.entries, {})

/-- Puts entries back. -/
def credit (ledger : Ledger) (entries : List TrafficEntry) : Ledger :=
  entries.foldl (fun l e => l.record e.1 e.2.counts) ledger

@[simp] theorem pending_empty (key : UserKey) : ({} : Ledger).pending key = {} := rfl

theorem pending_record (ledger : Ledger) (key key' : UserKey) (traffic : Traffic) :
    (ledger.record key traffic).pending key' =
      if key = key' then (ledger.pending key').add traffic else ledger.pending key' := by
  unfold record
  split
  next zero =>
    rw [Traffic.isZero_iff.1 zero]
    simp
  next =>
    simp only [pending, Table.get?_insert]
    split
    next same => subst same; simp
    next => rfl

@[simp] theorem credit_nil (ledger : Ledger) : ledger.credit [] = ledger := rfl

theorem credit_cons (ledger : Ledger) (e : TrafficEntry) (es : List TrafficEntry) :
    ledger.credit (e :: es) = (ledger.record e.1 e.2.counts).credit es := rfl

theorem pending_drain (ledger : Ledger) (key : UserKey) :
    ledger.drain.2.pending key = {} := rfl

theorem mem_entries_iff {ledger : Ledger} {key : UserKey} {t : UserTraffic} :
    (key, t) ∈ ledger.entries ↔
      t.userId = key.user ∧ ledger.counts.get? key = some t.counts ∧ t.counts.isZero = false := by
  simp only [entries, List.mem_map, List.mem_filter, Prod.mk.injEq]
  constructor
  · rintro ⟨⟨k, c⟩, ⟨hm, hz⟩, rfl, rfl⟩
    refine ⟨rfl, Table.mem_toList_iff.1 hm, ?_⟩
    simpa [UserTraffic.counts] using hz
  · rintro ⟨huser, hget, hz⟩
    refine ⟨(key, t.counts), ⟨Table.mem_toList_iff.2 hget, by simpa using hz⟩, rfl, ?_⟩
    cases t
    simp_all [UserTraffic.counts]

end Ledger

end Tollgate
