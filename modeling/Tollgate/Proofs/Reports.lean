import Mathlib.Algebra.GroupWithZero.Nat
import Mathlib.Data.List.Nodup
import Tollgate.Accounting.Ledger

/-!
# What a ledger takes in and hands out

Bytes of a user in one direction, as numbers: in what is counted, in the ledger, and in the traffic
that a drain hands out. A drain hands out exactly what is pending, in at most one entry for each
user (`IsReport`), each under the key of the user (`IsBatch`). What is counted or credited is added
to what is pending, and wraps by whole multiples of the width.
-/

namespace Tollgate

/-- The two ways of traffic. -/
inductive Direction where
  | upload
  | download

/-- The bytes of traffic one way. -/
def Traffic.bytes (traffic : Traffic) : Direction → Nat
  | .upload => traffic.upload.toNat
  | .download => traffic.download.toNat

@[simp] theorem Traffic.bytes_zero (way : Direction) : ({} : Traffic).bytes way = 0 := by
  cases way <;> rfl

/-- Words that are added wrap by whole multiples of their width. -/
theorem exists_toNat_add (a b : UInt64) :
    ∃ k, a.toNat + b.toNat = (a + b).toNat + k * UInt64.size := by
  refine ⟨(a.toNat + b.toNat) / UInt64.size, ?_⟩
  rw [UInt64.toNat_add]
  exact (Nat.mod_add_div' _ _).symm

theorem Traffic.exists_bytes_add (a b : Traffic) (way : Direction) :
    ∃ k, a.bytes way + b.bytes way = (a.add b).bytes way + k * UInt64.size := by
  cases way with
  | upload => exact exists_toNat_add a.upload b.upload
  | download => exact exists_toNat_add a.download b.download

/-- The bytes of a user in traffic that was counted piece by piece. -/
def bytesCounted (user : UInt64) (way : Direction) (counted : List (UInt64 × Traffic)) : Nat :=
  ((counted.filter fun c => c.1 = user).map fun c => c.2.bytes way).sum

/-- The bytes of a user in the traffic of users. -/
def bytesIn (user : UInt64) (way : Direction) (traffic : List UserTraffic) : Nat :=
  ((traffic.filter fun t => t.userId = user).map fun t => t.counts.bytes way).sum

theorem bytesCounted_append (user : UInt64) (way : Direction)
    (first second : List (UInt64 × Traffic)) :
    bytesCounted user way (first ++ second) =
      bytesCounted user way first + bytesCounted user way second := by
  simp [bytesCounted]

theorem bytesCounted_singleton (user : UInt64) (way : Direction) (counted : UInt64 × Traffic) :
    bytesCounted user way [counted] = if counted.1 = user then counted.2.bytes way else 0 := by
  by_cases own : counted.1 = user
  · simp [bytesCounted, own]
  · simp [bytesCounted, own]

@[simp] theorem bytesIn_nil (user : UInt64) (way : Direction) : bytesIn user way [] = 0 := rfl

theorem bytesIn_cons (user : UInt64) (way : Direction) (first : UserTraffic)
    (rest : List UserTraffic) :
    bytesIn user way (first :: rest) =
      (if first.userId = user then first.counts.bytes way else 0) + bytesIn user way rest := by
  by_cases own : first.userId = user
  · simp [bytesIn, own]
  · simp [bytesIn, own]

theorem bytesIn_of_absent {user : UInt64} {traffic : List UserTraffic}
    (absent : ∀ t ∈ traffic, t.userId ≠ user) (way : Direction) :
    bytesIn user way traffic = 0 := by
  have none_left : traffic.filter (fun t => t.userId = user) = [] := by
    rw [List.filter_eq_nil_iff]
    intro t member
    simpa using absent t member
  rw [bytesIn, none_left]
  rfl

/-- A report of traffic: each user once at most, and none without traffic. -/
structure IsReport (traffic : List UserTraffic) : Prop where
  distinct : (traffic.map (·.userId)).Nodup
  counted : ∀ t ∈ traffic, t.counts.isZero = false

/-- The entries of a scope for the traffic of users. -/
def entriesFor (scope : String) (traffic : List UserTraffic) : List TrafficEntry :=
  traffic.map fun t => (⟨scope, t.userId⟩, t)

/-- What a scope hands out for a report: the traffic of each user under the key of the user. -/
structure IsBatch (scope : String) (entries : List TrafficEntry) : Prop where
  keyed : ∀ entry ∈ entries, entry.1 = ⟨scope, entry.2.userId⟩
  report : IsReport (entries.map (·.2))

/-- The keys of a batch say nothing that is not in the report. -/
theorem IsBatch.entriesFor_eq {scope : String} {entries : List TrafficEntry}
    (h : IsBatch scope entries) : entriesFor scope (entries.map (·.2)) = entries := by
  rw [entriesFor, List.map_map]
  refine (List.map_congr_left fun entry member => ?_).trans (List.map_id entries)
  exact Prod.ext (h.keyed entry member).symm rfl

theorem bytesIn_of_mem {traffic : List UserTraffic} (distinct : (traffic.map (·.userId)).Nodup)
    {t : UserTraffic} (member : t ∈ traffic) (way : Direction) :
    bytesIn t.userId way traffic = t.counts.bytes way := by
  induction traffic with
  | nil => cases member
  | cons first rest ih =>
    obtain ⟨apart, distinct⟩ := List.nodup_cons.1 distinct
    rw [bytesIn_cons]
    rcases List.mem_cons.1 member with rfl | member
    · rw [if_pos rfl, bytesIn_of_absent, Nat.add_zero]
      intro other later same
      exact apart (List.mem_map.2 ⟨other, later, same⟩)
    · rw [if_neg, Nat.zero_add, ih distinct member]
      intro same
      exact apart (List.mem_map.2 ⟨t, member, same.symm⟩)

namespace Ledger

variable {ledger : Ledger} {scope : String}

/-- A ledger that counts for the users of one scope. -/
def IsOf (ledger : Ledger) (scope : String) : Prop :=
  ∀ key traffic, ledger.counts.get? key = some traffic → key.scope = scope

theorem isOf_empty : ({} : Ledger).IsOf scope := by
  intro key traffic found
  cases found

theorem IsOf.record (h : ledger.IsOf scope) {key : UserKey} (own : key.scope = scope)
    (traffic : Traffic) : (ledger.record key traffic).IsOf scope := by
  unfold Ledger.record
  split
  · exact h
  · intro key' traffic' found
    rw [Table.get?_insert] at found
    split at found
    next same => exact same ▸ own
    next => exact h key' traffic' found

theorem IsOf.credit (h : ledger.IsOf scope) {entries : List TrafficEntry}
    (keyed : ∀ entry ∈ entries, entry.1.scope = scope) : (ledger.credit entries).IsOf scope := by
  induction entries generalizing ledger with
  | nil => exact h
  | cons entry rest ih =>
    rw [credit_cons]
    apply ih
    · exact h.record (keyed entry List.mem_cons_self) _
    · intro later member
      exact keyed later (List.mem_cons_of_mem _ member)

/-- A drain hands out each user once at most, and none without traffic. -/
theorem IsOf.isReport (h : ledger.IsOf scope) : IsReport (ledger.entries.map (·.2)) where
  distinct := by
    have users : (ledger.entries.map (·.2)).map (·.userId) =
        (ledger.counts.toList.filter fun e => !e.2.isZero).map (·.1.user) := by
      simp [entries, Function.comp_def]
    rw [users, List.Nodup, List.pairwise_map]
    refine (ledger.counts.ascending.filter _).imp_of_mem ?_
    rintro ⟨key, traffic⟩ ⟨key', traffic'⟩ member member' below same
    have here := h key traffic (Table.mem_toList_iff.1 (List.mem_filter.1 member).1)
    have there := h key' traffic' (Table.mem_toList_iff.1 (List.mem_filter.1 member').1)
    have equal : key = key' := by
      cases key
      cases key'
      simp_all
    rw [equal, Table.compare_same] at below
    cases below
  counted := by
    intro t member
    obtain ⟨entry, listed, rfl⟩ := List.mem_map.1 member
    exact (mem_entries_iff.1 listed).2.2

theorem IsOf.isBatch (h : ledger.IsOf scope) : IsBatch scope ledger.entries where
  keyed := by
    rintro ⟨key, traffic⟩ member
    obtain ⟨user, found, -⟩ := mem_entries_iff.1 member
    rw [user, ← h key _ found]
  report := h.isReport

/-- A drain hands out what is pending of every user. -/
theorem IsOf.bytesIn_entries (h : ledger.IsOf scope) (user : UInt64) (way : Direction) :
    bytesIn user way (ledger.entries.map (·.2)) = (ledger.pending ⟨scope, user⟩).bytes way := by
  by_cases listed : ∃ entry ∈ ledger.entries, entry.2.userId = user
  · obtain ⟨⟨key, traffic⟩, member, rfl⟩ := listed
    have found := (mem_entries_iff.1 member).2.1
    have own : key = ⟨scope, traffic.userId⟩ := h.isBatch.keyed _ member
    rw [bytesIn_of_mem h.isReport.distinct (List.mem_map_of_mem member) way, pending, ← own, found,
      Option.getD_some]
  · have absent : ∀ entry ∈ ledger.entries, entry.2.userId ≠ user :=
      fun entry member same => listed ⟨entry, member, same⟩
    rw [bytesIn_of_absent (List.forall_mem_map.2 absent)]
    -- A count that is not handed out is not there, or is zero.
    cases found : ledger.counts.get? ⟨scope, user⟩ with
    | none =>
      rw [pending, found, Option.getD_none, Traffic.bytes_zero]
    | some traffic =>
      rw [pending, found, Option.getD_some]
      cases zero : traffic.isZero with
      | true => rw [Traffic.isZero_iff.1 zero, Traffic.bytes_zero]
      | false =>
        have member : ((⟨scope, user⟩, ⟨user, traffic.upload, traffic.download⟩) : TrafficEntry) ∈
            ledger.entries := mem_entries_iff.2 ⟨rfl, found, zero⟩
        exact absurd rfl (absent _ member)

/-- What is counted is added to what is pending. -/
theorem exists_bytes_record (user user' : UInt64) (traffic : Traffic) (way : Direction) :
    ∃ k, (ledger.pending ⟨scope, user'⟩).bytes way +
        (if user = user' then traffic.bytes way else 0) =
      ((ledger.record ⟨scope, user⟩ traffic).pending ⟨scope, user'⟩).bytes way +
        k * UInt64.size := by
  rw [pending_record]
  by_cases same : user = user'
  · subst same
    rw [if_pos rfl, if_pos rfl]
    exact Traffic.exists_bytes_add _ _ way
  · rw [if_neg same, if_neg (by simpa using same)]
    exact ⟨0, by omega⟩

/-- What is credited is added to what is pending. -/
theorem exists_bytes_credit {entries : List TrafficEntry}
    (keyed : ∀ entry ∈ entries, entry.1 = ⟨scope, entry.2.userId⟩) (user : UInt64)
    (way : Direction) :
    ∃ k, (ledger.pending ⟨scope, user⟩).bytes way + bytesIn user way (entries.map (·.2)) =
      ((ledger.credit entries).pending ⟨scope, user⟩).bytes way + k * UInt64.size := by
  induction entries generalizing ledger with
  | nil => exact ⟨0, by rw [List.map_nil, bytesIn_nil, credit_nil]; omega⟩
  | cons entry rest ih =>
    obtain ⟨k, first⟩ :=
      @exists_bytes_record ledger scope entry.2.userId user entry.2.counts way
    obtain ⟨k', later⟩ := @ih (ledger.record ⟨scope, entry.2.userId⟩ entry.2.counts)
      fun e member => keyed e (List.mem_cons_of_mem _ member)
    rw [List.map_cons, bytesIn_cons, credit_cons, keyed entry List.mem_cons_self]
    refine ⟨k + k', ?_⟩
    rw [Nat.add_mul]
    omega

end Ledger

end Tollgate
