/-!
# Tables

Finite maps from ordered keys, kept as entries in ascending order of their keys. The order is part
of the type, so two tables with the same look-ups are equal, and every list read off a table is
sorted. Each operation comes with the look-up it leaves behind: `get?_insert`, `get?_erase`,
`get?_filterMap`.
-/

namespace Tollgate

/-- A finite map whose entries ascend by key. -/
structure Table (κ : Type) (α : Type) [Ord κ] where
  entries : List (κ × α)
  ascending : entries.Pairwise (fun x y => compare x.1 y.1 = .lt)

namespace Table

variable {κ α β : Type} [Ord κ]

/-- The table without entries. -/
def empty : Table κ α := ⟨[], .nil⟩

instance : Inhabited (Table κ α) := ⟨empty⟩

instance : EmptyCollection (Table κ α) := ⟨empty⟩

instance [DecidableEq κ] [DecidableEq α] : DecidableEq (Table κ α) := fun s t =>
  if h : s.entries = t.entries then
    isTrue (by cases s; cases t; simp_all)
  else isFalse (fun e => h (by rw [e]))

/-- The entries, in ascending order of their keys. -/
def toList (t : Table κ α) : List (κ × α) := t.entries

/-- The keys, ascending. -/
def keys (t : Table κ α) : List κ := t.entries.map (·.1)

/-- The number of entries. -/
def size (t : Table κ α) : Nat := t.entries.length

/-- The value at a key. -/
def get? (t : Table κ α) (k : κ) : Option α :=
  (t.entries.find? (fun e => compare e.1 k == .eq)).map (·.2)

/-- Whether a key has a value. -/
def contains (t : Table κ α) (k : κ) : Bool := (t.get? k).isSome

/-- The entries with a value put at a key, in its place in the order. -/
def insertEntry (k : κ) (v : α) : List (κ × α) → List (κ × α)
  | [] => [(k, v)]
  | e :: rest =>
    match compare k e.1 with
    | .lt => (k, v) :: e :: rest
    | .eq => (k, v) :: rest
    | .gt => e :: insertEntry k v rest

theorem mem_insertEntry {k : κ} {v : α} {x : κ × α} {es : List (κ × α)} :
    x ∈ insertEntry k v es → x = (k, v) ∨ x ∈ es := by
  induction es with
  | nil => simp [insertEntry]
  | cons e rest ih =>
    unfold insertEntry
    split <;> grind

section Ordered

variable [Std.TransOrd κ] [Std.LawfulEqOrd κ]

theorem pairwise_insertEntry (k : κ) (v : α) {es : List (κ × α)}
    (h : es.Pairwise (fun x y => compare x.1 y.1 = .lt)) :
    (insertEntry k v es).Pairwise (fun x y => compare x.1 y.1 = .lt) := by
  induction es with
  | nil => simp [insertEntry]
  | cons e rest ih =>
    rw [List.pairwise_cons] at h
    unfold insertEntry
    split
    next lt =>
      refine List.pairwise_cons.2 ⟨fun x hx => ?_, List.pairwise_cons.2 h⟩
      rcases List.mem_cons.1 hx with rfl | hx
      · exact lt
      · exact Std.TransCmp.lt_trans lt (h.1 x hx)
    next eq =>
      have same : k = e.1 := Std.LawfulEqCmp.compare_eq_iff_eq.1 eq
      exact List.pairwise_cons.2 ⟨fun x hx => by rw [same]; exact h.1 x hx, h.2⟩
    next gt =>
      refine List.pairwise_cons.2 ⟨fun x hx => ?_, ih h.2⟩
      rcases mem_insertEntry hx with rfl | hx
      · exact Std.OrientedCmp.gt_iff_lt.1 gt
      · exact h.1 x hx

/-- The table with a value put at a key, in place of the one that was there. -/
def insert (t : Table κ α) (k : κ) (v : α) : Table κ α :=
  ⟨insertEntry k v t.entries, pairwise_insertEntry k v t.ascending⟩

/-- The table of a list of entries; of several with one key the last counts. -/
def ofList (es : List (κ × α)) : Table κ α :=
  es.foldl (fun t e => t.insert e.1 e.2) empty

end Ordered

/-- The table without the entry at a key. -/
def erase (t : Table κ α) (k : κ) : Table κ α :=
  ⟨t.entries.filter (fun e => compare e.1 k != .eq), t.ascending.filter _⟩

/-- The table with each value replaced or, where the function gives nothing, dropped. -/
def filterMap (f : κ → α → Option β) (t : Table κ α) : Table κ β :=
  ⟨t.entries.filterMap (fun e => (f e.1 e.2).map (e.1, ·)), by
    refine t.ascending.filterMap _ fun x y h x' hx y' hy => ?_
    obtain ⟨v, -, rfl⟩ := Option.map_eq_some_iff.1 hx
    obtain ⟨w, -, rfl⟩ := Option.map_eq_some_iff.1 hy
    exact h⟩

/-! ### Look-up -/

@[simp] theorem get?_empty (k : κ) : (empty : Table κ α).get? k = none := rfl

@[simp] theorem size_empty : (empty : Table κ α).size = 0 := rfl

variable [Std.LawfulEqOrd κ]

theorem compare_same (k : κ) : compare k k = .eq := Std.LawfulEqCmp.compare_eq_iff_eq.2 rfl

theorem get?_eq_some_iff {t : Table κ α} {k : κ} {v : α} :
    t.get? k = some v ↔ (k, v) ∈ t.entries := by
  obtain ⟨es, h⟩ := t
  unfold get?
  induction es with
  | nil => simp
  | cons e rest ih =>
    rw [List.pairwise_cons] at h
    simp only [List.find?_cons, List.mem_cons]
    by_cases same : compare e.1 k = .eq
    · have key : e.1 = k := Std.LawfulEqCmp.compare_eq_iff_eq.1 same
      have absent : (k, v) ∉ rest := fun hm => by
        have lt := h.1 _ hm
        rw [show compare e.1 (k, v).1 = .eq from same] at lt
        cases lt
      simp only [same, beq_self_eq_true, Option.map_some, Option.some.injEq, absent, or_false]
      constructor
      · rintro rfl; rw [← key]
      · rintro rfl; rfl
    · have other : (compare e.1 k == .eq) = false := by simpa using same
      have differs : (k, v) ≠ e := fun he => same (by rw [← he]; exact Std.LawfulEqCmp.compare_eq_iff_eq.2 rfl)
      simp only [other, differs, false_or]
      exact ih h.2

theorem get?_eq_none_iff {t : Table κ α} {k : κ} :
    t.get? k = none ↔ ∀ v, (k, v) ∉ t.entries := by
  rw [Option.eq_none_iff_forall_ne_some]
  simp only [ne_eq, get?_eq_some_iff]

/-- A table without entries has nothing at any key. -/
theorem size_eq_zero_iff {t : Table κ α} : t.size = 0 ↔ ∀ k, t.get? k = none := by
  simp only [get?_eq_none_iff]
  rw [size, List.length_eq_zero_iff, List.eq_nil_iff_forall_not_mem]
  constructor
  · intro nothing k v
    exact nothing (k, v)
  · rintro nothing ⟨k, v⟩
    exact nothing k v

theorem mem_toList_iff {t : Table κ α} {k : κ} {v : α} :
    (k, v) ∈ t.toList ↔ t.get? k = some v := get?_eq_some_iff.symm

theorem mem_keys_iff {t : Table κ α} {k : κ} : k ∈ t.keys ↔ t.contains k = true := by
  simp only [keys, List.mem_map, contains, Option.isSome_iff_exists, get?_eq_some_iff]
  constructor
  · rintro ⟨⟨k, v⟩, h, rfl⟩; exact ⟨v, h⟩
  · rintro ⟨v, h⟩; exact ⟨(k, v), h, rfl⟩

theorem get?_erase [DecidableEq κ] (t : Table κ α) (k k' : κ) :
    (t.erase k).get? k' = if k = k' then none else t.get? k' := by
  apply Option.ext
  intro w
  rw [get?_eq_some_iff]
  simp only [erase, List.mem_filter, bne_iff_ne, ne_eq, Std.LawfulEqCmp.compare_eq_iff_eq]
  split
  next same => subst same; simp
  next differs =>
    rw [get?_eq_some_iff]
    simp [Ne.symm differs]

@[simp] theorem get?_erase_self (t : Table κ α) (k : κ) : (t.erase k).get? k = none := by
  rw [get?_eq_none_iff]
  simp [erase]

theorem get?_erase_of_ne (t : Table κ α) {k k' : κ} (h : k ≠ k') :
    (t.erase k).get? k' = t.get? k' := by
  apply Option.ext
  intro w
  rw [get?_eq_some_iff, get?_eq_some_iff]
  simp [erase, Std.LawfulEqCmp.compare_eq_iff_eq, Ne.symm h]

theorem get?_filterMap (f : κ → α → Option β) (t : Table κ α) (k : κ) :
    (t.filterMap f).get? k = (t.get? k).bind (f k) := by
  apply Option.ext
  intro w
  rw [get?_eq_some_iff, Option.bind_eq_some_iff]
  simp only [filterMap, List.mem_filterMap, Option.map_eq_some_iff, Prod.mk.injEq,
    get?_eq_some_iff]
  constructor
  · rintro ⟨⟨k', v⟩, hm, w', hf, rfl, rfl⟩
    exact ⟨v, hm, hf⟩
  · rintro ⟨v, hm, hf⟩
    exact ⟨(k, v), hm, w, hf, rfl, rfl⟩

/-- Ascending entries have no repeats. -/
theorem nodup_of_ascending {es : List (κ × α)}
    (h : es.Pairwise (fun x y => compare x.1 y.1 = .lt)) : es.Nodup := by
  refine h.imp fun {x y} below same => ?_
  rw [same, compare_same] at below
  cases below

variable [Std.TransOrd κ]

theorem mem_insertEntry_iff {k : κ} {v : α} {x : κ × α} {es : List (κ × α)}
    (h : es.Pairwise (fun x y => compare x.1 y.1 = .lt)) :
    x ∈ insertEntry k v es ↔ x = (k, v) ∨ x ∈ es ∧ x.1 ≠ k := by
  induction es with
  | nil => simp [insertEntry]
  | cons e rest ih =>
    rw [List.pairwise_cons] at h
    unfold insertEntry
    split
    next lt =>
      have apart : ∀ y ∈ e :: rest, y.1 ≠ k := by
        intro y hy same
        have below : compare k y.1 = .lt := by
          rcases List.mem_cons.1 hy with rfl | hy
          · exact lt
          · exact Std.TransCmp.lt_trans lt (h.1 y hy)
        rw [same, compare_same] at below
        cases below
      simp only [List.mem_cons] at apart ⊢
      grind
    next eq =>
      have same : k = e.1 := Std.LawfulEqCmp.compare_eq_iff_eq.1 eq
      have apart : ∀ y ∈ rest, y.1 ≠ k := by
        intro y hy here
        have below := h.1 y hy
        rw [here, same, compare_same] at below
        cases below
      simp only [List.mem_cons]
      grind
    next gt =>
      have apart : e.1 ≠ k := by
        intro here
        rw [here, compare_same] at gt
        cases gt
      simp only [List.mem_cons, ih h.2]
      grind

theorem get?_insert [DecidableEq κ] (t : Table κ α) (k k' : κ) (v : α) :
    (t.insert k v).get? k' = if k = k' then some v else t.get? k' := by
  apply Option.ext
  intro w
  rw [get?_eq_some_iff]
  simp only [insert, mem_insertEntry_iff t.ascending]
  split
  next same => subst same; simp [eq_comm]
  next differs =>
    rw [get?_eq_some_iff]
    simp [Ne.symm differs]

@[simp] theorem get?_insert_self (t : Table κ α) (k : κ) (v : α) :
    (t.insert k v).get? k = some v := by
  rw [get?_eq_some_iff]
  simp [insert, mem_insertEntry_iff t.ascending]

theorem get?_insert_of_ne (t : Table κ α) {k k' : κ} (h : k ≠ k') (v : α) :
    (t.insert k v).get? k' = t.get? k' := by
  apply Option.ext
  intro w
  rw [get?_eq_some_iff, get?_eq_some_iff]
  simp [insert, mem_insertEntry_iff t.ascending, Ne.symm h]

/-- Two tables with the same look-ups are equal. -/
theorem ext_get? {s t : Table κ α} (h : ∀ k, s.get? k = t.get? k) : s = t := by
  have members : ∀ x : κ × α, x ∈ s.entries ↔ x ∈ t.entries := fun x => by
    rw [← get?_eq_some_iff, ← get?_eq_some_iff, h]
  have perm := (List.perm_ext_iff_of_nodup (nodup_of_ascending s.ascending)
    (nodup_of_ascending t.ascending)).2 members
  have entries_eq : s.entries = t.entries := by
    refine perm.eq_of_pairwise (fun x y _ _ below above => ?_) s.ascending t.ascending
    have cycle := Std.TransCmp.lt_trans below above
    rw [compare_same] at cycle
    cases cycle
  cases s
  cases t
  simp_all

/-- Of two values put at a key the later one counts. -/
theorem insert_insert [DecidableEq κ] (t : Table κ α) (k : κ) (v w : α) :
    (t.insert k v).insert k w = t.insert k w := by
  apply ext_get?
  intro k'
  simp only [get?_insert]
  split <;> rfl

/-- A value put where it already is changes nothing. -/
theorem insert_of_get? [DecidableEq κ] {t : Table κ α} {k : κ} {v : α} (found : t.get? k = some v) :
    t.insert k v = t := by
  apply ext_get?
  intro k'
  rw [get?_insert]
  split
  next same => rw [← same, found]
  next => rfl

theorem erase_of_get? [DecidableEq κ] {t : Table κ α} {k : κ} (absent : t.get? k = none) :
    t.erase k = t := by
  apply ext_get?
  intro k'
  rw [get?_erase]
  split
  next same => rw [← same, absent]
  next => rfl

theorem erase_insert [DecidableEq κ] (t : Table κ α) (k : κ) (v : α) :
    (t.insert k v).erase k = t.erase k := by
  apply ext_get?
  intro k'
  simp only [get?_erase, get?_insert]
  split <;> rfl

end Table

end Tollgate
