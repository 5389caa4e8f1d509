import Mathlib.Data.List.Forall2
import Mathlib.Data.List.Nodup
import Tollgate.Json.Record
import Tollgate.Proofs.JsonText

/-!
# What stands for a record

A record may be written in many ways: as an object with its fields in any order, among members of
other names, without fields that hold their default, or as an array of its fields. `Stands` is this
in one relation, over the fields of a record with what each holds. The reader brings all of it into
one list with a value or nothing for each field; `fields?_of_stands` says that this list fits the
fields. A record is then read field by field, and each field by the `Presentation` of its values.
-/

namespace Tollgate.Json

variable {α : Type}

/-! ### What stands for a value -/

/-- What is written for a value stands for it, and nothing else does. -/
def Written (encode : α → Json) (a : α) (json : Json) : Prop := json = encode a

/-- An array stands for a list if its items stand for the elements. -/
def EachOf (form : α → Json → Prop) (as : List α) (json : Json) : Prop :=
  ∃ items, json = .array items ∧ List.Forall₂ form as items

/-- Null stands for nothing. -/
def OrNull (form : α → Json → Prop) : Option α → Json → Prop
  | none, json => json = .null
  | some a, json => form a json

/-- A field of a record that holds something: its name, what stands for what it holds, and whether
it may be left out. -/
structure Field where
  name : String
  stands : Json → Prop
  mayMiss : Prop

/-- A field that must be given. -/
def Field.required (name : String) (form : α → Json → Prop) (a : α) : Field := ⟨name, form a, False⟩

/-- A field that may be left out if it holds its default. -/
def Field.withDefault (name : String) (default : α) (form : α → Json → Prop) (a : α) : Field :=
  ⟨name, form a, a = default⟩

/-- The members are those of the fields in their order, without some that may be left out. -/
inductive Gives : List Field → List (String × Json) → Prop where
  | nil : Gives [] []
  | give {field : Field} {fields : List Field} {value : Json} {members : List (String × Json)}
    (stands : field.stands value) (rest : Gives fields members) :
    Gives (field :: fields) ((field.name, value) :: members)
  | leaveOut {field : Field} {fields : List Field} {members : List (String × Json)}
    (mayMiss : field.mayMiss) (rest : Gives fields members) : Gives (field :: fields) members

/-- What stands for a record with the given fields: an object with the members of the fields and
with members of other names, in any order, or an array of what stands for the fields, at the end of
which fields may be left out too. -/
inductive Stands (fields : List Field) : Json → Prop where
  | object {given unknown members : List (String × Json)} (gives : Gives fields given)
    (strange : ∀ m ∈ unknown, m.1 ∉ fields.map Field.name)
    (order : members.Perm (given ++ unknown)) : Stands fields (.obj members)
  | array {front back : List Field} {items : List Json} (whole : fields = front ++ back)
    (stand : List.Forall₂ Field.stands front items) (mayMiss : ∀ field ∈ back, field.mayMiss) :
    Stands fields (.array items)

/-- What is given for a field, if anything is, stands for what it holds. -/
def Field.IsGiven (field : Field) : Option Json → Prop
  | none => field.mayMiss
  | some value => field.stands value

variable {fields : List Field} {given unknown members : List (String × Json)} {json : Json}

/-- The members of the fields alone. -/
theorem Gives.stands (gives : Gives fields given) : Stands fields (.obj given) :=
  .object gives (List.forall_mem_nil _) (by rw [List.append_nil])

/-! ### Records are read from what stands for them -/

/-- The members of an object as the reader has them. -/
def properly (members : List (String × Json)) : List (JsonText × Json) :=
  members.map fun m => (.proper m.1, m.2)

theorem member?_properly_cons (m : String × Json) (members : List (String × Json)) (name : String) :
    member? (properly (m :: members)) name =
      if m.1 = name then some m.2 else member? (properly members) name := by
  by_cases same : m.1 = name
  · simp [member?, properly, same]
  · simp [member?, properly, same]

theorem Gives.names_sublist (gives : Gives fields given) :
    (given.map Prod.fst).Sublist (fields.map Field.name) := by
  induction gives with
  | nil => exact .slnil
  | give stands rest ih => exact ih.cons_cons _
  | leaveOut mayMiss rest ih => exact ih.cons _

theorem member?_of_absent {name : String} (absent : name ∉ members.map Prod.fst) :
    member? (properly members) name = none := by
  induction members with
  | nil => rfl
  | cons m members ih =>
    rw [List.map_cons, List.mem_cons, not_or] at absent
    rw [member?_properly_cons, if_neg (Ne.symm absent.1), ih absent.2]

theorem Gives.isGiven (gives : Gives fields given) (distinct : (fields.map Field.name).Nodup) :
    ∀ field ∈ fields, field.IsGiven (member? (properly given) field.name) := by
  induction gives with
  | nil => simp
  | @give first fields value members stands rest ih =>
    obtain ⟨apart, distinct⟩ := List.nodup_cons.1 distinct
    intro field member
    rw [member?_properly_cons]
    rcases List.mem_cons.1 member with rfl | member
    · rw [if_pos rfl]
      exact stands
    · have differs : first.name ≠ field.name := fun same =>
        apart (same ▸ List.mem_map_of_mem member)
      rw [if_neg differs]
      exact ih distinct field member
  | @leaveOut first fields members mayMiss rest ih =>
    obtain ⟨apart, distinct⟩ := List.nodup_cons.1 distinct
    intro field member
    rcases List.mem_cons.1 member with rfl | member
    · rw [member?_of_absent fun present => apart (rest.names_sublist.subset present)]
      exact mayMiss
    · exact ih distinct field member

theorem member?_eq_head? (members : List (String × Json)) (name : String) :
    member? (properly members) name =
      ((members.filter (·.1 = name)).head?).map Prod.snd := by
  rw [List.head?_filter]
  induction members with
  | nil => rfl
  | cons m members ih =>
    rw [member?_properly_cons, ih]
    by_cases same : m.1 = name
    · simp [same]
    · simp [same]

/-- The members of a name, among others of other names and in any order. -/
theorem filter_name_of_perm {name : String} (gives : Gives fields given)
    (distinct : (fields.map Field.name).Nodup) (known : name ∈ fields.map Field.name)
    (strange : ∀ m ∈ unknown, m.1 ∉ fields.map Field.name)
    (order : members.Perm (given ++ unknown)) :
    members.filter (·.1 = name) = given.filter (·.1 = name) ∧
      (given.filter (·.1 = name)).length ≤ 1 := by
  have none : unknown.filter (·.1 = name) = [] := by
    rw [List.filter_eq_nil_iff]
    intro m member
    simp only [decide_eq_true_eq]
    rintro rfl
    exact strange m member known
  have perm : (members.filter (·.1 = name)).Perm (given.filter (·.1 = name)) := by
    have := order.filter (·.1 = name)
    rwa [List.filter_append, none, List.append_nil] at this
  have once : (given.filter (·.1 = name)).length ≤ 1 := by
    calc
      (given.filter (·.1 = name)).length = (given.map Prod.fst).count name := by
        rw [List.count, List.countP_map, List.countP_eq_length_filter]
        rfl
      _ ≤ 1 := List.nodup_iff_count_le_one.1 (gives.names_sublist.nodup distinct) name
  refine ⟨?_, once⟩
  -- A permutation of at most one member leaves it where it is.
  generalize given.filter (·.1 = name) = found at perm once
  cases found with
  | nil => exact perm.eq_nil
  | cons m others =>
    have alone : others = [] := by simpa using once
    rw [alone] at perm ⊢
    exact List.perm_singleton.1 perm

theorem atMostOnce_properly (members : List (String × Json)) (name : String) :
    atMostOnce (properly members) name = true ↔
      (members.filter (·.1 = name)).length ≤ 1 := by
  rw [atMostOnce, decide_eq_true_eq, properly, List.filter_map, List.length_map]
  simp only [Function.comp_def, JsonText.proper.injEq]

/-- The reader finds, for each field, nothing or what stands for what it holds. -/
theorem fields?_of_stands (stands : Stands fields json) (distinct : (fields.map Field.name).Nodup) :
    ∃ values, fields? (fields.map Field.name) json = some values ∧
      List.Forall₂ Field.IsGiven fields values := by
  cases stands with
  | @object given unknown members gives strange order =>
    have single {name : String} (known : name ∈ fields.map Field.name) :=
      filter_name_of_perm gives distinct known strange order
    refine ⟨fields.map fun field => member? (properly members) field.name, ?_, ?_⟩
    · have once : (fields.map Field.name).all (atMostOnce (properly members)) = true := by
        rw [List.all_eq_true]
        intro name known
        rw [atMostOnce_properly, (single known).1]
        exact (single known).2
      have same : obj members = .object (properly members) := rfl
      rw [same, fields?, if_pos, List.map_map]
      · rfl
      · rw [once, Bool.and_true]
        simp [properly]
    · rw [List.forall₂_map_right_iff, List.forall₂_same]
      intro field known
      have found := (single (List.mem_map_of_mem known)).1
      rw [member?_eq_head?, found, ← member?_eq_head?]
      exact gives.isGiven distinct field known
  | @array front back items whole stand mayMiss =>
    have lengths : front.length = items.length := stand.length_eq
    refine ⟨items.map some ++ List.replicate back.length none, ?_, ?_⟩
    · have size : (fields.map Field.name).length = items.length + back.length := by
        rw [List.length_map, whole, List.length_append, lengths]
      rw [fields?, size, if_pos (Nat.le_add_right _ _), Nat.add_sub_cancel_left]
    · rw [whole]
      apply List.rel_append
      · rw [List.forall₂_map_right_iff]
        exact stand
      · rw [← List.map_const', List.forall₂_map_right_iff, List.forall₂_same]
        exact mayMiss

/-! ### Presentations -/

/-- An encoder and a reader, and what stands for a value: among that what the encoder gives, which
can be written down exactly. From all that stands for a value the reader has the value. -/
structure Presentation (encode : α → Json) (read : Json → Option α) (form : α → Json → Prop) :
    Prop where
  exact (a : α) : IsExact (encode a)
  stands (a : α) : form a (encode a)
  reads (a : α) (json : Json) (stands : form a json) : read json = some a

variable {encode : α → Json} {read : Json → Option α} {form : α → Json → Prop}

/-- Nothing but what is written stands for a value. -/
theorem Presentation.written (exact : ∀ a, IsExact (encode a))
    (inverse : ∀ a, read (encode a) = some a) : Presentation encode read (Written encode) where
  exact := exact
  stands _ := rfl
  reads := by
    rintro a _ rfl
    exact inverse a

theorem Presentation.list (presentation : Presentation encode read form) :
    Presentation (Json.list encode) (listOf read) (EachOf form) where
  exact as := by
    apply IsExact.array
    intro item member
    obtain ⟨a, -, rfl⟩ := List.mem_map.1 member
    exact presentation.exact a
  stands as := by
    refine ⟨as.map encode, rfl, ?_⟩
    rw [List.forall₂_map_right_iff, List.forall₂_same]
    exact fun a _ => presentation.stands a
  reads := by
    rintro as _ ⟨items, rfl, stand⟩
    rw [listOf]
    induction stand with
    | nil => rfl
    | cons first rest ih => simp [List.mapM_cons, presentation.reads _ _ first, ih]

/-- Null may stand for nothing if it stands for no value. -/
theorem Presentation.opt (presentation : Presentation encode read form)
    (notNull : read .null = none) :
    Presentation (Json.opt encode) (nullable read) (OrNull form) where
  exact
    | none => .null
    | some a => presentation.exact a
  stands
    | none => rfl
    | some a => presentation.stands a
  reads a json stands := by
    cases a with
    | none =>
      rw [show json = .null from stands]
      rfl
    | some a =>
      have value := presentation.reads a json stands
      cases json with
      | null =>
        rw [notNull] at value
        cases value
      | _ => simp [nullable, value]

theorem Presentation.required (presentation : Presentation encode read form) {name : String}
    {a : α} {given : Option Json} (isGiven : (Field.required name form a).IsGiven given) :
    Json.required read given = some a := by
  cases given with
  | none => exact isGiven.elim
  | some value => exact presentation.reads a value isGiven

theorem Presentation.withDefault (presentation : Presentation encode read form) {name : String}
    {default a : α} {given : Option Json}
    (isGiven : (Field.withDefault name default form a).IsGiven given) :
    Json.withDefault default read given = some a := by
  cases given with
  | none => exact congrArg some (Eq.symm isGiven)
  | some value => exact presentation.reads a value isGiven

/-! ### Texts -/

/-- The value that a text has for a reader. -/
def decode? (read : Json → Option α) (text : String) : Option α := (parse? text).bind read

/-- What is written for a value stands for it and is decoded to it, and so is every text of what
stands for it. -/
structure RoundTrips (encode : α → Json) (read : Json → Option α) (form : α → Json → Prop) :
    Prop where
  stands (a : α) : form a (encode a)
  decode?_write (a : α) : decode? read (encode a).write = some a
  decode?_form (a : α) (text : String) (json : Json) (parsed : parse? text = some json)
    (stands : form a json) : decode? read text = some a

theorem Presentation.roundTrips (presentation : Presentation encode read form) :
    RoundTrips encode read form where
  stands := presentation.stands
  decode?_write a := by
    rw [decode?, parse?_write (presentation.exact a), Option.bind_some]
    exact presentation.reads a _ (presentation.stands a)
  decode?_form a text json parsed stands := by
    rw [decode?, parsed, Option.bind_some]
    exact presentation.reads a json stands

end Tollgate.Json
