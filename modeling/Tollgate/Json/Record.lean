import Tollgate.Json.Basic

/-!
# Records in JSON

How a record with named fields is read: from an object, in any order and with members the record
does not know, or from an array of its fields in the order of their declaration. Both come down to
one list with a value or nothing for each field; each field then says what it makes of that.
-/

namespace Tollgate.Json

/-- The value given for a name; nothing if there is none. -/
def member? (members : List (JsonText × Json)) (name : String) : Option Json :=
  (members.find? (·.1 = .proper name)).map (·.2)

/-- Whether a name is given at most once. -/
def atMostOnce (members : List (JsonText × Json)) (name : String) : Bool :=
  (members.filter (·.1 = .proper name)).length ≤ 1

/-- What is given for each of a record's fields. Names must be proper text and a field may be given
once only; an array may be shorter than the record but not longer. -/
def fields? (names : List String) : Json → Option (List (Option Json))
  | .object members =>
    if members.all (fun m => match m.1 with | .proper _ => true | .broken _ => false) &&
        names.all (atMostOnce members) then
      some (names.map (member? members))
    else none
  | .array items =>
    if items.length ≤ names.length then
      some (items.map some ++ List.replicate (names.length - items.length) none)
    else none
  | _ => none

/-- A field that must be given. -/
def required {α : Type} (read : Json → Option α) (given : Option Json) : Option α :=
  given.bind read

/-- A field with a default. -/
def withDefault {α : Type} (default : α) (read : Json → Option α) : Option Json → Option α
  | none => some default
  | some value => read value

/-- A value or null. -/
def nullable {α : Type} (read : Json → Option α) : Json → Option (Option α)
  | .null => some none
  | value => (read value).map some

/-- An array of values. -/
def listOf {α : Type} (read : Json → Option α) : Json → Option (List α)
  | .array items => items.mapM read
  | _ => none

/-- A text. -/
def asText? : Json → Option String
  | .text (.proper s) => some s
  | _ => none

/-- A truth value. -/
def asBool? : Json → Option Bool
  | .bool b => some b
  | _ => none

/-- An integer within bounds. -/
def asInt? (least greatest : Int) : Json → Option Int
  | .integer n => if least ≤ n ∧ n ≤ greatest then some n else none
  | _ => none

/-- A word of 64 bits. -/
def asUInt64? (value : Json) : Option UInt64 :=
  (asInt? 0 18446744073709551615 value).map (fun n => UInt64.ofNat n.toNat)

/-- A word of 32 bits. -/
def asUInt32? (value : Json) : Option UInt32 :=
  (asInt? 0 4294967295 value).map (fun n => UInt32.ofNat n.toNat)

/-- A signed word of 64 bits. -/
def asInt64? (value : Json) : Option Int64 :=
  (asInt? (-9223372036854775808) 9223372036854775807 value).map Int64.ofInt

end Tollgate.Json
