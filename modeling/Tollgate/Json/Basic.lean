/-!
# JSON values

The values that JSON text writes, in as much detail as readers of records need: integers apart from
other numbers, the members of an object in the order written and with their repeats, and string
literals whose escapes do not make text apart from text.
-/

namespace Tollgate

/-- A string literal: the text it stands for, or the literal itself if one of its escapes is half a
surrogate pair. -/
inductive JsonText where
  | proper (text : String)
  | broken (literal : String)
deriving DecidableEq, Repr, Inhabited

/-- A JSON value. -/
inductive Json where
  | null
  | bool (b : Bool)
  | integer (n : Int)
  /-- A number with a fraction, an exponent or a negative zero, as it was written. -/
  | real (literal : String)
  | text (t : JsonText)
  | array (items : List Json)
  | object (members : List (JsonText × Json))
deriving Repr, Inhabited

namespace Json

/-- The value for a text. -/
def str (s : String) : Json := .text (.proper s)

/-- The value for a natural number. -/
def nat (n : Nat) : Json := .integer n

/-- The object with the given members. -/
def obj (members : List (String × Json)) : Json :=
  .object (members.map (fun m => (.proper m.1, m.2)))

/-- The value for an optional one; nothing is null. -/
def opt {α : Type} (encode : α → Json) : Option α → Json
  | none => .null
  | some a => encode a

/-- The array of encoded elements. -/
def list {α : Type} (encode : α → Json) (xs : List α) : Json := .array (xs.map encode)

end Json

end Tollgate
