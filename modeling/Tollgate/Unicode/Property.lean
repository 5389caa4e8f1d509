import Tollgate.Unicode.Category
import Tollgate.Unicode.Script
import Tollgate.Unicode.Binary
import Tollgate.Unicode.Age
import Tollgate.Unicode.Segmentation

/-!
# Character properties by name

Queries such as "Greek", "Lu" or "script extensions Greek", with names compared loosely: case,
blanks, hyphens, underscores and a leading "is" make no difference. A bare name is looked for among
binary properties, then general categories, then scripts.
-/

namespace Tollgate.Unicode

/-- A query for a set of characters: a bare name, or a property with a value. -/
inductive PropertyQuery where
  | bare (name : String)
  | valued (property value : String)
deriving DecidableEq, Repr

/-- A name without what loose comparison ignores. The leading "is" stays in "isc", which is a
property's own short name. -/
def canonicalName (name : String) : String :=
  let (isMarked, body) := match name.toList with
    | i :: s :: rest =>
      if (i = 'i' ∨ i = 'I') ∧ (s = 's' ∨ s = 'S') then (true, rest) else (false, name.toList)
    | short => (false, short)
  let kept := body.filter (fun c => c.toNat ≤ 0x7F ∧ c ≠ ' ' ∧ c ≠ '_' ∧ c ≠ '-')
  let lowered := String.ofList (kept.map Char.toLower)
  if isMarked ∧ lowered = "c" then "isc" else lowered

/-- The set of a bare canonical name. -/
def bareProperty? (name : String) : Option CharSet :=
  binaryProperty? name <|> generalCategory? name <|> script? name

/-- The set of a property's value, both in canonical spelling. -/
def valuedProperty? (property value : String) : Option CharSet :=
  if property ∈ ["gc", "generalcategory"] then generalCategory? value
  else if property ∈ ["sc", "script"] then script? value
  else if property ∈ ["scx", "scriptextensions"] then scriptExtensions? value
  else if property = "age" then assignedBy? value
  else if property ∈ ["gcb", "graphemeclusterbreak"] then NamedRanges.find? graphemeBreaks value
  else if property ∈ ["wb", "wordbreak"] then NamedRanges.find? wordBreaks value
  else if property ∈ ["sb", "sentencebreak"] then NamedRanges.find? sentenceBreaks value
  else none

/-- The characters a query asks for, or nothing if there is no such property or value. -/
def PropertyQuery.set? : PropertyQuery → Option CharSet
  | .bare name => bareProperty? (canonicalName name)
  | .valued property value => valuedProperty? (canonicalName property) (canonicalName value)

/-- Decimal digits of all scripts. -/
def digits : CharSet := category "nd"

/-- Characters of words: alphabetic characters, marks, digits, connectors and joiners. -/
def wordChars : CharSet :=
  [categoryUnion ["mn", "mc", "me", "nd", "pc"],
    binaryProperty? "joincontrol" |>.getD .empty].foldl .union alphabetic

/-- Whether a character is alphabetic. -/
def isAlphabetic (c : Char) : Bool := alphabetic.contains c

/-- Whether a character is a number of any kind. -/
def isNumeric (c : Char) : Bool := (categoryUnion ["nd", "nl", "no"]).contains c

/-- Whether a character is white space. -/
def isWhiteSpace (c : Char) : Bool := whiteSpace.contains c

end Tollgate.Unicode
