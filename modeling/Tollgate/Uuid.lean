import Tollgate.Hex

/-!
# Unique identifiers

Identifiers of 128 bits. They are read in four spellings: plain digits, digits with hyphens after
the 8th, 12th, 16th and 20th, and the hyphenated form in braces or behind its name prefix. They are
written in lower case with hyphens.
-/

namespace Tollgate

/-- A unique identifier. -/
structure Uuid where
  bits : BitVec 128
deriving DecidableEq, Repr, Inhabited

namespace Uuid

/-- The identifier that 32 digits write. -/
def ofDigits? (cs : List Char) : Option Uuid :=
  if cs.length = 32 then (Hex.value? cs).map (fun n => ⟨BitVec.ofNat 128 n⟩) else none

/-- The identifier in the hyphenated form. -/
def ofHyphenated? (cs : List Char) : Option Uuid :=
  if [8, 13, 18, 23].all (fun i => cs[i]? = some '-') then
    ofDigits? (cs.take 8 ++ (cs.drop 9).take 4 ++ (cs.drop 14).take 4 ++ (cs.drop 19).take 4 ++
      cs.drop 24)
  else none

/-- The identifier that a text writes in any of the four spellings. -/
def ofText? (s : String) : Option Uuid :=
  let cs := s.toList
  match cs.length with
  | 32 => ofDigits? cs
  | 36 => ofHyphenated? cs
  | 38 =>
    if cs.head? = some '\x7b' ∧ cs.getLast? = some '\x7d' then ofHyphenated? (cs.tail.take 36)
    else none
  | 45 =>
    if String.ofList (cs.take 9) ∈ ["urn:uuid:", "URN:UUID:"] then ofHyphenated? (cs.drop 9)
    else none
  | _ => none

/-- The identifier in lower case with hyphens. -/
def text (u : Uuid) : String :=
  let cs := Hex.fixed 32 u.bits.toNat
  String.ofList (cs.take 8 ++ '-' :: (cs.drop 8).take 4 ++ '-' :: (cs.drop 12).take 4 ++
    '-' :: (cs.drop 16).take 4 ++ '-' :: cs.drop 20)

end Uuid

end Tollgate
