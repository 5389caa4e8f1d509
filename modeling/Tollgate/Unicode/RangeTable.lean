import Tollgate.Unicode.CharSet

/-!
# Range tables

Sets of characters written as text. A table is a sequence of numbers, two for each range: the gap
from the end of the range before, and the length less one. A number is written in base 32, least
digit first; the first half of the sixty-four digits ends a number and the second half goes on.
-/

namespace Tollgate.Unicode

/-- The value of a digit, from 0 to 63; digits from 32 on announce another digit. -/
def digitValue (c : Char) : Nat :=
  let n := c.toNat
  if '0' ≤ c ∧ c ≤ '9' then n - 48
  else if 'a' ≤ c ∧ c ≤ 'v' then n - 87
  else if 'A' ≤ c ∧ c ≤ 'Z' then n - 33
  else if c = 'w' then 58
  else if c = 'x' then 59
  else if c = 'y' then 60
  else if c = 'z' then 61
  else if c = '+' then 62
  else 63

namespace RangeTable

/-- The numbers that digits write, given what the unfinished number adds up to and the weight of
its next digit. -/
def readNumbers : Nat → Nat → List Char → List Nat
  | _, _, [] => []
  | sum, weight, c :: rest =>
    let d := digitValue c
    if d < 32 then (sum + d * weight) :: readNumbers 0 1 rest
    else readNumbers (sum + (d - 32) * weight) (weight * 32) rest

/-- The numbers of a table. -/
def numbers (table : String) : List Nat := readNumbers 0 1 table.toList

/-- The ranges that gaps and lengths describe, from `start` on. -/
def readRanges : Nat → List Nat → List (Nat × Nat)
  | start, gap :: length :: rest =>
    (start + gap, start + gap + length) :: readRanges (start + gap + length + 1) rest
  | _, _ => []

/-- The set that a table describes. -/
def decode (table : String) : CharSet := ⟨readRanges 0 (numbers table)⟩

end RangeTable

/-- A set of characters with the canonical spellings of its names. -/
structure NamedRanges where
  names : List String
  table : String

namespace NamedRanges

/-- The characters of an entry. -/
def set (entry : NamedRanges) : CharSet := RangeTable.decode entry.table

/-- The characters of the first entry with the given name. -/
def find? (entries : List NamedRanges) (name : String) : Option CharSet :=
  (entries.find? (fun entry => name ∈ entry.names)).map set

end NamedRanges

end Tollgate.Unicode
