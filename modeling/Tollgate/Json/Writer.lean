import Tollgate.Json.Basic
import Tollgate.Hex

/-!
# Writing JSON

Compact text: no white space, quotes and backslashes escaped, control characters as hexadecimal
escapes, everything else as it is.
-/

namespace Tollgate.Json

/-- A character inside a string literal. -/
def writeChar (c : Char) : List Char :=
  if c = '"' then ['\\', '"']
  else if c = '\\' then ['\\', '\\']
  else if c.toNat < 0x20 then ['\\', 'u'] ++ Hex.fixed 4 c.toNat
  else [c]

/-- A string literal. -/
def writeText : JsonText → String
  | .proper s => "\"" ++ String.ofList (s.toList.flatMap writeChar) ++ "\""
  | .broken literal => "\"" ++ literal ++ "\""

mutual

/-- The text of a value. -/
def write : Json → String
  | .null => "null"
  | .bool true => "true"
  | .bool false => "false"
  | .integer n => toString n
  | .real literal => literal
  | .text t => writeText t
  | .array items => "[" ++ ",".intercalate (writeItems items) ++ "]"
  | .object members => "\x7b" ++ ",".intercalate (writeMembers members) ++ "\x7d"

/-- The texts of items. -/
def writeItems : List Json → List String
  | [] => []
  | item :: rest => item.write :: writeItems rest

/-- The texts of members. -/
def writeMembers : List (JsonText × Json) → List String
  | [] => []
  | (name, value) :: rest => (writeText name ++ ":" ++ value.write) :: writeMembers rest

end

end Tollgate.Json
