import Tollgate.Net.IpAddr
import Tollgate.Hex

/-!
# IP addresses as text

Version 4 is four decimal octets without leading zeros. Version 6 is eight groups of at most four
hexadecimal digits, of which one run of zero groups may be left out and the last two may be written
as an address of version 4. The longest run of at least two zero groups is left out when writing,
the first if several are longest, and only addresses that stand for one of version 4 are written
with dots.
-/

namespace Tollgate.IpAddr

/-- The octets of an address of version 4. -/
def octets (bits : BitVec 32) : List Nat :=
  [3, 2, 1, 0].map (fun i => bits.toNat >>> (8 * i) % 256)

/-- The groups of an address of version 6. -/
def groups (bits : BitVec 128) : List Nat :=
  [7, 6, 5, 4, 3, 2, 1, 0].map (fun i => bits.toNat >>> (16 * i) % 65536)

/-- The number whose digits in a base are given, most significant first. -/
def ofDigits (base : Nat) (digits : List Nat) : Nat :=
  digits.foldl (fun n d => base * n + d) 0

/-- Decimal octets with dots between them. -/
def writeV4 (bits : BitVec 32) : String :=
  ".".intercalate ((octets bits).map toString)

/-- A group without leading zeros. -/
def writeGroup (g : Nat) : String :=
  String.ofList (Nat.toDigits 16 g)

/-- Groups with colons between them. -/
def writeGroups (gs : List Nat) : String := ":".intercalate (gs.map writeGroup)

/-- The length of the run of zeros that a list begins with. -/
def zeroRun (gs : List Nat) : Nat := (gs.takeWhile (· = 0)).length

/-- The start and the length of the first longest run of zeros. -/
def longestZeroRun (gs : List Nat) : Nat × Nat :=
  (List.range gs.length).foldl (fun best start =>
    let length := zeroRun (gs.drop start)
    if length > best.2 then (start, length) else best) (0, 0)

/-- The text of an address of version 6. -/
def writeV6 (bits : BitVec 128) : String :=
  let gs := groups bits
  if gs.take 6 = [0, 0, 0, 0, 0, 0xFFFF] then "::ffff:" ++ writeV4 (bits.setWidth 32)
  else
    let (start, length) := longestZeroRun gs
    if length > 1 then writeGroups (gs.take start) ++ "::" ++ writeGroups (gs.drop (start + length))
    else writeGroups gs

/-- The text of an address. -/
def text : IpAddr → String
  | .v4 bits => writeV4 bits
  | .v6 bits => writeV6 bits

/-- A decimal number below 256 without a leading zero. -/
def readOctet (cs : List Char) : Option (Nat × List Char) :=
  let digits := cs.takeWhile Char.isDigit
  let n := digits.foldl (fun n c => 10 * n + (c.toNat - 48)) 0
  if digits.isEmpty ∨ digits.length > 3 ∨ n > 255 ∨ (digits.head? = some '0' ∧ digits.length > 1)
  then none
  else some (n, cs.drop digits.length)

/-- The given number of octets, with dots between them. -/
def readOctets : Nat → List Char → Option (List Nat × List Char)
  | 0, cs => some ([], cs)
  | 1, cs => do
    let (octet, rest) ← readOctet cs
    return ([octet], rest)
  | count + 1, cs => do
    let (octet, rest) ← readOctet cs
    match rest with
    | '.' :: rest =>
      let (octets, rest) ← readOctets count rest
      return (octet :: octets, rest)
    | _ => none

/-- An address of version 4. -/
def readV4 (cs : List Char) : Option (BitVec 32 × List Char) := do
  let (octets, rest) ← readOctets 4 cs
  return (BitVec.ofNat 32 (ofDigits 256 octets), rest)

/-- A group of one to four hexadecimal digits. -/
def readGroup (cs : List Char) : Option (Nat × List Char) :=
  let digits := cs.takeWhile (fun c => (Hex.digit? c).isSome)
  if digits.isEmpty ∨ digits.length > 4 then none
  else (Hex.value? digits).map (fun n => (n, cs.drop digits.length))

/-- Up to the given number of groups, with colons between them, until something else comes. A dotted
address ends them and counts for two; the flag says whether one did. -/
def readGroups : Nat → Bool → List Char → List Nat × Bool × List Char
  | 0, _, cs => ([], false, cs)
  | left + 1, first, cs =>
    let body? := if first then some cs else match cs with
      | ':' :: rest => some rest
      | _ => none
    match body? with
    | none => ([], false, cs)
    | some body =>
      match if left ≥ 1 then readV4 body else none with
      | some (bits, rest) => ([bits.toNat / 65536, bits.toNat % 65536], true, rest)
      | none =>
        match readGroup body with
        | none => ([], false, cs)
        | some (g, rest) =>
          let (gs, dotted, rest) := readGroups left false rest
          (g :: gs, dotted, rest)

/-- An address of version 6; a double colon stands for at least one group. -/
def readV6 (cs : List Char) : Option (BitVec 128 × List Char) :=
  let make (gs : List Nat) (rest : List Char) : Option (BitVec 128 × List Char) :=
    some (BitVec.ofNat 128 (ofDigits 65536 gs), rest)
  match readGroups 8 true cs with
  | (front, dotted, rest) =>
    if front.length = 8 then make front rest
    else if dotted then none
    else match rest with
      | ':' :: ':' :: rest =>
        let (back, _, rest) := readGroups (7 - front.length) true rest
        make (front ++ List.replicate (8 - front.length - back.length) 0 ++ back) rest
      | _ => none

/-- The address that a whole text writes. -/
def ofText? (s : String) : Option IpAddr :=
  match readV4 s.toList with
  | some (bits, []) => some (.v4 bits)
  | some _ => none
  | none =>
    match readV6 s.toList with
    | some (bits, []) => some (.v6 bits)
    | _ => none

end Tollgate.IpAddr
