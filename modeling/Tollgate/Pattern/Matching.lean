import Tollgate.Pattern.Regex

/-!
# Matching

Whether a regular expression matches somewhere in a text. A set of positions is a number whose bits
are the positions, and an expression maps the positions where a match may begin to those where it
may end. On a fixed text every set of characters and every condition on a position is such a number
too, so the walk over the expression does nothing but arithmetic on bits.
-/

namespace Tollgate.Pattern

open Unicode (CharSet)

/-- A set of positions: bit `i` says whether position `i` is in it. -/
abbrev Positions := Nat

/-- What an expression does to positions of one text. -/
inductive Motion where
  | stay
  | step (members : Positions)
  | test (members : Positions)
  | times (least : Nat) (most : Option Nat) (body : Motion)
  | seq (parts : List Motion)
  | alt (branches : List Motion)

/-- The positions up to the length of `flags` whose flag is set. -/
def Positions.ofFlags (flags : List Bool) : Positions :=
  flags.foldr (fun flag rest => 2 * rest + flag.toNat) 0

/-- The characters of a text, each with the positions where it stands. -/
abbrev Occurrences := List (Char × Positions)

/-- Notes that a character stands at a position. -/
def Occurrences.note (c : Char) (position : Nat) : Occurrences → Occurrences
  | [] => [(c, 1 <<< position)]
  | (d, here) :: rest =>
    if c = d then (d, here ||| 1 <<< position) :: rest else (d, here) :: note c position rest

/-- The occurrences in a text. -/
def Occurrences.ofText (text : List Char) : Occurrences :=
  text.zipIdx.foldl (fun occurrences (c, position) => occurrences.note c position) []

/-- The positions where a character of a set stands. -/
def Occurrences.members (occurrences : Occurrences) (set : CharSet) : Positions :=
  occurrences.foldl (fun all (c, here) => if set.contains c then all ||| here else all) 0

/-- Whether a character belongs to words, of ASCII or of all scripts. -/
def isWordChar (ascii : Bool) (c : Char) : Bool :=
  (if ascii then asciiLetterClass .word else letterClass .word).contains c

/-- Whether the condition holds between the characters before and after a position. -/
def Look.holds (before after : Option Char) : Look → Bool
  | .textStart => before.isNone
  | .textEnd => after.isNone
  | .lineStart => before.all (· = '\n')
  | .lineEnd => after.all (· = '\n')
  | .crlfLineStart => before.all (fun c => c = '\n' || (c = '\r' && after != some '\n'))
  | .crlfLineEnd => after.all (fun c => c = '\r' || (c = '\n' && before != some '\r'))
  | .wordBoundary ascii => before.any (isWordChar ascii) != after.any (isWordChar ascii)
  | .notWordBoundary ascii => before.any (isWordChar ascii) == after.any (isWordChar ascii)
  | .wordStart ascii => !before.any (isWordChar ascii) && after.any (isWordChar ascii)
  | .wordEnd ascii => before.any (isWordChar ascii) && !after.any (isWordChar ascii)
  | .wordStartHalf ascii => !before.any (isWordChar ascii)
  | .wordEndHalf ascii => !after.any (isWordChar ascii)

/-- The flags of a condition at the positions of a text, given the character before its start. -/
def Look.flags (l : Look) : Option Char → List Char → List Bool
  | before, [] => [l.holds before none]
  | before, c :: rest => l.holds before (some c) :: Look.flags l (some c) rest

mutual

/-- The motion of an expression on a text with the given occurrences. -/
def Regex.motion (text : List Char) (occurrences : Occurrences) : Regex → Motion
  | .empty => .stay
  | .chars set => .step (occurrences.members set)
  | .look l => .test (.ofFlags (l.flags none text))
  | .times least most body => .times least most (body.motion text occurrences)
  | .capture body => body.motion text occurrences
  | .seq parts => .seq (Regex.motions text occurrences parts)
  | .alt branches => .alt (Regex.motions text occurrences branches)

/-- The motions of expressions on a text. -/
def Regex.motions (text : List Char) (occurrences : Occurrences) : List Regex → List Motion
  | [] => []
  | part :: rest => part.motion text occurrences :: Regex.motions text occurrences rest

end

/-- The positions after exactly `count` rounds. Once a round changes nothing, no later one does. -/
def afterRounds (round : Positions → Positions) : Nat → Positions → Positions
  | 0, here => here
  | count + 1, here =>
    let next := round here
    if next = here then here else afterRounds round count next

/-- The positions reached after at most `count` rounds from the `frontier`, besides those `reached`
before; each round goes on from the new positions alone. -/
def spread (round : Positions → Positions) : Nat → Positions → Positions → Positions
  | 0, reached, _ => reached
  | count + 1, reached, frontier =>
    let all := reached ||| round frontier
    let fresh := all ^^^ reached
    if fresh = 0 then reached else spread round count all fresh

mutual

/-- The positions where a match that begins at one of the given positions may end. A spread without
bound needs no more rounds than there are positions. -/
def Motion.ends (size : Nat) : Motion → Positions → Positions
  | .stay, here => here
  | .step members, here => (here &&& members) <<< 1
  | .test members, here => here &&& members
  | .times least most body, here =>
    let start := afterRounds (body.ends size) least here
    let extra := match most with
      | some most => min (most - least) size
      | none => size
    spread (body.ends size) extra start start
  | .seq parts, here => Motion.endsAfter size parts here
  | .alt branches, here => Motion.endsOfAny size branches here

/-- The positions after all parts one after the other. -/
def Motion.endsAfter (size : Nat) : List Motion → Positions → Positions
  | [], here => here
  | part :: rest, here => Motion.endsAfter size rest (part.ends size here)

/-- The positions after any one of the branches. -/
def Motion.endsOfAny (size : Nat) : List Motion → Positions → Positions
  | [], _ => 0
  | branch :: rest, here => branch.ends size here ||| Motion.endsOfAny size rest here

end

/-- Whether the expression matches anywhere in the text. -/
def Regex.isMatch (re : Regex) (text : String) : Bool :=
  let chars := text.toList
  let size := chars.length + 1
  (re.motion chars (.ofText chars)).ends size ((1 <<< size) - 1) != 0

end Tollgate.Pattern
