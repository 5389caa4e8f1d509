import Tollgate.Pattern.Reduced

/-!
# Program size

An estimate of the memory that byte automata for a pattern take, one that reads text forward and
one that reads it backward. A pattern whose automata would be too large is refused, so that counts
such as a thousand times a thousand cost nothing.
-/

namespace Tollgate.Pattern

open Unicode (CharSet)

/-- Memory of a state, of an edge out of a branching byte state, and of one branch of a choice. -/
def stateCost : Nat := 32
@[inherit_doc stateCost] def edgeCost : Nat := 8
@[inherit_doc stateCost] def branchCost : Nat := 4

/-- The most memory an automaton may take: ten mebibytes. -/
def sizeLimit : Nat := 10 * 1024 * 1024

/-- The values of one byte, both ends included. -/
abbrev ByteRange := Nat × Nat

/-- The byte sequences of the numbers from `lo` to `hi` written with `count` continuation bytes
after a first byte that starts at `lead`. -/
def byteSequences : Nat → Nat → Nat → Nat → List (List ByteRange)
  | 0, lead, lo, hi => [[(lead + lo, lead + hi)]]
  | count + 1, lead, lo, hi =>
    let unit := 1 <<< (6 * (count + 1))
    let (first, last) := (lo / unit, hi / unit)
    let at_ (digit lo hi : Nat) : List (List ByteRange) :=
      (byteSequences count 0x80 lo hi).map ((lead + digit, lead + digit) :: ·)
    if first = last then at_ first (lo % unit) (hi % unit)
    else
      let headWhole := lo % unit = 0
      let tailWhole := hi % unit = unit - 1
      let start := if headWhole then first else first + 1
      let stop := if tailWhole then last + 1 else last
      let continuation := List.replicate (count + 1) (0x80, 0xBF)
      (if headWhole then [] else at_ first (lo % unit) (unit - 1)) ++
        (if start < stop then [(lead + start, lead + stop - 1) :: continuation] else []) ++
        (if tailWhole then [] else at_ last 0 (hi % unit))

/-- The UTF-8 byte sequences of the characters of a range, by their lengths. -/
def utf8Sequences (range : Nat × Nat) : List (List ByteRange) :=
  let part (count lead lo hi : Nat) : List (List ByteRange) :=
    let (lo, hi) := (max lo range.1, min hi range.2)
    if lo ≤ hi then byteSequences count lead lo hi else []
  part 0 0x00 0x00 0x7F ++ part 1 0xC0 0x80 0x7FF ++ part 2 0xE0 0x800 0xD7FF ++
    part 2 0xE0 0xE000 0xFFFF ++ part 3 0xF0 0x10000 0x10FFFF

/-- The states of an automaton for byte sequences: for each the ranges out of it and the numbers of
the states they lead to. Equal states are kept once. -/
abbrev StateTable := List (List (ByteRange × Nat))

/-- The number of a state in a table, which is extended if the state is new. -/
def StateTable.intern (table : StateTable) (state : List (ByteRange × Nat)) : Nat × StateTable :=
  match table.findIdx? (· == state) with
  | some i => (i + 1, table)
  | none => (table.length + 1, table ++ [state])

/-- The state that reads any of the sequences, which are at most `depth` bytes long; number 0 is
the end. -/
def addSequences : Nat → List (List ByteRange) → StateTable → Nat × StateTable
  | 0, _, table => (0, table)
  | depth + 1, sequences, table =>
    let groups := (sequences.filter (!·.isEmpty)).splitBy (fun s t => s.head? == t.head?)
    let (state, table) := groups.foldl (fun (state, table) group =>
      match group with
      | (byte :: _) :: _ =>
        let tails := (group.map List.tail).filter (!·.isEmpty)
        if tails.isEmpty then (state ++ [(byte, 0)], table)
        else
          let (next, table) := addSequences depth tails table
          (state ++ [(byte, next)], table)
      | _ => (state, table)) ([], table)
    table.intern state

/-- The memory of the states for a set of characters beyond ASCII, reading forward: states with
equal continuations are shared. -/
def forwardSetCost (set : CharSet) : Nat :=
  let (_, table) := addSequences 4 (set.ranges.flatMap utf8Sequences) []
  table.foldl (fun sum state => sum + stateCost + edgeCost * state.length) stateCost

/-- The length of the longest common beginning. -/
def commonLength : List ByteRange → List ByteRange → Nat
  | x :: xs, y :: ys => if x = y then commonLength xs ys + 1 else 0
  | _, _ => 0

/-- The memory of the states for a set of characters beyond ASCII, reading backward: sequences
share the states for the bytes they begin with. -/
def backwardSetCost (set : CharSet) : Nat :=
  let sequences := set.ranges.flatMap utf8Sequences
  let states := (sequences.zip ([] :: sequences)).foldl
    (fun sum (this, previous) => sum + (this.length - commonLength this previous)) 0
  stateCost * (states + 2) + branchCost * sequences.length

/-- The memory of the states for a set of characters. -/
def setCost (backward : Bool) (set : CharSet) : Nat :=
  if set.isAscii then 2 * stateCost + edgeCost * set.ranges.length
  else if backward then backwardSetCost set
  else forwardSetCost set

/-- The bytes of a word in the order in which they are read. -/
def wordBytes (backward : Bool) (text : List Char) : List UInt8 :=
  let bytes := text.flatMap String.utf8EncodeChar
  if backward then bytes.reverse else bytes

/-- The groups of words between those that are at their end. -/
def groupsBetweenEnds : List (List UInt8) → List (List (List UInt8))
  | [] => [[]]
  | [] :: rest => [] :: groupsBetweenEnds rest
  | word :: rest =>
    match groupsBetweenEnds rest with
    | group :: others => (word :: group) :: others
    | [] => [[word]]

/-- The memory of the states for a choice among words that are at most `depth` bytes long: a tree
in which words share the states for the bytes they begin with. A word that ends keeps those before
it and those after it apart. -/
def wordTreeCost : Nat → List (List UInt8) → Nat
  | 0, _ => 0
  | depth + 1, words =>
    let started := words.dropWhile List.isEmpty
    let ends := (words.take 1).countP List.isEmpty + started.countP List.isEmpty
    let groups := (groupsBetweenEnds started).filter (!·.isEmpty)
    stateCost + branchCost * (ends + groups.length) + (groups.map fun group =>
      let bytes := (group.filterMap List.head?).eraseDups
      let edges := if bytes.length = 1 then 0 else edgeCost * bytes.length
      stateCost + edges + (bytes.map fun byte =>
        let tails := (group.filter (·.head? == some byte)).map List.tail
        if tails.all List.isEmpty then 0 else wordTreeCost depth tails).foldr (· + ·) 0
      ).foldr (· + ·) 0

/-- The memory of the states for a choice among words. -/
def wordChoiceCost (backward : Bool) (words : List (List Char)) : Nat :=
  let words := words.map (wordBytes backward)
  stateCost + wordTreeCost ((words.map List.length).foldr max 0) words

/-- The memory of a repetition of what takes `body`. -/
def repetitionCost (least : Nat) (most : Option Nat) (neverEmpty : Bool) (body : Nat) : Nat :=
  let choice := stateCost + 2 * branchCost
  match least, most with
  | 0, none => if neverEmpty then body + choice else body + 2 * choice + stateCost
  | least, none => least * body + choice
  | 0, some 1 => body + choice + stateCost
  | 0, some most => stateCost + stateCost + most * (choice + body)
  | least, some most =>
    if least = most then least * body
    else least * body + stateCost + (most - least) * (choice + body)

mutual

/-- The memory of the states for an expression. -/
def Reduced.cost (backward : Bool) : Reduced → Nat
  | .empty => stateCost
  | .word text => stateCost * (wordBytes backward text).length
  | .chars set => setCost backward set
  | .look _ => stateCost
  | .times least most body => repetitionCost least most body.isNeverEmpty (body.cost backward)
  | .capture body => body.cost backward + if backward then 0 else 2 * stateCost
  | .seq parts => Reduced.totalCost backward parts
  | .alt branches =>
    match branches.mapM Reduced.text? with
    | some words => wordChoiceCost backward words
    | none => Reduced.totalCost backward branches + 2 * stateCost + branchCost * branches.length

/-- The memory of the states for all expressions together. -/
def Reduced.totalCost (backward : Bool) : List Reduced → Nat
  | [] => 0
  | part :: rest => part.cost backward + Reduced.totalCost backward rest

end

/-- The memory of an automaton: the states for the expression, for the search of a place where it
begins, for the end and, reading forward, for the bounds of the match. -/
def Reduced.footprint (backward : Bool) (expression : Reduced) : Nat :=
  expression.cost backward + (if backward then 4 else 6) * stateCost + 2 * edgeCost

/-- The memory of both automata is within the limit. -/
def Regex.fits (re : Regex) : Bool :=
  let expression := re.reduce
  expression.footprint false ≤ sizeLimit && expression.footprint true ≤ sizeLimit

end Tollgate.Pattern
