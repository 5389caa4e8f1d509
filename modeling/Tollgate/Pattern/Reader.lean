import Tollgate.Pattern.Bracket

/-!
# Reading patterns

From the text of a pattern to its syntax tree. The reader goes through the text once and keeps the
groups that are still open on a stack; the tree is refused if it nests deeper than the limit.
-/

namespace Tollgate.Pattern

/-- The greatest depth a pattern may nest to. -/
def depthLimit : Nat := 250

/-- A group that is still open around the place being read: what came before it, and its head. -/
structure OpenGroup where
  branches : List Syntax
  parts : List Syntax
  captures : Bool
  changes : SettingChanges
  blanks : Bool

/-- How far a pattern has been read: the parts of the current branch and the branches before it,
both last first, the groups around, the names given, and whether blanks are skipped. -/
structure Progress where
  parts : List Syntax := []
  branches : List Syntax := []
  around : List OpenGroup := []
  names : List String := []
  blanks : Bool := false

namespace Progress

/-- The progress with one more part. -/
def push (p : Progress) (part : Syntax) : Progress := { p with parts := part :: p.parts }

/-- What the current group holds if it ended here. -/
def body (p : Progress) : Syntax :=
  let branch := Syntax.ofParts p.parts.reverse
  if p.branches.isEmpty then branch else .ofBranches (branch :: p.branches).reverse

/-- The progress after a bar: a new branch begins. -/
def bar (p : Progress) : Progress :=
  { p with branches := .ofParts p.parts.reverse :: p.branches, parts := [] }

/-- The value that changes give to the setting for blanks, if they name it. -/
def blanksAfter (changes : SettingChanges) (blanks : Bool) : Bool :=
  match changes.find? (·.1 = .ignoreBlanks) with
  | some (_, value) => value
  | none => blanks

/-- The progress after an opening bracket and the head that follows it. -/
def enter (p : Progress) : GroupHead → Except Fault Progress
  | .change changes =>
    .ok { p.push (.settings changes) with blanks := blanksAfter changes p.blanks }
  | .group captures name changes =>
    if name.any (· ∈ p.names) then .error .badGroupName
    else if p.around.length ≥ depthLimit then .error .tooDeep
    else
      .ok {
        around := ⟨p.branches, p.parts, captures, changes, p.blanks⟩ :: p.around
        names := name.toList ++ p.names
        blanks := blanksAfter changes p.blanks }

/-- The progress after a closing bracket. -/
def leave (p : Progress) : Except Fault Progress :=
  match p.around with
  | [] => .error .unopenedGroup
  | g :: around =>
    .ok {
      parts := .group g.captures g.changes p.body :: g.parts
      branches := g.branches
      around, names := p.names, blanks := g.blanks }

/-- The progress with the last part repeated; there must be one that can be. -/
def repeatLast (p : Progress) (least : Nat) (most : Option Nat) : Except Fault Progress :=
  match p.parts with
  | [] | .empty :: _ | .settings _ :: _ => .error .missingOperand
  | part :: parts => .ok { p with parts := .times least most part :: parts }

end Progress

/-- Drops the question mark that turns greed around after a repetition. -/
def dropGreedMark : List Char → List Char
  | '?' :: rest => rest
  | rest => rest

/-- Reads on in a pattern. Every step uses up a character, so the length of the text is fuel
enough. -/
def readFrom : Nat → Progress → List Char → Except Fault Syntax
  | 0, _, _ => .error .unclosedGroup
  | fuel + 1, p, cs =>
    match skip p.blanks cs with
    | [] => if p.around.isEmpty then .ok p.body else .error .unclosedGroup
    | '(' :: rest => do
      let (head, rest) ← readGroupHead p.blanks rest
      readFrom fuel (← p.enter head) rest
    | ')' :: rest => do readFrom fuel (← p.leave) rest
    | '|' :: rest => readFrom fuel p.bar rest
    | '[' :: rest => do
      let (c, rest) ← readClass p.blanks rest
      readFrom fuel (p.push (.cls c)) rest
    | '?' :: rest => do readFrom fuel (← p.repeatLast 0 (some 1)) (dropGreedMark rest)
    | '*' :: rest => do readFrom fuel (← p.repeatLast 0 none) (dropGreedMark rest)
    | '+' :: rest => do readFrom fuel (← p.repeatLast 1 none) (dropGreedMark rest)
    | '\x7b' :: rest => do
      let (bounds, rest) ← readBounds p.blanks rest
      readFrom fuel (← p.repeatLast bounds.1 bounds.2) (dropGreedMark (skip p.blanks rest))
    | '.' :: rest => readFrom fuel (p.push .dot) rest
    | '^' :: rest => readFrom fuel (p.push (.anchor .lineStart)) rest
    | '$' :: rest => readFrom fuel (p.push (.anchor .lineEnd)) rest
    | '\\' :: rest => do
      let (token, rest) ← readEscape p.blanks rest
      let part : Syntax := match token with
        | .letter l => .letter l
        | .cls c => .cls c
        | .anchor a => .anchor a
      readFrom fuel (p.push part) rest
    | c :: rest => readFrom fuel (p.push (.letter ⟨c, false⟩)) rest

/-- The syntax tree of a pattern. -/
def Syntax.ofString (pattern : String) : Except Fault Syntax := do
  let cs := pattern.toList
  let tree ← readFrom (cs.length + 1) {} cs
  if tree.depth ≤ depthLimit then .ok tree else .error .tooDeep

end Tollgate.Pattern
