import Tollgate.Pattern.Escape

/-!
# Bracketed classes

Reading of classes in brackets, which nest and combine: items side by side form a union, and the
doubled operators for intersection, difference and symmetric difference take whole unions from the
left. Brackets that are still open are kept as a stack of frames.
-/

namespace Tollgate.Pattern

/-- A bracketed class that is being read: its items so far, the operation that waits for its right
side, and whether it is negated. -/
structure OpenClass where
  negated : Bool
  waiting : Option (SetOp × CharClass) := none
  items : List CharClass := []

namespace OpenClass

/-- The class with one more item. -/
def push (cls : OpenClass) (item : CharClass) : OpenClass :=
  { cls with items := item :: cls.items }

/-- What the class holds if it ended here. -/
def body (cls : OpenClass) : CharClass :=
  let last := CharClass.ofItems cls.items.reverse
  match cls.waiting with
  | some (op, lhs) => .combine op lhs last
  | none => last

/-- The class once an operator has been read. -/
def operate (cls : OpenClass) (op : SetOp) : OpenClass :=
  { cls with waiting := some (op, cls.body), items := [] }

end OpenClass

/-- The classes with ASCII names: letters, digits and the like. -/
def asciiClass? (name : String) : Option Unicode.CharSet :=
  let set (ranges : List (Nat × Nat)) : Option Unicode.CharSet := some (.ofRanges ranges)
  match name with
  | "alnum" => set [(0x30, 0x39), (0x41, 0x5A), (0x61, 0x7A)]
  | "alpha" => set [(0x41, 0x5A), (0x61, 0x7A)]
  | "ascii" => set [(0x00, 0x7F)]
  | "blank" => set [(0x09, 0x09), (0x20, 0x20)]
  | "cntrl" => set [(0x00, 0x1F), (0x7F, 0x7F)]
  | "digit" => set [(0x30, 0x39)]
  | "graph" => set [(0x21, 0x7E)]
  | "lower" => set [(0x61, 0x7A)]
  | "print" => set [(0x20, 0x7E)]
  | "punct" => set [(0x21, 0x2F), (0x3A, 0x40), (0x5B, 0x60), (0x7B, 0x7E)]
  | "space" => set [(0x09, 0x0D), (0x20, 0x20)]
  | "upper" => set [(0x41, 0x5A)]
  | "word" => set [(0x30, 0x39), (0x41, 0x5A), (0x5F, 0x5F), (0x61, 0x7A)]
  | "xdigit" => set [(0x30, 0x39), (0x41, 0x46), (0x61, 0x66)]
  | _ => none

/-- An ASCII class by name with what follows it, after its opening bracket. Anything else that
begins like one is no error but an ordinary nested class. -/
def asciiClassAt? (cs : List Char) : Option (CharClass × List Char) :=
  match cs with
  | ':' :: rest =>
    let (negated, rest) := match rest with
      | '^' :: rest => (true, rest)
      | rest => (false, rest)
    let name := rest.takeWhile (· ≠ ':')
    match rest.dropWhile (· ≠ ':') with
    | ':' :: ']' :: rest =>
      (asciiClass? (String.ofList name)).map (fun set => (.ascii set negated, rest))
    | _ => none
  | _ => none

/-- Hyphens at the start of a class stand for themselves. -/
def readHyphens (blanks : Bool) (cls : OpenClass) (cs : List Char) : OpenClass × List Char :=
  match cs with
  | '-' :: rest => readHyphens blanks (cls.push (.letter ⟨'-', false⟩)) (skip blanks rest)
  | _ => (cls, cs)
termination_by cs.length
decreasing_by
  have := length_skip_le blanks rest
  simp only [List.length_cons]
  omega

/-- The start of a class, after its opening bracket: a caret negates it, and a closing bracket that
comes first stands for itself. -/
def beginClass (blanks : Bool) (cs : List Char) : OpenClass × List Char :=
  let (negated, cs) := match skip blanks cs with
    | '^' :: rest => (true, skip blanks rest)
    | cs => (false, cs)
  match readHyphens blanks { negated } cs with
  | (cls, ']' :: rest) =>
    if cls.items.isEmpty then (cls.push (.letter ⟨']', false⟩), skip blanks rest)
    else (cls, ']' :: rest)
  | begun => begun

/-- What follows the current character, as far as a range looks ahead. Past a comment's mark only
white space is skipped, so a comment is seen by its first other character. -/
def peek (blanks : Bool) (rest : List Char) : Option Char :=
  if !blanks then rest.head?
  else
    let seen := rest.dropWhile Unicode.isWhiteSpace
    let seen := match seen with
      | '#' :: comment => comment.dropWhile Unicode.isWhiteSpace
      | seen => seen
    if seen.isEmpty then rest.head? else seen.head?

/-- One end of a range, or an item of its own: an escape or any character. -/
def readEnd (blanks : Bool) : List Char → Except Fault (Token × List Char)
  | '\\' :: rest => readEscape blanks rest
  | c :: rest => .ok (.letter ⟨c, false⟩, rest)
  | [] => .error .unclosedClass

/-- An item of a class: a character, an escaped class or a range of characters. -/
def readItem (blanks : Bool) (cs : List Char) : Except Fault (CharClass × List Char) := do
  let (lo, rest) ← readEnd blanks cs
  match skip blanks rest with
  | [] => .error .unclosedClass
  | c :: rest =>
    if c ≠ '-' ∨ peek blanks rest = some ']' ∨ peek blanks rest = some '-' then
      match lo with
      | .letter l => .ok (.letter l, c :: rest)
      | .cls k => .ok (k, c :: rest)
      | .anchor _ => .error .badClassItem
    else
      match skip blanks rest with
      | [] => .error .unclosedClass
      | rest =>
        let (hi, rest) ← readEnd blanks rest
        match lo, hi with
        | .letter l, .letter h =>
          if l.char ≤ h.char then .ok (.range l h, rest) else .error .badClassRange
        | _, _ => .error .badClassRange

/-- Reads on in a class, given the classes around it, innermost first. Every step but the last uses
up a character, so the length of the text is fuel enough. -/
def readClassFrom (blanks : Bool) :
    Nat → OpenClass → List OpenClass → List Char → Except Fault (CharClass × List Char)
  | 0, _, _, _ => .error .unclosedClass
  | fuel + 1, cls, around, cs =>
    match skip blanks cs with
    | [] => .error .unclosedClass
    | '[' :: rest =>
      match asciiClassAt? rest with
      | some (item, rest) => readClassFrom blanks fuel (cls.push item) around rest
      | none =>
        let (inner, rest) := beginClass blanks rest
        readClassFrom blanks fuel inner (cls :: around) rest
    | ']' :: rest =>
      let done := CharClass.bracket cls.negated cls.body
      match around with
      | [] => .ok (done, rest)
      | outer :: around => readClassFrom blanks fuel (outer.push done) around rest
    | '&' :: '&' :: rest => readClassFrom blanks fuel (cls.operate .inter) around rest
    | '-' :: '-' :: rest => readClassFrom blanks fuel (cls.operate .diff) around rest
    | '~' :: '~' :: rest => readClassFrom blanks fuel (cls.operate .symmDiff) around rest
    | cs => do
      let (item, rest) ← readItem blanks cs
      readClassFrom blanks fuel (cls.push item) around rest

/-- A bracketed class, after its opening bracket. -/
def readClass (blanks : Bool) (cs : List Char) : Except Fault (CharClass × List Char) :=
  let (cls, rest) := beginClass blanks cs
  readClassFrom blanks (cs.length + 1) cls [] rest

end Tollgate.Pattern
