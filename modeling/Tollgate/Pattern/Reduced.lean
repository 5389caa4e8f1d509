import Tollgate.Pattern.Regex

/-!
# Reduced expressions

The form of a regular expression that automata are built from. Sequences and choices are flat,
characters next to each other are one word, a choice among characters is a set of characters, and
what all branches of a choice begin with stands in front of it.
-/

namespace Tollgate.Pattern

open Unicode (CharSet)

/-- A regular expression in reduced form. -/
inductive Reduced where
  | empty
  | word (text : List Char)
  | chars (set : CharSet)
  | look (l : Look)
  | times (least : Nat) (most : Option Nat) (body : Reduced)
  | capture (body : Reduced)
  | seq (parts : List Reduced)
  | alt (branches : List Reduced)

namespace Reduced

mutual

/-- Whether two expressions are written alike. No two captures are: each has its own number. -/
def same : Reduced → Reduced → Bool
  | .empty, .empty => true
  | .word s, .word t => s == t
  | .chars s, .chars t => s == t
  | .look l, .look m => l == m
  | .times least most body, .times least' most' body' =>
    least == least' && most == most' && body.same body'
  | .seq parts, .seq parts' => allSame parts parts'
  | .alt branches, .alt branches' => allSame branches branches'
  | _, _ => false

/-- Whether two lists of expressions are written alike. -/
def allSame : List Reduced → List Reduced → Bool
  | [], [] => true
  | part :: rest, part' :: rest' => part.same part' && allSame rest rest'
  | _, _ => false

end

/-- The expressions that both lists begin with. -/
def commonStart : List Reduced → List Reduced → List Reduced
  | part :: rest, part' :: rest' => if part.same part' then part :: commonStart rest rest' else []
  | _, _ => []

/-- What an expression adds to a sequence that it is a part of. -/
def parts : Reduced → List Reduced
  | .empty => []
  | .seq parts => parts
  | other => [other]

/-- What an expression adds to a choice that it is a branch of. -/
def branches : Reduced → List Reduced
  | .alt branches => branches
  | other => [other]

/-- The parts of a sequence, if it is one. -/
def parts? : Reduced → Option (List Reduced)
  | .seq parts => some parts
  | _ => none

/-- The text of a word. -/
def text? : Reduced → Option (List Char)
  | .word text => some text
  | _ => none

/-- The only character of a word. -/
def char? : Reduced → Option Char
  | .word [c] => some c
  | _ => none

/-- The set of characters, if the expression is one. -/
def set? : Reduced → Option CharSet
  | .chars set => some set
  | _ => none

/-- One character of a set. -/
def ofSet (set : CharSet) : Reduced :=
  match set.only? with
  | some code => .word [Char.ofNat code]
  | none => .chars set

/-- Puts a part before others; two words become one. -/
def prepend : Reduced → List Reduced → List Reduced
  | .word s, .word t :: rest => .word (s ++ t) :: rest
  | part, rest => part :: rest

/-- Expressions one after the other. -/
def sequence (expressions : List Reduced) : Reduced :=
  match (expressions.flatMap parts).foldr prepend [] with
  | [] => .empty
  | [part] => part
  | parts => .seq parts

/-- Any of the expressions, where what they begin with is not looked at. -/
def merge (expressions : List Reduced) : Reduced :=
  match expressions.flatMap branches with
  | [branch] => branch
  | branches =>
    match branches.mapM char?, branches.mapM set? with
    | some letters, _ => ofSet (.ofRanges (letters.map (fun c => (c.toNat, c.toNat))))
    | none, some sets => ofSet (sets.foldl .union .empty)
    | none, none => .alt branches

/-- The beginning that all branches share and what is left of each. Only sequences have parts that
can be shared. -/
def factor? (branches : List Reduced) : Option (List Reduced × List Reduced) :=
  match branches.mapM parts? with
  | some (first :: others) =>
    match others.foldl commonStart first with
    | [] => none
    | start => some (start, (first :: others).map (fun parts => sequence (parts.drop start.length)))
  | _ => none

/-- Any of the expressions. -/
def choice (expressions : List Reduced) : Reduced :=
  match merge expressions with
  | .alt branches =>
    match factor? branches with
    | some (start, rests) => sequence (start ++ [merge rests])
    | none => .alt branches
  | other => other

mutual

/-- The length of a shortest match, if matches exist as far as the form tells. -/
def shortest? : Reduced → Option Nat
  | .empty => some 0
  | .word text => some text.length
  | .chars set => if set.isEmpty then none else some 1
  | .look _ => some 0
  | .times least _ body => body.shortest?.map (least * ·)
  | .capture body => body.shortest?
  | .seq parts => shortestOfAll? parts
  | .alt branches => shortestOfAny? branches

/-- The lengths of shortest matches added up. -/
def shortestOfAll? : List Reduced → Option Nat
  | [] => some 0
  | part :: rest => do return (← part.shortest?) + (← shortestOfAll? rest)

/-- The least of the lengths of shortest matches, if all exist. -/
def shortestOfAny? : List Reduced → Option Nat
  | [] => none
  | [branch] => branch.shortest?
  | branch :: rest => do return min (← branch.shortest?) (← shortestOfAny? rest)

end

/-- Whether it is known that no match is empty. -/
def isNeverEmpty (expression : Reduced) : Bool := expression.shortest?.any (0 < ·)

end Reduced

mutual

/-- The reduced form of an expression. -/
def Regex.reduce : Regex → Reduced
  | .empty => .empty
  | .chars set => .ofSet set
  | .look l => .look l
  | .times least most body => .times least most body.reduce
  | .capture body => .capture body.reduce
  | .seq parts => .sequence (Regex.reduceAll parts)
  | .alt branches => .choice (Regex.reduceAll branches)

/-- The reduced forms of expressions. -/
def Regex.reduceAll : List Regex → List Reduced
  | [] => []
  | part :: rest => part.reduce :: Regex.reduceAll rest

end

end Tollgate.Pattern
