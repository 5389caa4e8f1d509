import Tollgate.Unicode.Property

/-!
# Pattern syntax

The tree of a pattern as it is written: literals, classes with their set operations, anchors,
repetitions, groups and changes of settings. Nothing here is interpreted yet; what a dot, a letter
or a class stands for depends on the settings in force where it is written.
-/

namespace Tollgate.Pattern

open Unicode (PropertyQuery)

/-- Why a pattern is refused. -/
inductive Fault where
  | unclosedGroup
  | unopenedGroup
  | unclosedClass
  | missingOperand
  | badCount
  | badEscape
  | badClassItem
  | badClassRange
  | badGroupName
  | badSettings
  | badWordBoundary
  | lookAround
  | backReference
  | unknownProperty
  | unicodeOff
  | notUtf8
  | tooDeep
  | tooLarge
deriving DecidableEq, Repr

/-- A setting that a pattern can turn on and off. -/
inductive Setting where
  | ignoreCase
  | multiLine
  | dotAll
  | swapGreed
  | unicode
  | carriageReturn
  | ignoreBlanks
deriving DecidableEq, Repr

/-- The setting that a letter names inside a group head. -/
def Setting.ofLetter? : Char → Option Setting
  | 'i' => some .ignoreCase
  | 'm' => some .multiLine
  | 's' => some .dotAll
  | 'U' => some .swapGreed
  | 'u' => some .unicode
  | 'R' => some .carriageReturn
  | 'x' => some .ignoreBlanks
  | _ => none

/-- The settings a group head turns on or off, in the order written. -/
abbrev SettingChanges := List (Setting × Bool)

/-- The settings in force at a place of a pattern. -/
structure Settings where
  ignoreCase : Bool := false
  multiLine : Bool := false
  dotAll : Bool := false
  unicode : Bool := true
  carriageReturn : Bool := false
deriving DecidableEq, Repr, Inhabited

/-- The settings after one change. Greed decides which match is found, never whether there is one,
and blanks are gone once a pattern is read, so neither is kept. -/
def Settings.set (settings : Settings) : Setting × Bool → Settings
  | (.ignoreCase, value) => { settings with ignoreCase := value }
  | (.multiLine, value) => { settings with multiLine := value }
  | (.dotAll, value) => { settings with dotAll := value }
  | (.unicode, value) => { settings with unicode := value }
  | (.carriageReturn, value) => { settings with carriageReturn := value }
  | (.swapGreed, _) => settings
  | (.ignoreBlanks, _) => settings

/-- The settings after a list of changes. -/
def Settings.apply (settings : Settings) (changes : SettingChanges) : Settings :=
  changes.foldl Settings.set settings

/-- A literal character; `asByte` if it is written as two hexadecimal digits, which names a byte
where Unicode is off. -/
structure Letter where
  char : Char
  asByte : Bool := false
deriving DecidableEq, Repr

/-- The positions an anchor can hold at. -/
inductive Anchor where
  | lineStart
  | lineEnd
  | textStart
  | textEnd
  | wordBoundary
  | notWordBoundary
  | wordStart
  | wordEnd
  | wordStartHalf
  | wordEndHalf
deriving DecidableEq, Repr

/-- The classes that a single escaped letter names. -/
inductive LetterClass where
  | digit
  | space
  | word
deriving DecidableEq, Repr

/-- The operations between the sets of a bracketed class. -/
inductive SetOp where
  | inter
  | diff
  | symmDiff
deriving DecidableEq, Repr

/-- A class of characters as it is written. -/
inductive CharClass where
  | letter (l : Letter)
  | range (lo hi : Letter)
  | ascii (set : Unicode.CharSet) (negated : Bool)
  | named (kind : LetterClass) (negated : Bool)
  | property (query : PropertyQuery) (negated : Bool)
  | union (items : List CharClass)
  | bracket (negated : Bool) (body : CharClass)
  | combine (op : SetOp) (lhs rhs : CharClass)
deriving Repr

/-- A pattern as it is written. -/
inductive Syntax where
  | empty
  | settings (changes : SettingChanges)
  | letter (l : Letter)
  | dot
  | anchor (a : Anchor)
  | cls (c : CharClass)
  | times (least : Nat) (most : Option Nat) (body : Syntax)
  | group (captures : Bool) (changes : SettingChanges) (body : Syntax)
  | alternation (branches : List Syntax)
  | concat (parts : List Syntax)
deriving Repr

/-- The class that items side by side form. -/
def CharClass.ofItems : List CharClass → CharClass
  | [item] => item
  | items => .union items

/-- The pattern that parts one after the other form. -/
def Syntax.ofParts : List Syntax → Syntax
  | [] => .empty
  | [part] => part
  | parts => .concat parts

/-- The pattern that branches form. -/
def Syntax.ofBranches : List Syntax → Syntax
  | [branch] => branch
  | branches => .alternation branches

mutual

/-- How deep brackets, unions and set operations nest. -/
def CharClass.depth : CharClass → Nat
  | .union [] => 0
  | .union items => 1 + CharClass.maxDepth items
  | .bracket _ body => 1 + body.depth
  | .combine _ lhs rhs => 1 + max lhs.depth rhs.depth
  | _ => 0

/-- The greatest depth among classes. -/
def CharClass.maxDepth : List CharClass → Nat
  | [] => 0
  | item :: rest => max item.depth (CharClass.maxDepth rest)

end

mutual

/-- How deep a pattern nests; a letter, a dot, an anchor and an unbracketed class do not count. -/
def Syntax.depth : Syntax → Nat
  | .cls c => c.depth
  | .times _ _ body => 1 + body.depth
  | .group _ _ body => 1 + body.depth
  | .alternation branches => 1 + Syntax.maxDepth branches
  | .concat parts => 1 + Syntax.maxDepth parts
  | _ => 0

/-- The greatest depth among patterns. -/
def Syntax.maxDepth : List Syntax → Nat
  | [] => 0
  | part :: rest => max part.depth (Syntax.maxDepth rest)

end

end Tollgate.Pattern
