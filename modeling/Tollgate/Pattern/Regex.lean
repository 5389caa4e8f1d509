import Tollgate.Pattern.Reader
import Tollgate.Unicode.CaseFolding

/-!
# Resolved patterns

What a pattern means once the settings are known at every place: sets of characters, conditions on
a position, repetition, sequence and choice. Patterns match text, so anything that could match a
part of a character is refused here.
-/

namespace Tollgate.Pattern

open Unicode (CharSet)

/-- The sides of a position that an anchor looks at; `ascii` decides what a word character is. -/
inductive Look where
  | textStart
  | textEnd
  | lineStart
  | lineEnd
  | crlfLineStart
  | crlfLineEnd
  | wordBoundary (ascii : Bool)
  | notWordBoundary (ascii : Bool)
  | wordStart (ascii : Bool)
  | wordEnd (ascii : Bool)
  | wordStartHalf (ascii : Bool)
  | wordEndHalf (ascii : Bool)
deriving DecidableEq, Repr

/-- A regular expression over characters. -/
inductive Regex where
  | empty
  | chars (set : CharSet)
  | look (l : Look)
  | times (least : Nat) (most : Option Nat) (body : Regex)
  | capture (body : Regex)
  | seq (parts : List Regex)
  | alt (branches : List Regex)
deriving Repr

/-- ASCII digits, white space and word characters, for places where Unicode is off. -/
def asciiLetterClass : LetterClass → CharSet
  | .digit => .range 0x30 0x39
  | .space => .ofRanges [(0x09, 0x0D), (0x20, 0x20)]
  | .word => .ofRanges [(0x30, 0x39), (0x41, 0x5A), (0x5F, 0x5F), (0x61, 0x7A)]

/-- Digits, white space and word characters of all scripts. -/
def letterClass : LetterClass → CharSet
  | .digit => Unicode.digits
  | .space => Unicode.whiteSpace
  | .word => Unicode.wordChars

/-- The set closed under the case folding that the settings ask for. -/
def Settings.fold (settings : Settings) (set : CharSet) : CharSet :=
  if !settings.ignoreCase then set
  else if settings.unicode then Unicode.foldCase set
  else Unicode.foldAsciiCase set

/-- The set folded and then, where asked, complemented. Where Unicode is off a complement would
hold single bytes that are no characters, so it is refused. -/
def Settings.close (settings : Settings) (negated : Bool) (set : CharSet) :
    Except Fault CharSet :=
  if !negated then .ok (settings.fold set)
  else if settings.unicode then .ok (settings.fold set).complement
  else .error .notUtf8

/-- The character a letter stands for; a byte beyond ASCII is none. -/
def Settings.letter (settings : Settings) (l : Letter) : Except Fault Char :=
  if !settings.unicode ∧ l.asByte ∧ l.char.toNat > 0x7F then .error .notUtf8 else .ok l.char

/-- The character a letter in a class stands for; where Unicode is off it must be ASCII. -/
def Settings.classLetter (settings : Settings) (l : Letter) : Except Fault Char := do
  let c ← settings.letter l
  if !settings.unicode ∧ c.toNat > 0x7F then .error .unicodeOff else .ok c

/-- The operation on sets that an operator of classes stands for. -/
def SetOp.apply : SetOp → CharSet → CharSet → CharSet
  | .inter => CharSet.inter
  | .diff => CharSet.diff
  | .symmDiff => CharSet.symmDiff

mutual

/-- The set a class stands for under the settings. -/
def CharClass.resolve (settings : Settings) : CharClass → Except Fault CharSet
  | .letter l => do return .single (← settings.classLetter l)
  | .range lo hi => do
    return .range (← settings.classLetter lo).toNat (← settings.classLetter hi).toNat
  | .ascii set negated => settings.close negated set
  | .named kind negated =>
    if settings.unicode then
      .ok (if negated then (letterClass kind).complement else letterClass kind)
    else if negated then .error .notUtf8
    else .ok (asciiLetterClass kind)
  | .property query negated =>
    if !settings.unicode then .error .unicodeOff
    else match query.set? with
      | some set => settings.close negated set
      | none => .error .unknownProperty
  | .union items => CharClass.resolveUnion settings items
  | .bracket negated body => do settings.close negated (← body.resolve settings)
  | .combine op lhs rhs => do
    let lhs ← lhs.resolve settings
    let rhs ← rhs.resolve settings
    return op.apply (settings.fold lhs) (settings.fold rhs)

/-- The union of the sets that classes stand for. -/
def CharClass.resolveUnion (settings : Settings) : List CharClass → Except Fault CharSet
  | [] => .ok .empty
  | item :: rest => do
    return (← item.resolve settings).union (← CharClass.resolveUnion settings rest)

end

/-- The condition an anchor stands for. -/
def Settings.look (settings : Settings) : Anchor → Look
  | .lineStart =>
    if !settings.multiLine then .textStart
    else if settings.carriageReturn then .crlfLineStart
    else .lineStart
  | .lineEnd =>
    if !settings.multiLine then .textEnd
    else if settings.carriageReturn then .crlfLineEnd
    else .lineEnd
  | .textStart => .textStart
  | .textEnd => .textEnd
  | .wordBoundary => .wordBoundary !settings.unicode
  | .notWordBoundary => .notWordBoundary !settings.unicode
  | .wordStart => .wordStart !settings.unicode
  | .wordEnd => .wordEnd !settings.unicode
  | .wordStartHalf => .wordStartHalf !settings.unicode
  | .wordEndHalf => .wordEndHalf !settings.unicode

/-- The characters a dot stands for. -/
def Settings.dot (settings : Settings) : Except Fault CharSet :=
  if !settings.unicode then .error .notUtf8
  else if settings.dotAll then .ok .full
  else if settings.carriageReturn then
    .ok (CharSet.ofRanges [(0x0A, 0x0A), (0x0D, 0x0D)]).complement
  else .ok (CharSet.range 0x0A 0x0A).complement

mutual

/-- Whether the expression matches the empty text at most. -/
def Regex.onlyEmpty : Regex → Bool
  | .empty => true
  | .chars _ => false
  | .look _ => true
  | .times _ _ body => body.onlyEmpty
  | .capture body => body.onlyEmpty
  | .seq parts => Regex.allOnlyEmpty parts
  | .alt branches => Regex.allOnlyEmpty branches

/-- Whether all expressions match the empty text at most. -/
def Regex.allOnlyEmpty : List Regex → Bool
  | [] => true
  | part :: rest => part.onlyEmpty && Regex.allOnlyEmpty rest

end

/-- A repetition. What matches the empty text at most is worth repeating once. -/
def Regex.repeated (least : Nat) (most : Option Nat) (body : Regex) : Regex :=
  let once := body.onlyEmpty
  let least := if once then min least 1 else least
  let most := if once then some (min (most.getD 1) 1) else most
  if least = 0 ∧ most = some 0 then .empty
  else if least = 1 ∧ most = some 1 then body
  else .times least most body

mutual

/-- The expression a tree stands for under the settings, and the settings after it. -/
def Syntax.resolve (settings : Settings) : Syntax → Except Fault (Regex × Settings)
  | .empty => .ok (.empty, settings)
  | .settings changes => .ok (.empty, settings.apply changes)
  | .letter l => do
    let c ← settings.letter l
    return (.chars (settings.fold (.single c)), settings)
  | .dot => do return (.chars (← settings.dot), settings)
  | .anchor a => .ok (.look (settings.look a), settings)
  | .cls c => do return (.chars (← c.resolve settings), settings)
  | .times least most body => do
    let (body, settings) ← body.resolve settings
    return (.repeated least most body, settings)
  | .group captures changes body => do
    let (body, _) ← body.resolve (settings.apply changes)
    return (if captures then .capture body else body, settings)
  | .alternation branches => do
    let (branches, settings) ← Syntax.resolveAll settings branches
    return (.alt branches, settings)
  | .concat parts => do
    let (parts, settings) ← Syntax.resolveAll settings parts
    return (.seq parts, settings)

/-- The expressions of trees one after the other, each under the settings its predecessors left. -/
def Syntax.resolveAll (settings : Settings) :
    List Syntax → Except Fault (List Regex × Settings)
  | [] => .ok ([], settings)
  | part :: rest => do
    let (part, settings) ← part.resolve settings
    let (rest, settings) ← Syntax.resolveAll settings rest
    return (part :: rest, settings)

end

/-- The regular expression of a pattern. -/
def Regex.ofString (pattern : String) : Except Fault Regex := do
  let tree ← Syntax.ofString pattern
  let (re, _) ← tree.resolve {}
  return re

end Tollgate.Pattern
