import Tollgate.Pattern.Syntax

/-!
# Escapes, counts and group heads

The small readers that a pattern's reader is made of. Each takes what is left of the pattern and
returns what it read with what is left after it. The flag `blanks` says that white space and
comments between tokens are skipped.
-/

namespace Tollgate.Pattern

open Unicode (isWhiteSpace PropertyQuery)

/-- Drops leading white space and comments; inside a comment everything up to a line feed goes. -/
def dropBlanks : Bool → List Char → List Char
  | false, c :: rest =>
    if isWhiteSpace c then dropBlanks false rest
    else if c = '#' then dropBlanks true rest
    else c :: rest
  | true, c :: rest => dropBlanks (c ≠ '\n') rest
  | _, [] => []

theorem length_dropBlanks_le (inComment : Bool) (cs : List Char) :
    (dropBlanks inComment cs).length ≤ cs.length := by
  induction cs generalizing inComment with
  | nil => cases inComment <;> simp [dropBlanks]
  | cons c rest ih =>
    cases inComment with
    | true => simpa [dropBlanks] using Nat.le_succ_of_le (ih _)
    | false =>
      simp only [dropBlanks]
      split
      · exact Nat.le_succ_of_le (ih _)
      · split
        · exact Nat.le_succ_of_le (ih _)
        · exact Nat.le_refl _

/-- What is left once blanks are skipped, where they are. -/
def skip (blanks : Bool) (cs : List Char) : List Char :=
  if blanks then dropBlanks false cs else cs

theorem length_skip_le (blanks : Bool) (cs : List Char) :
    (skip blanks cs).length ≤ cs.length := by
  unfold skip
  split
  · exact length_dropBlanks_le _ _
  · exact Nat.le_refl _

/-- The longest run of characters that satisfy `p`, blanks between them skipped. -/
def run (blanks : Bool) (p : Char → Bool) (cs : List Char) : List Char × List Char :=
  match cs with
  | [] => ([], [])
  | c :: rest =>
    if p c then
      let (more, left) := run blanks p (skip blanks rest)
      (c :: more, left)
    else ([], c :: rest)
termination_by cs.length
decreasing_by
  have := length_skip_le blanks rest
  simp only [List.length_cons]
  omega

/-- The number that decimal digits write. -/
def decimal (digits : List Char) : Nat :=
  digits.foldl (fun n c => 10 * n + (c.toNat - '0'.toNat)) 0

/-- The value of a hexadecimal digit. -/
def hexDigit? (c : Char) : Option Nat :=
  if c.isDigit then some (c.toNat - '0'.toNat)
  else if 'a' ≤ c ∧ c ≤ 'f' then some (c.toNat - 'a'.toNat + 10)
  else if 'A' ≤ c ∧ c ≤ 'F' then some (c.toNat - 'A'.toNat + 10)
  else none

/-- The character whose code hexadecimal digits write, if there is one. -/
def hexChar? (digits : List Char) : Option Char := do
  let codes ← digits.mapM hexDigit?
  let code := codes.foldl (fun n d => 16 * n + d) 0
  if code.isValidChar then some (Char.ofNat code) else none

/-- A repetition count: digits with white space around them, below two to the thirty-second. -/
def readCount (blanks : Bool) (cs : List Char) : Except Fault (Option Nat × List Char) :=
  let (digits, rest) := run blanks Char.isDigit (cs.dropWhile isWhiteSpace)
  let rest := (run blanks isWhiteSpace rest).2
  if digits.isEmpty then .ok (none, rest)
  else if decimal digits < UInt32.size then .ok (some (decimal digits), rest)
  else .error .badCount

/-- The bounds of a counted repetition, after its opening brace: exactly, at least, or between. -/
def readBounds (blanks : Bool) (cs : List Char) : Except Fault ((Nat × Option Nat) × List Char) := do
  let (least, rest) ← readCount blanks (skip blanks cs)
  let (bounds, rest) ← match rest with
    | ',' :: rest =>
      match least, skip blanks rest with
      | some least, '}' :: rest => pure ((least, none), '}' :: rest)
      | some least, rest =>
        match ← readCount blanks rest with
        | (some most, rest) => pure ((least, some most), rest)
        | (none, _) => .error .badCount
      | none, _ => .error .badCount
    | rest =>
      match least with
      | some n => pure ((n, some n), rest)
      | none => .error .badCount
  match rest with
  | '}' :: rest =>
    if bounds.2.all (bounds.1 ≤ ·) then .ok (bounds, rest) else .error .badCount
  | _ => .error .badCount

/-- What an escape, or any other token that stands for itself, can be. -/
inductive Token where
  | letter (l : Letter)
  | cls (c : CharClass)
  | anchor (a : Anchor)

/-- The characters that have a meaning of their own in patterns. -/
def isMeta (c : Char) : Bool :=
  c ∈ ['\\', '.', '+', '*', '?', '(', ')', '|', '[', ']', '\x7b', '\x7d', '^', '$', '#', '&', '-', '~']

/-- Whether a backslash before the character makes it stand for itself: all of ASCII but letters,
digits and angle brackets, which escapes are kept for. -/
def isEscapable (c : Char) : Bool :=
  isMeta c || (c.toNat ≤ 0x7F && !c.isAlphanum && c ≠ '<' && c ≠ '>')

/-- A fixed number of hexadecimal digits, with blanks between them skipped. -/
def readHexDigits (blanks : Bool) : Nat → List Char → Except Fault (List Char × List Char)
  | 0, cs => .ok ([], cs)
  | n + 1, c :: rest => do
    if (hexDigit? c).isNone then .error .badEscape
    else
      let (digits, rest) ← readHexDigits blanks n (skip blanks rest)
      .ok (c :: digits, rest)
  | _ + 1, [] => .error .badEscape

/-- The character of a hexadecimal escape, after its letter; `width` digits unless in braces. -/
def readHex (blanks : Bool) (width : Nat) (cs : List Char) : Except Fault (Letter × List Char) := do
  match skip blanks cs with
  | '\x7b' :: rest =>
    let (digits, rest) := run blanks (fun c => (hexDigit? c).isSome) (skip blanks rest)
    match rest with
    | '\x7d' :: rest =>
      match digits, hexChar? digits with
      | _ :: _, some c => .ok (⟨c, false⟩, skip blanks rest)
      | _, _ => .error .badEscape
    | _ => .error .badEscape
  | rest =>
    let (digits, rest) ← readHexDigits blanks width rest
    match hexChar? digits with
    | some c => .ok (⟨c, width = 2⟩, rest)
    | none => .error .badEscape

/-- A property query as it stands between braces, and whether its operator negates it. -/
def propertyOfText (text : List Char) : PropertyQuery × Bool :=
  let query (cut width : Nat) : PropertyQuery :=
    .valued (String.ofList (text.take cut)) (String.ofList (text.drop (cut + width)))
  match (List.range text.length).find? (fun i => (text.drop i).take 2 = ['!', '=']) with
  | some i => (query i 2, true)
  | none =>
    match text.findIdx? (· = ':') with
    | some i => (query i 1, false)
    | none =>
      match text.findIdx? (· = '=') with
      | some i => (query i 1, false)
      | none => (.bare (String.ofList text), false)

/-- A property class, after its letter. -/
def readProperty (blanks negated : Bool) (cs : List Char) : Except Fault (CharClass × List Char) :=
  match skip blanks cs with
  | [] => .error .badEscape
  | '\x7b' :: rest =>
    let (text, rest) := run blanks (· ≠ '\x7d') (skip blanks rest)
    match rest with
    | _ :: rest =>
      let (query, differs) := propertyOfText text
      .ok (.property query (negated != differs), rest)
    | [] => .error .badEscape
  | '\\' :: _ => .error .badEscape
  | c :: rest => .ok (.property (.bare c.toString) negated, skip blanks rest)

/-- What follows a word boundary: the name of a special boundary in braces, or nothing of it. What
begins with neither a letter nor a hyphen is left for a repetition count. -/
def readWordBoundary (blanks : Bool) (cs : List Char) : Except Fault (Anchor × List Char) :=
  let isNameChar (c : Char) : Bool := c.isAlpha || c = '-'
  match cs with
  | '\x7b' :: rest =>
    match skip blanks rest with
    | [] => .error .badWordBoundary
    | c :: inner =>
      if !isNameChar c then .ok (.wordBoundary, cs)
      else
        let (name, rest) := run blanks isNameChar (c :: inner)
        match rest with
        | '\x7d' :: rest =>
          match String.ofList name with
          | "start" => .ok (.wordStart, rest)
          | "end" => .ok (.wordEnd, rest)
          | "start-half" => .ok (.wordStartHalf, rest)
          | "end-half" => .ok (.wordEndHalf, rest)
          | _ => .error .badWordBoundary
        | _ => .error .badWordBoundary
  | _ => .ok (.wordBoundary, cs)

/-- An escape, after its backslash. -/
def readEscape (blanks : Bool) : List Char → Except Fault (Token × List Char)
  | [] => .error .badEscape
  | c :: rest =>
    let single (code : Nat) : Except Fault (Token × List Char) := .ok (.letter ⟨Char.ofNat code, false⟩, rest)
    let hex (width : Nat) : Except Fault (Token × List Char) := do
      let (letter, rest) ← readHex blanks width rest
      .ok (.letter letter, rest)
    let anchor (a : Anchor) : Except Fault (Token × List Char) := .ok (.anchor a, rest)
    let named (kind : LetterClass) (negated : Bool) : Except Fault (Token × List Char) :=
      .ok (.cls (.named kind negated), rest)
    match c with
    | 'x' => hex 2
    | 'u' => hex 4
    | 'U' => hex 8
    | 'p' => do
      let (c, rest) ← readProperty blanks false rest
      .ok (.cls c, rest)
    | 'P' => do
      let (c, rest) ← readProperty blanks true rest
      .ok (.cls c, rest)
    | 'd' => named .digit false
    | 'D' => named .digit true
    | 's' => named .space false
    | 'S' => named .space true
    | 'w' => named .word false
    | 'W' => named .word true
    | 'a' => single 0x07
    | 'f' => single 0x0C
    | 't' => single 0x09
    | 'n' => single 0x0A
    | 'r' => single 0x0D
    | 'v' => single 0x0B
    | 'A' => anchor .textStart
    | 'z' => anchor .textEnd
    | 'b' => do
      let (a, rest) ← readWordBoundary blanks rest
      .ok (.anchor a, rest)
    | 'B' => anchor .notWordBoundary
    | '<' => anchor .wordStart
    | '>' => anchor .wordEnd
    | c =>
      if c.isDigit then .error .backReference
      else if isEscapable c then .ok (.letter ⟨c, false⟩, rest)
      else .error .badEscape

/-- The settings of a group head, up to the colon or bracket that ends them. Each setting may be
named once, and one hyphen with a setting after it turns to switching off. -/
def readSettings (seen : SettingChanges) (negating dangling : Bool) :
    List Char → Except Fault (SettingChanges × List Char)
  | [] => .error .badSettings
  | ':' :: rest => if dangling then .error .badSettings else .ok (seen.reverse, ':' :: rest)
  | ')' :: rest => if dangling then .error .badSettings else .ok (seen.reverse, ')' :: rest)
  | '-' :: rest =>
    if negating then .error .badSettings else readSettings seen true true rest
  | c :: rest =>
    match Setting.ofLetter? c with
    | none => .error .badSettings
    | some setting =>
      if seen.any (·.1 = setting) then .error .badSettings
      else readSettings ((setting, !negating) :: seen) negating false rest

/-- Whether a character may stand in a group's name. -/
def isNameChar (first : Bool) (c : Char) : Bool :=
  c = '_' || Unicode.isAlphabetic c ||
    (!first && (c = '.' || c = '[' || c = ']' || Unicode.isNumeric c))

/-- The name of a group, after its opening angle bracket. -/
def readName (cs : List Char) : Except Fault (String × List Char) :=
  let name := cs.takeWhile (· ≠ '>')
  match cs.dropWhile (· ≠ '>'), name with
  | _ :: rest, c :: more =>
    if isNameChar true c && more.all (isNameChar false) then .ok (String.ofList name, rest)
    else .error .badGroupName
  | _, _ => .error .badGroupName

/-- What an opening bracket begins: a group, or a change of settings for what follows. -/
inductive GroupHead where
  | group (captures : Bool) (name : Option String) (changes : SettingChanges)
  | change (changes : SettingChanges)

/-- The head of a group, after its opening bracket. -/
def readGroupHead (blanks : Bool) (cs : List Char) : Except Fault (GroupHead × List Char) :=
  match skip blanks cs with
  | '?' :: '=' :: _ | '?' :: '!' :: _ | '?' :: '<' :: '=' :: _ | '?' :: '<' :: '!' :: _ =>
    .error .lookAround
  | '?' :: 'P' :: '<' :: rest | '?' :: '<' :: rest => do
    let (name, rest) ← readName rest
    .ok (.group true (some name) [], rest)
  | '?' :: rest => do
    let (changes, rest) ← readSettings [] false false rest
    match rest with
    | ':' :: rest => .ok (.group false none changes, rest)
    | _ =>
      if changes.isEmpty then .error .missingOperand
      else .ok (.change changes, rest.drop 1)
  | rest => .ok (.group true none [], rest)

end Tollgate.Pattern
