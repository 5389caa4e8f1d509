import Tollgate.Json.Reader
import Tollgate.Json.Writer
import Tollgate.Proofs.Numerals

/-!
# JSON text reads back

What is written for a value is read back as that value (`parse?_write`), as long as it is written
down exactly (`IsExact`). The proof is about a value with something behind it: a comma, the end of
an array or object, or nothing (`ReadsBack`). The reader is given fuel for twice the characters, and
two steps are never taken without one character read.
-/

namespace Tollgate.Json

variable {rest tail cs : List Char} {units : List LiteralUnit}

/-! ### Texts -/

/-- The unit that a character is read as. -/
def unitOf (c : Char) : LiteralUnit := if c.toNat < 0x20 then .code c.toNat else .char c

theorem readUnits_writeChar (c : Char) (read : readUnits rest = some (units, tail)) :
    readUnits (writeChar c ++ rest) = some (unitOf c :: units, tail) := by
  unfold writeChar
  split
  next quote =>
    subst quote
    simp [readUnits, escape?, unitOf, read]
  next notQuote =>
    split
    next slash =>
      subst slash
      simp [readUnits, escape?, unitOf, read]
    next notSlash =>
      split
      next control =>
        have value : Hex.value? (Hex.fixed 4 c.toNat) = some c.toNat :=
          Hex.value?_fixed (Nat.lt_of_lt_of_le control (by decide))
        obtain ⟨d₁, d₂, d₃, d₄, digits⟩ :
            ∃ d₁ d₂ d₃ d₄, Hex.fixed 4 c.toNat = [d₁, d₂, d₃, d₄] := ⟨_, _, _, _, rfl⟩
        rw [digits] at value ⊢
        simp [readUnits, unitOf, value, read, control]
      next visible =>
        rw [List.singleton_append, readUnits.eq_def]
        simp [unitOf, visible, notSlash, read]

theorem decodeUnits_unitOf (c : Char) (units : List LiteralUnit) :
    decodeUnits (unitOf c :: units) = (decodeUnits units).map (c :: ·) := by
  unfold unitOf
  split
  next control =>
    have low : c.toNat < 0xD800 := by omega
    have same : Char.ofNat c.toNat = c := Char.ofNat_toNat c
    cases units with
    | nil => simp [decodeUnits, low, same]
    | cons unit units =>
      cases unit with
      | char c' => simp [decodeUnits, low, same]
      | code n => simp [decodeUnits, low, same]
  next => rfl

theorem decodeUnits_map_unitOf (cs : List Char) : decodeUnits (cs.map unitOf) = some cs := by
  induction cs with
  | nil => rfl
  | cons c cs ih => rw [List.map_cons, decodeUnits_unitOf, ih, Option.map_some]

theorem readUnits_flatMap_writeChar (cs : List Char) :
    readUnits (cs.flatMap writeChar ++ '"' :: rest) = some (cs.map unitOf, rest) := by
  induction cs with
  | nil => rfl
  | cons c cs ih =>
    rw [List.flatMap_cons, List.append_assoc]
    exact readUnits_writeChar c ih

/-- A text is read back from its literal. -/
theorem readString_flatMap_writeChar (s : String) :
    readString (s.toList.flatMap writeChar ++ '"' :: rest) = some (.proper s, rest) := by
  simp [readString, readUnits_flatMap_writeChar, decodeUnits_map_unitOf]

/-! ### Integers -/

/-- What may come behind a value. -/
def EndsValue (rest : List Char) : Prop := ∀ c ∈ rest.head?, c = ',' ∨ c = ']' ∨ c = '\x7d'

theorem EndsValue.halts (ends : EndsValue rest) : Halts Char.isDigit rest := by
  intro c head
  rcases ends c head with rfl | rfl | rfl <;> decide

theorem EndsValue.readFraction (ends : EndsValue rest) : readFraction rest = some ([], rest) := by
  cases rest with
  | nil => rfl
  | cons c rest => rcases ends c rfl with rfl | rfl | rfl <;> rfl

theorem EndsValue.readExponent (ends : EndsValue rest) : readExponent rest = some ([], rest) := by
  cases rest with
  | nil => rfl
  | cons c rest => rcases ends c rfl with rfl | rfl | rfl <;> rfl

theorem decimal_toDigits (n : Nat) : decimal (Nat.toDigits 10 n) = n :=
  Nat.ofDigitChars_ten_toDigits

theorem readDigits_toDigits (n : Nat) (halts : Halts Char.isDigit rest) :
    readDigits (Nat.toDigits 10 n ++ rest) = some (Nat.toDigits 10 n, rest) := by
  rw [readDigits, takeWhile_run Numeral.isDigit_of_mem halts,
    dropWhile_run Numeral.isDigit_of_mem halts]
  split
  next none => exact absurd none Nat.toDigits_ne_nil
  next => rfl

theorem toList_toString_ofNat (n : Nat) :
    (toString (Int.ofNat n)).toList = Nat.toDigits 10 n := Nat.toList_repr

theorem toList_toString_negSucc (n : Nat) :
    (toString (Int.negSucc n)).toList = '-' :: Nat.toDigits 10 (n + 1) := by
  change ("-" ++ (n + 1).repr).toList = _
  rw [String.toList_append, Nat.toList_repr]
  rfl

theorem head?_toDigits (n : Nat) :
    ∃ c digits, Nat.toDigits 10 n = c :: digits ∧ c.isDigit = true := by
  obtain ⟨c, digits, text⟩ := List.exists_cons_of_ne_nil (Nat.toDigits_ne_nil (n := n) (b := 10))
  have member : c ∈ Nat.toDigits 10 n := by
    rw [text]
    exact List.mem_cons_self
  exact ⟨c, digits, text, Numeral.isDigit_of_mem c member⟩

theorem readNumber_toDigits (n : Nat) (ends : EndsValue rest) :
    readNumber (Nat.toDigits 10 n ++ rest) = some (.integer n, rest) := by
  rw [readNumber]
  · simp [readDigits_toDigits n ends.halts, Numeral.not_leading_zero, ends.readFraction,
      ends.readExponent, decimal_toDigits]
  · intro more signed
    obtain ⟨c, digits, text, isDigit⟩ := head?_toDigits n
    rw [text, List.cons_append, List.cons.injEq] at signed
    rw [signed.1] at isDigit
    exact absurd isDigit (by decide)

theorem readNumber_negative (n : Nat) (ends : EndsValue rest) :
    readNumber ('-' :: (Nat.toDigits 10 (n + 1) ++ rest)) =
      some (.integer (Int.negSucc n), rest) := by
  simp only [readNumber, readDigits_toDigits (n + 1) ends.halts, Option.bind_eq_bind,
    Option.bind_some, if_neg Numeral.not_leading_zero, ends.readFraction, ends.readExponent,
    decimal_toDigits]
  simp [Int.negSucc_eq]

theorem readNumber_toString (n : Int) (ends : EndsValue rest) :
    readNumber ((toString n).toList ++ rest) = some (.integer n, rest) := by
  cases n with
  | ofNat n =>
    rw [toList_toString_ofNat]
    exact readNumber_toDigits n ends
  | negSucc n =>
    rw [toList_toString_negSucc]
    exact readNumber_negative n ends

/-! ### Values -/

/-- The values that are written down exactly: no numbers but integers, and no text with half a
surrogate pair. -/
inductive IsExact : Json → Prop where
  | null : IsExact .null
  | bool (b : Bool) : IsExact (.bool b)
  | integer (n : Int) : IsExact (.integer n)
  | str (s : String) : IsExact (.str s)
  | array {items : List Json} (exact : ∀ item ∈ items, IsExact item) : IsExact (.array items)
  | obj {members : List (String × Json)} (exact : ∀ m ∈ members, IsExact m.2) :
    IsExact (.obj members)

/-- The characters of the text of a value. -/
def chars (json : Json) : List Char := json.write.toList

/-- The characters of a member of an object. -/
def memberChars (member : String × Json) : List Char :=
  '"' :: (member.1.toList.flatMap writeChar ++ '"' :: ':' :: member.2.chars)

theorem chars_str (s : String) : (str s).chars = '"' :: (s.toList.flatMap writeChar ++ ['"']) := by
  simp [chars, str, write, writeText]

theorem writeItems_eq_map (items : List Json) : writeItems items = items.map write := by
  induction items with
  | nil => rfl
  | cons item items ih => rw [writeItems, ih, List.map_cons]

theorem chars_array (items : List Json) :
    (array items).chars = '[' :: ([','].intercalate (items.map chars) ++ [']']) := by
  have texts : (items.map write).map String.toList = items.map chars := by
    rw [List.map_map]
    rfl
  simp [chars, write, writeItems_eq_map, ← texts]

theorem chars_obj (members : List (String × Json)) :
    (obj members).chars =
      '\x7b' :: ([','].intercalate (members.map memberChars) ++ ['\x7d']) := by
  have texts (members : List (String × Json)) :
      (writeMembers (members.map fun m => (JsonText.proper m.1, m.2))).map String.toList =
        members.map memberChars := by
    induction members with
    | nil => rfl
    | cons m members ih =>
      rw [List.map_cons, writeMembers, List.map_cons, ih, List.map_cons]
      simp [memberChars, writeText, chars]
  simp [chars, obj, write, ← texts]

/-- A value is read back from its text, with what comes behind left over. -/
def ReadsBack (json : Json) : Prop :=
  ∀ (fuel : Nat) (rest : List Char), 2 * json.chars.length ≤ fuel → EndsValue rest →
    readValue fuel (json.chars ++ rest) = some (json, rest)

/-- What a value can begin with, unlike white space and the end of an array. -/
def Begins (cs : List Char) : Prop := ∃ c more, cs = c :: more ∧ isBlank c = false ∧ c ≠ ']'

variable {json : Json} {fuel : Nat}

theorem skipBlanks_cons {c : Char} (visible : isBlank c = false) :
    skipBlanks (c :: cs) = c :: cs := by
  simp [skipBlanks, visible]

/-- Whether a character begins an integer. -/
def BeginsInteger (c : Char) : Prop := c.isDigit = true ∨ c = '-'

theorem BeginsInteger.ne {c d : Char} (begins : BeginsInteger c) (notDigit : d.isDigit = false)
    (notSign : d ≠ '-') : c ≠ d := by
  rintro rfl
  rcases begins with digit | sign
  · rw [notDigit] at digit
    exact Bool.noConfusion digit
  · exact notSign sign

theorem BeginsInteger.isBlank {c : Char} (begins : BeginsInteger c) : isBlank c = false := by
  simp [Json.isBlank, begins.ne (d := ' '), begins.ne (d := '\t'), begins.ne (d := '\n'),
    begins.ne (d := '\r')]

/-- What does not begin as a value of another kind is read as a number. -/
theorem BeginsInteger.readValue {c : Char} (begins : BeginsInteger c) :
    readValue (fuel + 1) (c :: cs) = readNumber (c :: cs) := by
  rw [Json.readValue, skipBlanks_cons begins.isBlank]
  split
  case h_7 => rfl
  all_goals
    rename_i text
    exact absurd (List.cons.inj text).1 (begins.ne (by decide) (by decide))

theorem chars_integer (n : Int) :
    ∃ c more, (integer n).chars = c :: more ∧ BeginsInteger c := by
  have same : (integer n).chars = (toString n).toList := by rw [chars, write]
  rw [same]
  cases n with
  | ofNat n =>
    obtain ⟨c, digits, text, isDigit⟩ := head?_toDigits n
    exact ⟨c, digits, (toList_toString_ofNat n).trans text, .inl isDigit⟩
  | negSucc n => exact ⟨'-', _, toList_toString_negSucc n, .inr rfl⟩

theorem IsExact.begins (exact : IsExact json) : Begins json.chars := by
  cases exact with
  | null => exact ⟨_, _, rfl, by decide⟩
  | bool b => cases b <;> exact ⟨_, _, rfl, by decide⟩
  | integer n =>
    obtain ⟨c, more, text, begins⟩ := chars_integer n
    exact ⟨c, more, text, begins.isBlank, begins.ne (by decide) (by decide)⟩
  | str s => exact ⟨_, _, chars_str s, by decide⟩
  | array exact => exact ⟨_, _, chars_array _, by decide⟩
  | obj exact => exact ⟨_, _, chars_obj _, by decide⟩

/-- There is always fuel for the first character. -/
theorem ReadsBack.of_begins (begins : Begins json.chars)
    (read : ∀ (fuel : Nat) (rest : List Char), 2 * json.chars.length ≤ fuel + 1 → EndsValue rest →
      readValue (fuel + 1) (json.chars ++ rest) = some (json, rest)) : ReadsBack json := by
  intro fuel rest enough ends
  obtain ⟨c, more, text, -⟩ := begins
  have some : 0 < fuel := by
    rw [text, List.length_cons] at enough
    omega
  obtain ⟨fuel, rfl⟩ := Nat.exists_eq_add_one.2 some
  exact read fuel rest enough ends

theorem readsBack_integer (n : Int) : ReadsBack (.integer n) := by
  refine .of_begins (IsExact.integer n).begins fun _ _ _ ends => ?_
  have read := readNumber_toString n ends
  obtain ⟨c, more, text, begins⟩ := chars_integer n
  rw [← write, ← chars, text] at read
  rw [text, List.cons_append, begins.readValue]
  exact read

theorem readsBack_str (s : String) : ReadsBack (.str s) := by
  refine .of_begins (IsExact.str s).begins fun _ _ _ _ => ?_
  rw [chars_str, List.cons_append, List.append_assoc, readValue,
    skipBlanks_cons (show isBlank '"' = false by decide)]
  simp only [List.singleton_append, readString_flatMap_writeChar]
  rfl

theorem readItems_chars (fuel : Nat) {item : Json} {items : List Json}
    (read : ∀ i ∈ item :: items, ReadsBack i)
    (enough : 2 * ([','].intercalate ((item :: items).map chars)).length + 2 ≤ fuel) :
    readItems fuel ([','].intercalate ((item :: items).map chars) ++ ']' :: rest) =
      some (item :: items, rest) := by
  induction items generalizing item fuel with
  | nil =>
    obtain ⟨fuel, rfl⟩ : ∃ k, fuel = k + 1 := Nat.exists_eq_add_one.2 (by omega)
    rw [List.map_cons, List.map_nil, List.intercalate_singleton] at enough ⊢
    rw [readItems, read item List.mem_cons_self _ _ (by omega) (by rintro _ ⟨⟩; decide)]
    simp [skipBlanks, isBlank]
  | cons next items ih =>
    obtain ⟨fuel, rfl⟩ : ∃ k, fuel = k + 1 := Nat.exists_eq_add_one.2 (by omega)
    have text : [','].intercalate ((item :: next :: items).map chars) =
        item.chars ++ ',' :: [','].intercalate ((next :: items).map chars) := by
      simp
    rw [text] at enough ⊢
    simp only [List.length_append, List.length_cons] at enough
    have others : readItems fuel ([','].intercalate ((next :: items).map chars) ++ ']' :: rest) =
        some (next :: items, rest) :=
      ih fuel (fun i member => read i (List.mem_cons_of_mem _ member)) (by omega)
    rw [readItems, List.append_assoc,
      read item List.mem_cons_self _ _ (by omega) (by rintro _ ⟨⟩; decide)]
    simp only [List.cons_append, Option.bind_eq_bind, Option.bind_some,
      skipBlanks_cons (show isBlank ',' = false by decide), others]
    rfl

theorem readsBack_array {items : List Json} (exact : ∀ item ∈ items, IsExact item)
    (read : ∀ item ∈ items, ReadsBack item) : ReadsBack (.array items) := by
  refine .of_begins (IsExact.array exact).begins fun fuel rest enough _ => ?_
  rw [chars_array] at enough ⊢
  rw [List.cons_append, List.append_assoc, readValue,
    skipBlanks_cons (show isBlank '[' = false by decide)]
  cases items with
  | nil => simp [skipBlanks, isBlank]
  | cons item items =>
    have inside : readItems fuel
        ([','].intercalate ((item :: items).map chars) ++ ']' :: rest) =
          some (item :: items, rest) :=
      readItems_chars fuel read (by simp at enough ⊢; omega)
    obtain ⟨c, more, first, visible, notClosing⟩ := (exact item List.mem_cons_self).begins
    have text : ∃ more, [','].intercalate ((item :: items).map chars) ++ ']' :: rest =
        c :: more := by
      cases items with
      | nil => simp [first]
      | cons next items => simp [first]
    obtain ⟨more, text⟩ := text
    rw [text] at inside
    rw [List.singleton_append, text]
    simp only [skipBlanks_cons visible]
    split
    next closing => exact absurd (List.cons.inj closing).1 notClosing
    next => simp [inside]

section Members

variable {member : String × Json} {members : List (JsonText × Json)}

theorem length_memberChars_gt (member : String × Json) :
    member.2.chars.length < (memberChars member).length := by
  simp only [memberChars, List.length_cons, List.length_append]
  omega

theorem readMembers_last (read : ReadsBack member.2)
    (enough : 2 * (memberChars member).length ≤ fuel) :
    readMembers (fuel + 1) (memberChars member ++ '\x7d' :: rest) =
      some ([(.proper member.1, member.2)], rest) := by
  have shorter := length_memberChars_gt member
  have value := read fuel ('\x7d' :: rest) (by omega)
    (by rintro _ ⟨⟩; decide)
  rw [readMembers, memberChars]
  simp [skipBlanks, isBlank, readString_flatMap_writeChar, value]

theorem readMembers_next (read : ReadsBack member.2)
    (enough : 2 * (memberChars member).length ≤ fuel)
    (others : readMembers fuel cs = some (members, rest)) :
    readMembers (fuel + 1) (memberChars member ++ ',' :: cs) =
      some ((.proper member.1, member.2) :: members, rest) := by
  have shorter := length_memberChars_gt member
  have value := read fuel (',' :: cs) (by omega) (by rintro _ ⟨⟩; decide)
  rw [readMembers, memberChars]
  simp [skipBlanks, isBlank, readString_flatMap_writeChar, value, others]

end Members

theorem readMembers_chars (fuel : Nat) {member : String × Json} {members : List (String × Json)}
    (read : ∀ m ∈ member :: members, ReadsBack m.2)
    (enough : 2 * ([','].intercalate ((member :: members).map memberChars)).length + 2 ≤ fuel) :
    readMembers fuel ([','].intercalate ((member :: members).map memberChars) ++ '\x7d' :: rest) =
      some ((member :: members).map fun m => (.proper m.1, m.2), rest) := by
  induction members generalizing member fuel with
  | nil =>
    obtain ⟨fuel, rfl⟩ : ∃ k, fuel = k + 1 := Nat.exists_eq_add_one.2 (by omega)
    rw [List.map_cons, List.map_nil, List.intercalate_singleton] at enough ⊢
    exact readMembers_last (read member List.mem_cons_self) (by omega)
  | cons next members ih =>
    obtain ⟨fuel, rfl⟩ : ∃ k, fuel = k + 1 := Nat.exists_eq_add_one.2 (by omega)
    have text : [','].intercalate ((member :: next :: members).map memberChars) =
        memberChars member ++ ',' :: [','].intercalate ((next :: members).map memberChars) := by
      simp
    rw [text] at enough ⊢
    simp only [List.length_append, List.length_cons] at enough
    have others : readMembers fuel
        ([','].intercalate ((next :: members).map memberChars) ++ '\x7d' :: rest) =
          some ((next :: members).map fun m => (.proper m.1, m.2), rest) :=
      ih fuel (fun m mem => read m (List.mem_cons_of_mem _ mem)) (by omega)
    rw [List.append_assoc]
    exact readMembers_next (read member List.mem_cons_self) (by omega) others

theorem readsBack_obj {members : List (String × Json)} (exact : ∀ m ∈ members, IsExact m.2)
    (read : ∀ m ∈ members, ReadsBack m.2) : ReadsBack (.obj members) := by
  refine .of_begins (IsExact.obj exact).begins fun fuel rest enough _ => ?_
  rw [chars_obj] at enough ⊢
  rw [List.cons_append, List.append_assoc, readValue,
    skipBlanks_cons (show isBlank '\x7b' = false by decide)]
  cases members with
  | nil => simp [skipBlanks, isBlank, obj]
  | cons member members =>
    have inside : readMembers fuel
        ([','].intercalate ((member :: members).map memberChars) ++ '\x7d' :: rest) =
          some ((member :: members).map fun m => (.proper m.1, m.2), rest) :=
      readMembers_chars fuel read (by simp at enough ⊢; omega)
    have text : ∃ more, [','].intercalate ((member :: members).map memberChars) ++
        '\x7d' :: rest = '"' :: more := by
      cases members with
      | nil => simp [memberChars]
      | cons next members => simp [memberChars]
    obtain ⟨more, text⟩ := text
    rw [text] at inside
    rw [List.singleton_append, text]
    simp [skipBlanks_cons (show isBlank '"' = false by decide), inside, obj]

theorem IsExact.readsBack (exact : IsExact json) : ReadsBack json := by
  induction exact with
  | null => exact .of_begins IsExact.null.begins fun _ _ _ _ => rfl
  | bool b =>
    refine .of_begins (IsExact.bool b).begins fun _ _ _ _ => ?_
    cases b <;> rfl
  | integer n => exact readsBack_integer n
  | str s => exact readsBack_str s
  | array exact ih => exact readsBack_array exact ih
  | obj exact ih => exact readsBack_obj exact ih

/-- A value that is written down exactly is read back from its text. -/
theorem parse?_write (exact : IsExact json) : parse? json.write = some json := by
  have read := exact.readsBack (2 * json.chars.length + 2) [] (Nat.le_add_right _ _)
    (by rintro _ ⟨⟩)
  rw [List.append_nil] at read
  simp only [parse?]
  rw [show json.write.toList = json.chars from rfl, read]
  rfl

end Tollgate.Json
