import Tollgate.Net.IpText
import Tollgate.Proofs.Numerals
import Tollgate.Uuid

/-!
# Identifiers and addresses read back

Every identifier and every address is read back from its text (`Uuid.ofText?_text`,
`IpAddr.ofText?_text`). An identifier has its hyphens in fixed places, and an address of version 4
is four numerals with dots between them. For version 6 groups are read until something comes that is
no group (`readGroups_writeGroups`), which is the end of the text or the double colon, and what the
double colon stands for are the zeros that were left out (`split_longestZeroRun`).
-/

namespace Tollgate.Uuid

/-- Hyphens between digits are passed over. -/
theorem ofHyphenated?_append {a b c d e : List Char} (lengthA : a.length = 8)
    (lengthB : b.length = 4) (lengthC : c.length = 4) (lengthD : d.length = 4) :
    ofHyphenated? (a ++ '-' :: b ++ '-' :: c ++ '-' :: d ++ '-' :: e) =
      ofDigits? (a ++ b ++ c ++ d ++ e) := by
  simp [ofHyphenated?, List.drop_append, List.getElem?_append, lengthA, lengthB, lengthC, lengthD,
    List.drop_of_length_le]

/-- Every identifier is read back from its text. -/
theorem ofText?_text (u : Uuid) : ofText? u.text = some u := by
  let digits := Hex.fixed 32 u.bits.toNat
  have length : digits.length = 32 := Hex.length_fixed 32 _
  have value : Hex.value? digits = some u.bits.toNat := Hex.value?_fixed u.bits.isLt
  have pieces (start count : Nat) :
      (digits.drop start).take count ++ digits.drop (start + count) = digits.drop start := by
    rw [← List.drop_drop, List.take_append_drop]
  have whole : digits.take 8 ++ (digits.drop 8).take 4 ++ (digits.drop 12).take 4 ++
      (digits.drop 16).take 4 ++ digits.drop 20 = digits := by
    simp only [List.append_assoc]
    rw [pieces 16 4, pieces 12 4, pieces 8 4, List.take_append_drop]
  have read := ofHyphenated?_append (a := digits.take 8) (b := (digits.drop 8).take 4)
    (c := (digits.drop 12).take 4) (d := (digits.drop 16).take 4) (e := digits.drop 20)
    (by simp [length]) (by simp [length]) (by simp [length]) (by simp [length])
  rw [whole, ofDigits?, if_pos length, value] at read
  simp only [Option.map_some, BitVec.ofNat_toNat, BitVec.setWidth_eq] at read
  have chars : u.text.toList = digits.take 8 ++ '-' :: (digits.drop 8).take 4 ++
      '-' :: (digits.drop 12).take 4 ++ '-' :: (digits.drop 16).take 4 ++
      '-' :: digits.drop 20 := String.toList_ofList
  have size : u.text.toList.length = 36 := by
    rw [chars]
    simp [length]
  simp only [ofText?, size]
  rw [chars]
  exact read

end Tollgate.Uuid

namespace Tollgate.IpAddr

variable {rest cs : List Char} {n left : Nat} {gs : List Nat}

/-! ### Version 4 -/

theorem readOctet_toDigits (small : n < 256) (halts : Halts Char.isDigit rest) :
    readOctet (Nat.toDigits 10 n ++ rest) = some (n, rest) := by
  have digits : (Nat.toDigits 10 n ++ rest).takeWhile Char.isDigit = Nat.toDigits 10 n :=
    takeWhile_run Numeral.isDigit_of_mem halts
  have value : (Nat.toDigits 10 n).foldl (fun n c => 10 * n + (c.toNat - 48)) 0 = n :=
    Nat.ofDigitChars_ten_toDigits
  have short : (Nat.toDigits 10 n).length ≤ 3 :=
    (Nat.length_toDigits_le_iff (by decide) (by decide)).2 (by omega)
  have leading := Numeral.not_leading_zero (n := n)
  simp only [readOctet, digits, value]
  rw [if_neg]
  · simp
  · simp only [List.isEmpty_iff, Nat.toDigits_ne_nil, leading, false_or, or_false]
    omega

theorem readOctets_intercalate (ns : List Nat) (small : ∀ n ∈ ns, n < 256)
    (halts : Halts Char.isDigit rest) :
    readOctets ns.length (['.'].intercalate (ns.map (Nat.toDigits 10)) ++ rest) =
      some (ns, rest) := by
  induction ns with
  | nil => rfl
  | cons n ns ih =>
    have first := small n List.mem_cons_self
    cases ns with
    | nil => simp [readOctets, readOctet_toDigits first halts]
    | cons m ns =>
      have others := ih fun n member => small n (List.mem_cons_of_mem _ member)
      have dot : Halts Char.isDigit
          ('.' :: (['.'].intercalate ((m :: ns).map (Nat.toDigits 10)) ++ rest)) :=
        halts_cons (by decide)
      have text : ['.'].intercalate ((n :: m :: ns).map (Nat.toDigits 10)) ++ rest =
          Nat.toDigits 10 n ++
            '.' :: (['.'].intercalate ((m :: ns).map (Nat.toDigits 10)) ++ rest) := by
        simp
      rw [text, List.length_cons, readOctets, readOctet_toDigits first dot]
      · simp only [Option.bind_eq_bind, Option.bind_some, others]
        rfl
      · simp

theorem ofDigits_octets (bits : BitVec 32) : ofDigits 256 (octets bits) = bits.toNat := by
  have := bits.isLt
  simp only [ofDigits, octets, List.map_cons, List.map_nil, List.foldl_cons, List.foldl_nil,
    Nat.shiftRight_eq_div_pow]
  omega

theorem toList_writeV4 (bits : BitVec 32) :
    (writeV4 bits).toList = ['.'].intercalate ((octets bits).map (Nat.toDigits 10)) := by
  simp only [writeV4, String.toList_intercalate, List.map_map]
  congr 1
  apply List.map_congr_left
  intro n _
  exact Nat.toList_repr

theorem readV4_writeV4 (bits : BitVec 32) (halts : Halts Char.isDigit rest) :
    readV4 ((writeV4 bits).toList ++ rest) = some (bits, rest) := by
  have small : ∀ n ∈ octets bits, n < 256 := by
    simp only [octets, List.mem_map, forall_exists_index, and_imp]
    rintro _ i _ rfl
    exact Nat.mod_lt _ (by decide)
  have read : readOctets 4 ((writeV4 bits).toList ++ rest) = some (octets bits, rest) := by
    rw [toList_writeV4]
    exact readOctets_intercalate (octets bits) small halts
  simp [readV4, read, ofDigits_octets]

/-- A text is no address of version 4 if no dot follows its first digits. -/
theorem readV4_eq_none (noDot : (cs.dropWhile Char.isDigit).head? ≠ some '.') :
    readV4 cs = none := by
  have octet {n : Nat} {rest : List Char} (read : readOctet cs = some (n, rest)) :
      rest = cs.dropWhile Char.isDigit := by
    simp only [readOctet] at read
    split at read
    next => cases read
    next =>
      rw [Option.some.injEq, Prod.mk.injEq] at read
      rw [← read.2, drop_takeWhile]
  have octets : readOctets 4 cs = none := by
    rw [readOctets]
    · cases first : readOctet cs with
      | none => rfl
      | some read =>
        obtain ⟨n, rest⟩ := read
        rw [← octet first] at noDot
        simp only [Option.bind_eq_bind, Option.bind_some]
        split
        next => simp at noDot
        next => rfl
    · decide
  rw [readV4, octets]
  rfl

theorem readV4_colon : readV4 (':' :: cs) = none := readV4_eq_none (by simp)

/-! ### Groups of version 6 -/

/-- What may come behind a group. -/
def EndsGroup (rest : List Char) : Prop := rest = [] ∨ ∃ more, rest = ':' :: more

/-- What no group comes behind. -/
def EndsGroups (rest : List Char) : Prop := rest = [] ∨ ∃ more, rest = ':' :: ':' :: more

variable {g : Nat} {first : Bool}

theorem EndsGroups.endsGroup (ends : EndsGroups rest) : EndsGroup rest := by
  rcases ends with rfl | ⟨more, rfl⟩
  · exact .inl rfl
  · exact .inr ⟨_, rfl⟩

theorem readGroup_toDigits (small : g < 65536) (ends : EndsGroup rest) :
    readGroup (Nat.toDigits 16 g ++ rest) = some (g, rest) := by
  have halts : Halts Numeral.isHex rest := by
    rcases ends with rfl | ⟨more, rfl⟩
    · exact halts_nil
    · exact halts_cons (by decide)
  have digits : (Nat.toDigits 16 g ++ rest).takeWhile (fun c => (Hex.digit? c).isSome) =
      Nat.toDigits 16 g := takeWhile_run Numeral.isHex_of_mem halts
  have short : ¬(Nat.toDigits 16 g).length > 4 :=
    Nat.not_lt.2 ((Nat.length_toDigits_le_iff (by decide) (by decide)).2 (by omega))
  simp [readGroup, digits, short, Numeral.value?_toDigits]

/-- A text that begins with a group is no address of version 4. -/
theorem readV4_toDigits (ends : EndsGroup rest) : readV4 (Nat.toDigits 16 g ++ rest) = none := by
  apply readV4_eq_none
  rw [List.dropWhile_append]
  split
  next =>
    -- Nothing but decimal digits in the group, and what comes behind it is no dot.
    rcases ends with rfl | ⟨more, rfl⟩
    · simp
    · simp
  next letter =>
    rw [List.isEmpty_iff] at letter
    obtain ⟨c, cs, split⟩ := List.exists_cons_of_ne_nil letter
    have member : c ∈ Nat.toDigits 16 g := by
      apply (List.dropWhile_sublist Char.isDigit).subset
      rw [split]
      exact List.mem_cons_self
    rw [split]
    rintro ⟨⟩
    exact absurd (Numeral.isHex_of_mem _ member) (by decide)

/-- The text of groups that come behind others. -/
def moreGroups (gs : List Nat) : List Char := gs.flatMap fun g => ':' :: Nat.toDigits 16 g

theorem endsGroup_moreGroups (ends : EndsGroup rest) : EndsGroup (moreGroups gs ++ rest) := by
  cases gs with
  | nil => exact ends
  | cons g gs => exact .inr ⟨_, rfl⟩

theorem readGroups_of_body (left : Nat) {body : List Char} (noV4 : readV4 body = none)
    (group : readGroup body = some (g, rest)) :
    readGroups (left + 1) true body =
        (g :: (readGroups left false rest).1, (readGroups left false rest).2) ∧
      readGroups (left + 1) false (':' :: body) =
        (g :: (readGroups left false rest).1, (readGroups left false rest).2) := by
  constructor
  · rw [readGroups.eq_def]
    simp [noV4, group]
  · rw [readGroups.eq_def]
    simp [noV4, group]

theorem readGroups_of_endsGroups (ends : EndsGroups rest) :
    readGroups left first rest = ([], false, rest) := by
  have noGroup {more : List Char} : readGroup (':' :: more) = none := by
    simp [readGroup, show Hex.digit? ':' = none by decide]
  cases left with
  | zero => rfl
  | succ left =>
    rw [readGroups.eq_def]
    rcases ends with rfl | ⟨more, rfl⟩
    · cases first with
      | true => simp [show readV4 [] = none from rfl, show readGroup [] = none from rfl]
      | false => rfl
    · cases first with
      | true => simp [readV4_colon, noGroup]
      | false => simp [readV4_colon, noGroup]

theorem readGroups_moreGroups (small : ∀ g ∈ gs, g < 65536) (enough : gs.length ≤ left)
    (ends : EndsGroups rest) :
    readGroups left false (moreGroups gs ++ rest) = (gs, false, rest) := by
  induction gs generalizing left with
  | nil => exact readGroups_of_endsGroups ends
  | cons g gs ih =>
    obtain ⟨left, rfl⟩ : ∃ k, left = k + 1 := Nat.exists_eq_add_one.2 (by simp at enough; omega)
    have behind : EndsGroup (moreGroups gs ++ rest) := endsGroup_moreGroups ends.endsGroup
    have others : readGroups left false (moreGroups gs ++ rest) = (gs, false, rest) :=
      ih (fun g member => small g (List.mem_cons_of_mem _ member)) (by simpa using enough)
    have read := (readGroups_of_body left (readV4_toDigits behind)
      (readGroup_toDigits (small g List.mem_cons_self) behind)).2
    rw [others] at read
    simpa [moreGroups] using read

theorem toList_writeGroups_cons (g : Nat) (gs : List Nat) :
    (writeGroups (g :: gs)).toList = Nat.toDigits 16 g ++ moreGroups gs := by
  induction gs generalizing g with
  | nil => simp [writeGroups, writeGroup, moreGroups]
  | cons g' gs ih =>
    have := ih g'
    simp only [writeGroups, List.map_cons, String.intercalate_cons_cons,
      String.toList_append] at this ⊢
    rw [this]
    simp [writeGroup, moreGroups]

/-- A text of groups is no address of version 4. -/
theorem readV4_writeGroups (ends : EndsGroup rest) :
    readV4 ((writeGroups gs).toList ++ rest) = none := by
  cases gs with
  | nil =>
    rcases ends with rfl | ⟨more, rfl⟩
    · rfl
    · exact readV4_colon
  | cons g gs =>
    rw [toList_writeGroups_cons, List.append_assoc]
    exact readV4_toDigits (endsGroup_moreGroups ends)

/-- Groups that were written are read up to the end of the text or a double colon. -/
theorem readGroups_writeGroups (small : ∀ g ∈ gs, g < 65536) (enough : gs.length ≤ left)
    (ends : EndsGroups rest) :
    readGroups left true ((writeGroups gs).toList ++ rest) = (gs, false, rest) := by
  cases gs with
  | nil => exact readGroups_of_endsGroups ends
  | cons g gs =>
    obtain ⟨left, rfl⟩ : ∃ k, left = k + 1 := Nat.exists_eq_add_one.2 (by simp at enough; omega)
    have behind : EndsGroup (moreGroups gs ++ rest) := endsGroup_moreGroups ends.endsGroup
    have others : readGroups left false (moreGroups gs ++ rest) = (gs, false, rest) :=
      readGroups_moreGroups (fun g member => small g (List.mem_cons_of_mem _ member))
        (by simpa using enough) ends
    rw [toList_writeGroups_cons, List.append_assoc]
    rw [(readGroups_of_body left (readV4_toDigits behind)
      (readGroup_toDigits (small g List.mem_cons_self) behind)).1, others]

/-! ### Version 6 -/

/-- A part of a run of zeros is as many zeros. -/
theorem eq_replicate_of_le_zeroRun {k : Nat} (within : k ≤ zeroRun gs) :
    gs = List.replicate k 0 ++ gs.drop k := by
  induction k generalizing gs with
  | zero => rfl
  | succ k ih =>
    cases gs with
    | nil => simp [zeroRun] at within
    | cons g gs =>
      by_cases zero : g = 0
      · subst zero
        have others : gs = List.replicate k 0 ++ gs.drop k := ih (by simpa [zeroRun] using within)
        rw [List.replicate_succ, List.cons_append, List.drop_succ_cons, ← others]
      · simp [zeroRun, zero] at within

theorem longestZeroRun_le (gs : List Nat) :
    (longestZeroRun gs).2 ≤ zeroRun (gs.drop (longestZeroRun gs).1) := by
  refine List.foldlRecOn (motive := fun best : Nat × Nat => best.2 ≤ zeroRun (gs.drop best.1))
    (List.range gs.length) _ (Nat.zero_le _) ?_
  intro best within start _
  dsimp only
  split
  · exact Nat.le_refl _
  · exact within

/-- The groups in front of the longest run of zeros, the zeros and the groups behind them. -/
theorem split_longestZeroRun :
    gs = gs.take (longestZeroRun gs).1 ++ List.replicate (longestZeroRun gs).2 0 ++
      gs.drop ((longestZeroRun gs).1 + (longestZeroRun gs).2) := by
  have zeros := eq_replicate_of_le_zeroRun (longestZeroRun_le gs)
  rw [List.drop_drop] at zeros
  rw [List.append_assoc, ← zeros, List.take_append_drop]

theorem ofDigits_groups (bits : BitVec 128) : ofDigits 65536 (groups bits) = bits.toNat := by
  have := bits.isLt
  simp only [ofDigits, groups, List.map_cons, List.map_nil, List.foldl_cons, List.foldl_nil,
    Nat.shiftRight_eq_div_pow]
  omega

theorem group_lt (bits : BitVec 128) : ∀ g ∈ groups bits, g < 65536 := by
  simp only [groups, List.mem_map, forall_exists_index, and_imp]
  rintro _ i _ rfl
  exact Nat.mod_lt _ (by decide)

theorem length_groups (bits : BitVec 128) : (groups bits).length = 8 := rfl

/-- Eight groups and no double colon. -/
theorem readV6_of_eight (bits : BitVec 128)
    (read : readGroups 8 true cs = (groups bits, false, [])) : readV6 cs = some (bits, []) := by
  simp only [readV6, read, length_groups, if_true, ofDigits_groups]
  simp

/-- A double colon stands for the groups that are missing. -/
theorem readV6_of_gap (bits : BitVec 128) {front back : List Nat} {dotted : Bool} {more : List Char}
    (readFront : readGroups 8 true cs = (front, false, ':' :: ':' :: more))
    (readBack : readGroups (7 - front.length) true more = (back, dotted, []))
    (short : front.length < 8)
    (whole : groups bits =
      front ++ List.replicate (8 - front.length - back.length) 0 ++ back) :
    readV6 cs = some (bits, []) := by
  have notEight : front.length ≠ 8 := by omega
  simp only [readV6, readFront, readBack, if_neg notEight]
  rw [← whole, ofDigits_groups]
  simp

/-- The text of an address that stands for one of version 4. -/
theorem readV6_mapped (bits : BitVec 128)
    (mapped : (groups bits).take 6 = [0, 0, 0, 0, 0, 0xFFFF]) :
    readV6 ("::ffff:" ++ writeV4 (bits.setWidth 32)).toList = some (bits, []) := by
  let low := bits.setWidth 32
  have group : "ffff".toList = Nat.toDigits 16 0xFFFF := by decide
  have text : ("::ffff:" ++ writeV4 low).toList =
      ':' :: ':' :: (Nat.toDigits 16 0xFFFF ++ ':' :: (writeV4 low).toList) := by
    rw [← group, String.toList_append]
    rfl
  have behind : EndsGroup (':' :: (writeV4 low).toList) := .inr ⟨_, rfl⟩
  have address : readV4 (writeV4 low).toList = some (low, []) := by
    simpa using readV4_writeV4 low halts_nil
  have dotted : readGroups 6 false (':' :: (writeV4 low).toList) =
      ([low.toNat / 65536, low.toNat % 65536], true, []) := by
    rw [readGroups.eq_def]
    simp [address]
  have back := (readGroups_of_body 6 (readV4_toDigits behind)
    (readGroup_toDigits (show 0xFFFF < 65536 by decide) behind)).1
  rw [dotted] at back
  rw [text]
  refine readV6_of_gap bits (readGroups_of_endsGroups (.inr ⟨_, rfl⟩)) back (by decide) ?_
  have lastTwo : (groups bits).drop 6 = [low.toNat / 65536, low.toNat % 65536] := by
    have := bits.isLt
    have lowBits : low.toNat = bits.toNat % 4294967296 := BitVec.toNat_setWidth ..
    simp only [groups, List.map_cons, List.map_nil, List.drop_succ_cons, List.drop_zero, lowBits,
      Nat.shiftRight_eq_div_pow, List.cons.injEq, and_true]
    omega
  rw [← List.take_append_drop 6 (groups bits), mapped, lastTwo]
  rfl

/-- The text of an address with a run of zero groups left out. -/
theorem readV6_gap (bits : BitVec 128) {start length : Nat}
    (split : groups bits = (groups bits).take start ++ List.replicate length 0 ++
      (groups bits).drop (start + length))
    (gap : length > 1) :
    readV6 (writeGroups ((groups bits).take start) ++ "::" ++
      writeGroups ((groups bits).drop (start + length))).toList = some (bits, []) := by
  let front := (groups bits).take start
  let back := (groups bits).drop (start + length)
  have lengths : 8 = front.length + length + back.length := by
    calc
      8 = (groups bits).length := rfl
      _ = (front ++ List.replicate length 0 ++ back).length := congrArg List.length split
      _ = front.length + length + back.length := by simp [Nat.add_assoc]
  have smallFront : ∀ g ∈ front, g < 65536 := fun g member =>
    group_lt bits g (List.take_subset _ _ member)
  have smallBack : ∀ g ∈ back, g < 65536 := fun g member =>
    group_lt bits g (List.drop_subset _ _ member)
  have readFront : readGroups 8 true
      ((writeGroups front).toList ++ ':' :: ':' :: (writeGroups back).toList) =
        (front, false, ':' :: ':' :: (writeGroups back).toList) :=
    readGroups_writeGroups smallFront (by omega) (.inr ⟨_, rfl⟩)
  have readBack : readGroups (7 - front.length) true ((writeGroups back).toList ++ []) =
      (back, false, []) := readGroups_writeGroups smallBack (by omega) (.inl rfl)
  rw [List.append_nil] at readBack
  have text : (writeGroups front ++ "::" ++ writeGroups back).toList =
      (writeGroups front).toList ++ ':' :: ':' :: (writeGroups back).toList := by
    simp
  rw [text]
  refine readV6_of_gap bits readFront readBack (by omega) ?_
  rw [show 8 - front.length - back.length = length by omega]
  exact split

/-- The text of an address of version 6 is none of version 4. -/
theorem readV4_writeV6 (bits : BitVec 128) : readV4 (writeV6 bits).toList = none := by
  simp only [writeV6]
  split
  next =>
    rw [String.toList_append]
    exact readV4_colon
  next =>
    split
    next =>
      rw [String.toList_append, String.toList_append, List.append_assoc]
      exact readV4_writeGroups (.inr ⟨_, rfl⟩)
    next =>
      have read : readV4 ((writeGroups (groups bits)).toList ++ []) = none :=
        readV4_writeGroups (.inl rfl)
      rwa [List.append_nil] at read

theorem readV6_writeV6 (bits : BitVec 128) : readV6 (writeV6 bits).toList = some (bits, []) := by
  simp only [writeV6]
  split
  next mapped => exact readV6_mapped bits mapped
  next =>
    split
    next gap => exact readV6_gap bits split_longestZeroRun gap
    next =>
      have read : readGroups 8 true ((writeGroups (groups bits)).toList ++ []) =
          (groups bits, false, []) :=
        readGroups_writeGroups (group_lt bits) (Nat.le_of_eq (length_groups bits)) (.inl rfl)
      rw [List.append_nil] at read
      exact readV6_of_eight bits read

/-- Every address is read back from its text. -/
theorem ofText?_text (ip : IpAddr) : ofText? ip.text = some ip := by
  cases ip with
  | v4 bits =>
    have read := readV4_writeV4 bits halts_nil
    rw [List.append_nil] at read
    simp [ofText?, text, read]
  | v6 bits =>
    simp [ofText?, text, readV4_writeV6, readV6_writeV6]

end Tollgate.IpAddr
