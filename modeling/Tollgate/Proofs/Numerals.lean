import Tollgate.Hex

/-!
# Numerals

Texts are read by runs: the characters of one kind at the front, and what follows them. A run that
was written is found again if what follows does not begin with its kind (`Halts`). The runs here are
numerals, decimal and hexadecimal, written without leading zeros.
-/

namespace Tollgate

/-- What follows does not begin with a character of the kind. -/
def Halts (kind : Char → Bool) (rest : List Char) : Prop :=
  ∀ c ∈ rest.head?, kind c = false

variable {kind : Char → Bool} {run rest : List Char} {n : Nat}

theorem halts_nil : Halts kind [] := by
  rintro c ⟨⟩

theorem halts_cons {c : Char} (other : kind c = false) : Halts kind (c :: rest) := by
  rintro _ ⟨⟩
  exact other

theorem takeWhile_run (ofKind : ∀ c ∈ run, kind c = true) (halts : Halts kind rest) :
    (run ++ rest).takeWhile kind = run := by
  rw [List.takeWhile_append_of_pos ofKind]
  cases rest with
  | nil => simp
  | cons c rest => simp [halts c rfl]

theorem dropWhile_run (ofKind : ∀ c ∈ run, kind c = true) (halts : Halts kind rest) :
    (run ++ rest).dropWhile kind = rest := by
  rw [List.dropWhile_append_of_pos ofKind]
  cases rest with
  | nil => rfl
  | cons c rest => simp [halts c rfl]

theorem drop_takeWhile (cs : List Char) :
    cs.drop (cs.takeWhile kind).length = cs.dropWhile kind := by
  induction cs with
  | nil => rfl
  | cons c cs ih =>
    by_cases ofKind : kind c = true
    · simp [ofKind, ih]
    · simp [ofKind]

namespace Numeral

/-! ### Decimal digits -/

theorem isDigit_of_mem : ∀ c ∈ Nat.toDigits 10 n, c.isDigit = true := fun _ member =>
  Nat.isDigit_of_mem_toDigits (by decide) (by decide) member

/-- Only zero is written with a zero in front. -/
theorem eq_zero_of_head? (leading : (Nat.toDigits 10 n).head? = some '0') : n = 0 := by
  induction n using Nat.strongRecOn with
  | ind n ih =>
    by_cases small : n < 10
    · simpa [Nat.toDigits_of_lt_base small] using leading
    · rw [Nat.toDigits_of_base_le (by decide) (by omega)] at leading
      obtain ⟨c, rest, digits⟩ :=
        List.exists_cons_of_ne_nil (Nat.toDigits_ne_nil (n := n / 10) (b := 10))
      rw [digits] at leading
      have front : (Nat.toDigits 10 (n / 10)).head? = some '0' := by
        rw [digits]
        exact leading
      have := ih (n / 10) (by omega) front
      omega

theorem not_leading_zero :
    ¬((Nat.toDigits 10 n).head? = some '0' ∧ (Nat.toDigits 10 n).length > 1) := by
  rintro ⟨leading, long⟩
  rw [eq_zero_of_head? leading] at long
  simp at long

/-! ### Hexadecimal digits -/

/-- Whether a character is a hexadecimal digit. -/
def isHex (c : Char) : Bool := (Hex.digit? c).isSome

theorem digit?_digitChar (small : n < 16) : Hex.digit? n.digitChar = some n := by
  have all : ∀ i : Fin 16, Hex.digit? (Nat.digitChar i.val) = some i.val := by decide
  exact all ⟨n, small⟩

/-- A numeral without leading zeros has the value it was written for. -/
theorem value?_toDigits : Hex.value? (Nat.toDigits 16 n) = some n := by
  induction n using Nat.strongRecOn with
  | ind n ih =>
    by_cases small : n < 16
    · rw [Nat.toDigits_of_lt_base small]
      simp [Hex.value?, digit?_digitChar small]
    · rw [Nat.toDigits_of_base_le (by decide) (by omega), Hex.value?_append,
        ih (n / 16) (by omega)]
      simp [digit?_digitChar (Nat.mod_lt n (by decide))]
      omega

theorem isHex_of_mem : ∀ c ∈ Nat.toDigits 16 n, isHex c = true := by
  induction n using Nat.strongRecOn with
  | ind n ih =>
    intro c member
    by_cases small : n < 16
    · rw [Nat.toDigits_of_lt_base small, List.mem_singleton] at member
      rw [member, isHex, digit?_digitChar small]
      rfl
    · rw [Nat.toDigits_of_base_le (by decide) (by omega), List.mem_append,
        List.mem_singleton] at member
      rcases member with front | last
      · exact ih (n / 16) (by omega) c front
      · rw [last, isHex, digit?_digitChar (Nat.mod_lt n (by decide))]
        rfl

end Numeral

end Tollgate
