/-!
# Hexadecimal text

Digits of either case are read; lower case is written.
-/

namespace Tollgate.Hex

/-- The value of a hexadecimal digit. -/
def digit? (c : Char) : Option Nat :=
  if '0' ≤ c ∧ c ≤ '9' then some (c.toNat - 48)
  else if 'a' ≤ c ∧ c ≤ 'f' then some (c.toNat - 87)
  else if 'A' ≤ c ∧ c ≤ 'F' then some (c.toNat - 55)
  else none

/-- The digit of a value below sixteen. -/
def digit (n : Nat) : Char := Char.ofNat (if n < 10 then 48 + n else 87 + n)

/-- The number that digits write, most significant first. -/
def value? (cs : List Char) : Option Nat :=
  cs.foldlM (fun n c => (digit? c).map (16 * n + ·)) 0

/-- A number below sixteen to the `width` as that many digits. -/
def fixed : Nat → Nat → List Char
  | 0, _ => []
  | width + 1, n => fixed width (n / 16) ++ [digit (n % 16)]

theorem digit?_digit {n : Nat} (h : n < 16) : digit? (digit n) = some n := by
  have all : ∀ i : Fin 16, digit? (digit i.val) = some i.val := by decide
  exact all ⟨n, h⟩

theorem length_fixed (width n : Nat) : (fixed width n).length = width := by
  induction width generalizing n with
  | zero => rfl
  | succ width ih => simp [fixed, ih]

theorem value?_append (xs ys : List Char) :
    value? (xs ++ ys) =
      (value? xs).bind (fun n => ys.foldlM (fun n c => (digit? c).map (16 * n + ·)) n) := by
  simp only [value?, List.foldlM_append]
  rfl

/-- What is written with enough digits reads back. -/
theorem value?_fixed {width n : Nat} (h : n < Nat.pow 16 width) : value? (fixed width n) = some n := by
  induction width generalizing n with
  | zero =>
    have : n = 0 := by simpa using h
    subst this
    rfl
  | succ width ih =>
    have low : n / 16 < Nat.pow 16 width := by
      have split : Nat.pow 16 (width + 1) = Nat.pow 16 width * 16 := rfl
      omega
    rw [fixed, value?_append, ih low]
    simp only [Option.bind_some, List.foldlM_cons, List.foldlM_nil,
      digit?_digit (Nat.mod_lt n (by decide)), Option.map_some]
    simp only [bind, Option.bind, pure, Option.some.injEq]
    omega

end Tollgate.Hex
