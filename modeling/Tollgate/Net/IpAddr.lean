/-!
# IP addresses

Addresses of both versions. All addresses of version 4 come before those of version 6, and within a
version they are ordered as numbers.
-/

namespace Tollgate

/-- An IP address as the bits of its version. -/
inductive IpAddr where
  | v4 (bits : BitVec 32)
  | v6 (bits : BitVec 128)
deriving DecidableEq, Repr

namespace IpAddr

instance : Inhabited IpAddr := ⟨.v4 0⟩

/-- The place of an address in the order. -/
def rank : IpAddr → Nat
  | .v4 bits => bits.toNat
  | .v6 bits => 4294967296 + bits.toNat

theorem rank_injective {a b : IpAddr} (h : a.rank = b.rank) : a = b := by
  cases a with
  | v4 a =>
    cases b with
    | v4 b => exact congrArg _ (BitVec.eq_of_toNat_eq h)
    | v6 b =>
      have := a.isLt
      simp only [rank] at h
      omega
  | v6 a =>
    cases b with
    | v4 b =>
      have := b.isLt
      simp only [rank] at h
      omega
    | v6 b =>
      simp only [rank, Nat.add_left_cancel_iff] at h
      exact congrArg _ (BitVec.eq_of_toNat_eq h)

instance : Ord IpAddr := ⟨compareOn rank⟩

instance : Std.TransOrd IpAddr := inferInstanceAs (Std.TransCmp (compareOn rank))

instance : Std.LawfulEqOrd IpAddr where
  compare_self := Std.ReflCmp.compare_self
  eq_of_compare {a b} h := by
    have ranks : compare a.rank b.rank = .eq := h
    exact rank_injective (Std.LawfulEqCmp.compare_eq_iff_eq.1 ranks)

end IpAddr

end Tollgate
