/-!
# User keys

A user is known within a scope; the key of a user names both. Keys are ordered by scope and then by
number.
-/

namespace Tollgate

/-- A user of a scope. -/
structure UserKey where
  scope : String
  user : UInt64
deriving DecidableEq, Repr, Inhabited

namespace UserKey

/-- Scopes first, in code point order, then the numbers of the users. -/
def order : UserKey → UserKey → Ordering :=
  compareLex (compareOn UserKey.scope) (compareOn UserKey.user)

instance : Ord UserKey := ⟨order⟩

instance : Std.TransOrd UserKey :=
  inferInstanceAs (Std.TransCmp (compareLex (compareOn UserKey.scope) (compareOn UserKey.user)))

instance : Std.LawfulEqOrd UserKey where
  compare_self := Std.ReflCmp.compare_self
  eq_of_compare {a b} h := by
    have parts : (compare a.scope b.scope).then (compare a.user b.user) = .eq := h
    rw [Ordering.then_eq_eq] at parts
    have scopes := Std.LawfulEqCmp.compare_eq_iff_eq.1 parts.1
    have users := Std.LawfulEqCmp.compare_eq_iff_eq.1 parts.2
    cases a
    cases b
    simp_all

/-- The scope and the number with a slash between them. -/
def text (k : UserKey) : String := k.scope ++ "/" ++ toString k.user

end UserKey

end Tollgate
