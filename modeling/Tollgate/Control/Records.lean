import Tollgate.Net.IpAddr
import Tollgate.Uuid

/-!
# Control-plane records

What the control plane tells a node and what a node tells the control plane: caps, users, rules,
online addresses and traffic. Zero in a cap means that there is no limit.
-/

namespace Tollgate

/-- The caps of a node. -/
structure NodeLimits where
  speedLimit : UInt64 := 0
  deviceLimit : UInt32 := 0
  connLimit : UInt32 := 0
deriving DecidableEq, Repr, Inhabited

/-- When a user's speed is reduced, to what, and for how long. -/
structure DynamicLimit where
  thresholdBytes : UInt64
  reducedSpeed : UInt64
  durationSecs : UInt64
deriving DecidableEq, Repr, Inhabited

/-- A dynamic limit with a zero in it never comes into force. -/
def DynamicLimit.isEnabled (limit : DynamicLimit) : Bool :=
  limit.thresholdBytes > 0 && limit.reducedSpeed > 0 && limit.durationSecs > 0

/-- What the control plane says about a node. -/
structure NodeInfo where
  limits : NodeLimits := {}
  pullIntervalSecs : UInt64
  pushIntervalSecs : UInt64
  dynamicLimit : Option DynamicLimit := none
deriving DecidableEq, Repr, Inhabited

/-- A user as the control plane lists it. -/
structure RosterUser where
  id : UInt64
  uuid : Uuid
  speedLimit : UInt64 := 0
  deviceLimit : UInt32 := 0
deriving DecidableEq, Repr, Inhabited

/-- Domain patterns and protocol names that are blocked. -/
structure RuleSet where
  domainPatterns : List String := []
  protocols : List String := []
deriving DecidableEq, Repr, Inhabited

/-- The addresses a user is online from. -/
structure UserIps where
  userId : UInt64
  ips : List IpAddr
deriving DecidableEq, Repr, Inhabited

/-- The bytes a user sent and received. -/
structure UserTraffic where
  userId : UInt64
  upload : UInt64
  download : UInt64
deriving DecidableEq, Repr, Inhabited

/-- The sum of two counts, or the greatest count there is. -/
def addSaturating (a b : UInt64) : UInt64 :=
  if a.toNat + b.toNat < UInt64.size then a + b else -1

/-- Sent and received bytes together. -/
def UserTraffic.total (t : UserTraffic) : UInt64 := addSaturating t.upload t.download

theorem toNat_addSaturating (a b : UInt64) :
    (addSaturating a b).toNat = min (a.toNat + b.toNat) (UInt64.size - 1) := by
  unfold addSaturating
  split
  next small =>
    rw [UInt64.toNat_add, Nat.mod_eq_of_lt small]
    omega
  next large =>
    have top : (-1 : UInt64).toNat = UInt64.size - 1 := by decide
    rw [top]
    omega

end Tollgate
