import Tollgate.Net.IpAddr
import Tollgate.Table

/-!
# Sessions

A user's open connections, counted for each device they come from. A device is the address of a
user; it is active while it has an open connection here or is reported online elsewhere. A device
that is neither stays known until the window closes.

Counts stop at the greatest word of 32 bits.
-/

namespace Tollgate

/-- The greatest count of connections. -/
def maxConnections : Nat := UInt32.size - 1

/-- A device of a user. -/
structure Device where
  connections : Nat := 0
  isRemote : Bool := false
deriving DecidableEq, Repr, Inhabited

/-- A user's connections and devices, from the moment they are first tracked until they are
forgotten. -/
structure Session where
  id : Nat
  connections : Nat := 0
  devices : Table IpAddr Device := .empty
deriving DecidableEq, Inhabited

/-- Caps on the connections and the active devices of a user, where zero is no limit. -/
structure AdmissionLimits where
  connLimit : Nat := 0
  deviceLimit : Nat := 0
deriving DecidableEq, Repr, Inhabited

/-- Why a connection is refused. -/
inductive Refusal where
  | connectionLimit
  | deviceLimit
deriving DecidableEq, Repr, Inhabited

namespace Device

/-- Whether the device counts as online. -/
def isActive (device : Device) : Bool := 0 < device.connections || device.isRemote

/-- What a closing window leaves of a device: its open connections, if it has any. -/
def afterWindow (device : Device) : Option Device :=
  if 0 < device.connections then some { device with isRemote := false } else none

end Device

namespace Session

/-- The device at an address. -/
def device (session : Session) (ip : IpAddr) : Device := (session.devices.get? ip).getD {}

/-- Whether a device at an address is active. -/
def isActive (session : Session) (ip : IpAddr) : Bool := (session.device ip).isActive

/-- The addresses of the active devices, ascending. -/
def activeIps (session : Session) : List IpAddr :=
  (session.devices.toList.filter (·.2.isActive)).map (·.1)

/-- The number of active devices. -/
def activeDevices (session : Session) : Nat := session.activeIps.length

/-- The addresses with open connections, ascending. -/
def openIps (session : Session) : List IpAddr :=
  (session.devices.toList.filter (0 < ·.2.connections)).map (·.1)

/-- Whether nothing is left to remember. -/
def isEmpty (session : Session) : Bool := session.connections = 0 && session.devices.size = 0

/-- Why a connection from an address is refused, if it is. -/
def refusal? (session : Session) (ip : IpAddr) (limits : AdmissionLimits) : Option Refusal :=
  if 0 < limits.connLimit ∧ limits.connLimit ≤ session.connections then some .connectionLimit
  else if 0 < limits.deviceLimit ∧ session.isActive ip = false ∧
      limits.deviceLimit ≤ session.activeDevices then some .deviceLimit
  else none

/-- One more connection from an address. -/
def connect (session : Session) (ip : IpAddr) : Session :=
  let device := session.device ip
  { session with
    connections := min (session.connections + 1) maxConnections
    devices := session.devices.insert ip
      { device with connections := min (device.connections + 1) maxConnections } }

/-- One connection from an address fewer; nothing if there is none. -/
def disconnect? (session : Session) (ip : IpAddr) : Option Session :=
  let device := session.device ip
  if device.connections = 0 then none
  else some { session with
    connections := session.connections - 1
    devices := session.devices.insert ip { device with connections := device.connections - 1 } }

/-- The session in the next window: devices without open connections are forgotten, and what other
nodes reported no longer counts. -/
def afterWindow (session : Session) : Session :=
  { session with devices := session.devices.filterMap fun _ => Device.afterWindow }

/-- Marks a device as online elsewhere. -/
def markRemote (session : Session) (ip : IpAddr) : Session :=
  { session with devices := session.devices.insert ip { session.device ip with isRemote := true } }

/-- Marks devices as online elsewhere. -/
def markAllRemote (session : Session) (ips : List IpAddr) : Session := ips.foldl markRemote session

/-! ### What the operations leave of each device -/

variable {session : Session}

theorem device_connect (ip ip' : IpAddr) :
    (session.connect ip).device ip' =
      if ip = ip' then
        { session.device ip' with
          connections := min ((session.device ip').connections + 1) maxConnections }
      else session.device ip' := by
  simp only [device, connect, Table.get?_insert]
  split
  next same => subst same; rfl
  next => rfl

theorem device_markRemote (ip ip' : IpAddr) :
    (session.markRemote ip).device ip' =
      if ip = ip' then { session.device ip' with isRemote := true } else session.device ip' := by
  simp only [device, markRemote, Table.get?_insert]
  split
  next same => subst same; rfl
  next => rfl

theorem device_afterWindow (ip : IpAddr) :
    session.afterWindow.device ip = { session.device ip with isRemote := false } := by
  simp only [device, afterWindow, Table.get?_filterMap]
  cases session.devices.get? ip with
  | none => rfl
  | some d =>
    simp only [Option.bind_some, Device.afterWindow, Option.getD_some]
    split
    · rfl
    next closed =>
      have zero : d.connections = 0 := by omega
      simp [zero]

end Session

end Tollgate
