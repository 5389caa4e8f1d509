import Tollgate.Connections.OnlineView
import Tollgate.Connections.Session

/-!
# The connection limiter

Decides on connections and keeps the sessions of all users. A user's session begins when it is first
tracked and gets a number no other session ever had; it ends when the user is removed or a window
closes on it with nothing left. A connection that is closed with the number of its session is not
counted off a later session of the same user.
-/

namespace Tollgate

/-- The sessions of all users. -/
structure ConnectionLimiter where
  sessions : Table UserKey Session := .empty
  nextSession : Nat := 0
deriving DecidableEq, Inhabited

namespace ConnectionLimiter

variable (limiter : ConnectionLimiter) (key : UserKey)

/-- The session of a user. -/
def session? : Option Session := limiter.sessions.get? key

/-- Puts a session in place. -/
def setSession (session : Session) : ConnectionLimiter :=
  { limiter with sessions := limiter.sessions.insert key session }

/-- The session of a user, opened if there is none. -/
def openSession : Session × ConnectionLimiter :=
  match limiter.session? key with
  | some session => (session, limiter)
  | none =>
    let session : Session := { id := limiter.nextSession }
    (session, { limiter.setSession key session with nextSession := limiter.nextSession + 1 })

/-- Asks for a connection from an address. The answer is the number of the session that the
connection belongs to, or why it is refused. -/
def connect (ip : IpAddr) (limits : AdmissionLimits) : Except Refusal Nat × ConnectionLimiter :=
  let (session, limiter) := limiter.openSession key
  match session.refusal? ip limits with
  | some refusal => (.error refusal, limiter)
  | none => (.ok session.id, limiter.setSession key (session.connect ip))

/-- Closes a connection from an address, of the given session if one is given, and says whether it
was the user's last. Where there is no such connection nothing happens. -/
def release (ip : IpAddr) (id : Option Nat) : Bool × ConnectionLimiter :=
  match (limiter.session? key).filter (fun session => id.all (· = session.id)) with
  | none => (false, limiter)
  | some session =>
    match session.disconnect? ip with
    | none => (false, limiter)
    | some session => (session.connections = 0, limiter.setSession key session)

/-- The open connections of a user. -/
def connections : Nat := ((limiter.session? key).map (·.connections)).getD 0

/-- The number of active devices of a user. -/
def activeDevices : Nat := ((limiter.session? key).map (·.activeDevices)).getD 0

/-- The addresses from which each user has open connections. -/
def snapshot : OnlineView :=
  limiter.sessions.filterMap fun _ session =>
    if session.openIps.isEmpty then none else some session.openIps

/-- Closes the window with a change to what it leaves of each session; a session with nothing left
ends. -/
def closeWindow (update : UserKey → Session → Session) : ConnectionLimiter :=
  { limiter with
    sessions := limiter.sessions.filterMap fun key session =>
      let session := update key session.afterWindow
      if session.isEmpty then none else some session }

/-- Begins a new window. -/
def resetWindow : ConnectionLimiter := limiter.closeWindow fun _ session => session

/-- Marks devices of a user as online elsewhere; no devices are no reason for a session. -/
def markRemote (ips : List IpAddr) : ConnectionLimiter :=
  if ips.isEmpty then limiter
  else
    let (session, limiter) := limiter.openSession key
    limiter.setSession key (session.markAllRemote ips)

/-- Begins a new window with the devices that other nodes report. -/
def mergeRemote (view : OnlineView) : ConnectionLimiter :=
  view.toList.foldl (fun limiter (key, ips) => limiter.markRemote key ips)
    (limiter.closeWindow fun key session => session.markAllRemote ((view.get? key).getD []))

/-- Ends a window without word from other nodes. A node that records its online users elsewhere keeps
what it knows until that word comes. -/
def endWindow (recorderEnabled : Bool) : ConnectionLimiter :=
  if recorderEnabled then limiter else limiter.resetWindow

/-- Ends a window with what other nodes report about the users of a scope. -/
def mergeReported (scope : String) (entries : List UserIps) : ConnectionLimiter :=
  limiter.mergeRemote (OnlineView.ofUserIps scope entries)

/-- Ends the session of a user. -/
def removeUser : ConnectionLimiter := { limiter with sessions := limiter.sessions.erase key }

/-- Ends all sessions. -/
def clear : ConnectionLimiter := { limiter with sessions := .empty }

/-- The connection counts of the users with open connections. -/
def openCounts : List Nat :=
  (limiter.sessions.toList.map (·.2.connections)).filter (0 < ·)

/-- The number of users with open connections. -/
def onlineUsers : Nat := limiter.openCounts.length

/-- The number of open connections. -/
def totalConnections : Nat := limiter.openCounts.foldr (· + ·) 0

/-! ### What the operations leave for each user -/

variable {limiter} {key}

theorem session?_setSession (session : Session) (k : UserKey) :
    (limiter.setSession key session).session? k =
      if key = k then some session else limiter.session? k :=
  Table.get?_insert _ _ _ _

theorem session?_removeUser (k : UserKey) :
    (limiter.removeUser key).session? k = if key = k then none else limiter.session? k :=
  Table.get?_erase _ _ _

theorem session?_closeWindow (update : UserKey → Session → Session) (k : UserKey) :
    (limiter.closeWindow update).session? k =
      ((limiter.session? k).map (fun s => update k s.afterWindow)).filter (!·.isEmpty) := by
  simp only [session?, closeWindow, Table.get?_filterMap]
  cases limiter.sessions.get? k with
  | none => rfl
  | some s =>
    simp only [Option.bind_some, Option.map_some, Option.filter_some]
    split <;> simp_all

theorem openSession_of_some {session : Session} (h : limiter.session? key = some session) :
    limiter.openSession key = (session, limiter) := by
  simp [openSession, h]

theorem openSession_of_none (h : limiter.session? key = none) :
    limiter.openSession key =
      ({ id := limiter.nextSession },
        { limiter.setSession key { id := limiter.nextSession } with
          nextSession := limiter.nextSession + 1 }) := by
  simp [openSession, h]

end ConnectionLimiter

end Tollgate
