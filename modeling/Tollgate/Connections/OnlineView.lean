import Tollgate.Control.Records
import Tollgate.Table
import Tollgate.UserKey

/-!
# Online views

Which addresses each user is online from, as a table and in the shape that nodes exchange.
-/

namespace Tollgate

/-- The addresses of online users. -/
abbrev OnlineView := Table UserKey (List IpAddr)

namespace OnlineView

/-- The view that a list of entries gives for a scope. An entry without addresses says nothing, and
of several entries for a user the last counts. -/
def ofUserIps (scope : String) (entries : List UserIps) : OnlineView :=
  Table.ofList ((entries.filter (!·.ips.isEmpty)).map fun entry =>
    (⟨scope, entry.userId⟩, entry.ips))

/-- The entries of a view, ascending by the number of the user. -/
def toUserIps (view : OnlineView) : List UserIps :=
  (view.toList.map fun (key, ips) => { userId := key.user, ips : UserIps }).mergeSort
    (fun x y => x.userId ≤ y.userId)

end OnlineView

end Tollgate
