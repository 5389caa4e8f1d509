import Tollgate.Scope

/-!
# The registry

The active scopes by name. Each activation of a name has a number of its own and its own state, so a
lease or a cycle that began under one activation stays with it when the name is activated again.
-/

namespace Tollgate

/-- Scopes by activation, and the activation in force for each active name. -/
structure Registry where
  active : Table String Nat := .empty
  scopes : Table Nat Scope := .empty
  nextActivation : Nat := 0
deriving Inhabited

/-- An open connection that is closed by dropping the lease, whatever became of the user since. -/
structure Lease where
  activation : Nat
  user : UInt64
  ip : IpAddr
  session : Nat
deriving DecidableEq, Repr

namespace Registry

variable (registry : Registry)

/-- The state of an activation. -/
def scope (activation : Nat) : Scope := (registry.scopes.get? activation).getD default

/-- Puts the state of an activation in place. -/
def setScope (activation : Nat) (scope : Scope) : Registry :=
  { registry with scopes := registry.scopes.insert activation scope }

/-- The activation in force for a name. -/
def find (name : String) : Except Error Nat :=
  match registry.active.get? name with
  | some activation => .ok activation
  | none => .error (.unknownScope name)

/-- The names of the active scopes, ascending. -/
def names : List String := registry.active.keys

/-- Activates a scope. The answer is the number of the activation. -/
def activate (name : String) (config : ScopeConfig) : Except Error Nat × Registry :=
  if registry.active.contains name then (.error (.scopeExists name), registry)
  else
    let activation := registry.nextActivation
    (.ok activation, { registry.setScope activation (Scope.activate name config) with
      active := registry.active.insert name activation
      nextActivation := activation + 1 })

/-- Changes the state of an activation and answers from it. -/
def run {α : Type} (activation : Nat) (f : Scope → α × Scope) : α × Registry :=
  let (answer, scope) := f (registry.scope activation)
  (answer, registry.setScope activation scope)

/-- Changes the state of an activation. -/
def modify (activation : Nat) (f : Scope → Scope) : Registry :=
  registry.setScope activation (f (registry.scope activation))

/-- Tears a scope down and frees its name. -/
def deactivate (name : String) : Except Error Unit × Registry :=
  match registry.find name with
  | .error e => (.error e, registry)
  | .ok activation =>
    (.ok (), { registry.modify activation Scope.teardown with active := registry.active.erase name })

/-- Asks for a connection that a lease holds open. No lease means that it is refused. -/
def acquire (activation : Nat) (user : UInt64) (ip : IpAddr) :
    Except Error (Option Lease) × Registry :=
  let (result, registry) := registry.run activation (·.connect user ip)
  match result with
  | .error e => (.error e, registry)
  | .ok (.error _) => (.ok none, registry)
  | .ok (.ok session) => (.ok (some { activation, user, ip, session }), registry)

/-- Closes the connection of a lease. -/
def drop (lease : Lease) : Registry :=
  registry.modify lease.activation (·.release lease.user lease.ip (some lease.session))

/-! ### What the operations leave of each activation -/

variable {registry}

theorem scope_setScope (a a' : Nat) (scope : Scope) :
    (registry.setScope a scope).scope a' = if a = a' then scope else registry.scope a' := by
  simp only [Registry.scope, setScope, Table.get?_insert]
  split <;> rfl

theorem scope_modify (a a' : Nat) (f : Scope → Scope) :
    (registry.modify a f).scope a' =
      if a = a' then f (registry.scope a') else registry.scope a' := by
  simp only [modify, scope_setScope]
  split
  next same => rw [same]
  next => rfl

@[simp] theorem active_setScope (a : Nat) (scope : Scope) :
    (registry.setScope a scope).active = registry.active := rfl

end Registry

end Tollgate
