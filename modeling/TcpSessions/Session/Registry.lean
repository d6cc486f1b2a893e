import TcpSessions.Session.Table
/-!
# The registry

Every session object ever created, and the table of those that are tracked. Objects are never
forgotten: a removed session keeps its fields, it only leaves the table.

| here | `infrastructure.state.session_table` |
| --- | --- |
| `Registry.create` | `InMemorySessionTable.create` |
| `Registry.remove`, `Registry.removeStranger` | `.remove` |
| `Registry.findByHandle?` | `.find_by_handle` |
-/
namespace TcpSessions

/-- All session objects in creation order, and the table of the tracked ones. -/
structure Registry where
  sessions : List Session := []
  table : Table := {}
  deriving DecidableEq, Repr

namespace Registry

def get? (r : Registry) (ref : SessionRef) : Option Session := r.sessions[ref.index]?

/-- The identity of the `n`-th session ever created, counting from one. -/
def nth? (r : Registry) (n : Int) : Option SessionRef :=
  if 1 ≤ n ∧ n ≤ r.sessions.length then some ⟨(n - 1).toNat⟩ else none

def create (r : Registry) (flags : SessionFlags) : SessionRef × Registry :=
  let ref : SessionRef := ⟨r.sessions.length⟩
  (ref, { sessions := r.sessions ++ [{ id := r.table.nextId, flags }]
          table := r.table.insert ref })

def set (r : Registry) (ref : SessionRef) (s : Session) : Registry :=
  { r with sessions := r.sessions.set ref.index s }

/-- Stops tracking a session; answers whether it was tracked. -/
def remove (r : Registry) (ref : SessionRef) : Bool × Registry :=
  match r.get? ref with
  | some s =>
    let (removed, table) := r.table.remove s.id ref
    (removed, { r with table })
  | none => (false, r)

/-- The identity of an object made outside the registry. -/
def stranger (r : Registry) : SessionRef := ⟨r.sessions.length⟩

/-- Stops tracking an object that was made outside the registry with a given id. -/
def removeStranger (r : Registry) (id : Int) : Bool × Registry :=
  let (removed, table) := r.table.remove id r.stranger
  (removed, { r with table })

/-- The first tracked session whose handle has a given number; minus one is no handle. -/
def findByHandle? (r : Registry) (handle : Int) : Option SessionRef :=
  match Handle.ofInt? handle with
  | none => none
  | some h => r.table.refs.find? fun ref => (r.get? ref).any (·.handle = some h)

def trackedIds (r : Registry) : List Int := r.table.entries.map (·.id)

end Registry
end TcpSessions
