import TcpSessions.Session.Record
/-!
# The session table

`Table` is the ordered list of tracked sessions. An entry pairs an id with the session object it
was given to, so a session that merely carries the same id is never taken for a tracked one. Ids
are handed out in increasing order and never again.

| here | `infrastructure.state.session_table` |
| --- | --- |
| `Table.insert` | `InMemorySessionTable.create` |
| `Table.remove` | `.remove` |
| `Table.refs`, `Table.size` | `.iterate`, `.__len__` |
-/
namespace TcpSessions

/-- The identity of a session object. -/
structure SessionRef where
  index : Nat
  deriving DecidableEq, Repr

/-- A tracked session: its id and which object it is. -/
structure Entry where
  id : Int
  ref : SessionRef
  deriving DecidableEq, Repr

/-- The tracked sessions in creation order, and the next id. -/
structure Table where
  entries : List Entry := []
  nextId : Int := 1
  deriving DecidableEq, Repr

namespace Table

def refs (t : Table) : List SessionRef := t.entries.map (·.ref)

def size (t : Table) : Nat := t.entries.length

def insert (t : Table) (ref : SessionRef) : Table :=
  { entries := t.entries ++ [⟨t.nextId, ref⟩], nextId := t.nextId + 1 }

def lookup? (t : Table) (id : Int) : Option SessionRef :=
  (t.entries.find? (·.id = id)).map (·.ref)

/-- Whether an object with a given id is the very one tracked under that id. -/
def tracks (t : Table) (id : Int) (ref : SessionRef) : Bool := t.lookup? id = some ref

def erase (t : Table) (id : Int) : Table :=
  { t with entries := t.entries.filter (·.id ≠ id) }

/-- Stops tracking an object with a given id; a foreign object changes nothing. -/
def remove (t : Table) (id : Int) (ref : SessionRef) : Bool × Table :=
  if t.tracks id ref then (true, t.erase id) else (false, t)

end Table
end TcpSessions
