import TcpSessions.Lookup
/-!
# The connection manager

Its configuration, and the steps that its operations share.

| here | `application.connection_manager` |
| --- | --- |
| `Manager` | `ConnectionManager.__init__` |
-/
namespace TcpSessions

/-- Who answers name lookups. -/
inductive LookupMode
  | external
  /-- The name lookup of the system, with literals and filtering by the library. -/
  | system
  deriving DecidableEq, Repr

/-- How a connection manager opens sessions when a caller says nothing else. -/
structure Manager where
  defaultPort : Int := telnetPort
  defaultFamily : Family := .inet
  oobInline : Bool := true
  lookup : LookupMode := .external
  deriving DecidableEq, Repr

namespace Manager

variable {ω : Type}

def resolve (m : Manager) (h : Host ω) (token : Option TokenId) (host : String)
    (family : Family) : Act ω (List Address.Bytes) :=
  match m.lookup with
  | .system => Lookup.resolve h token host family
  | .external => do Act.ofExcept (← h.call token (.resolve host family))

def reverse (m : Manager) (h : Host ω) (address : Address) : Act ω (Option String) :=
  match m.lookup with
  | .system => Lookup.reverse h address.bytes address.family
  | .external => do Act.ofExcept (← h.call none (.reverse address))

end Manager
end TcpSessions
