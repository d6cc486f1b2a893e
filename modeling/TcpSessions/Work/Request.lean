import TcpSessions.Failure
import TcpSessions.Listing
/-!
# Requests and answers

What a client of the library may ask. `Operation` holds the operations of the connection manager;
`Request` adds the table, the session primitives, the cancellation tokens and the name lookups
under them. A session is named by its place in the order of creation, counting from one.

| here | `application.connection_manager` |
| --- | --- |
| `Operation` | the methods of `ConnectionManager` |
| `TableRequest` | those of `SessionTablePort` in `application.ports.session_table` |
| `SessionRequest`, `TokenRequest` | those of `Session` and `CancellationToken` |
-/
namespace TcpSessions

/-- Names a cancellation token. -/
abbrev TokenId := Nat

/-- What to connect to; a missing port or family means the configured one. -/
structure OpenRequest where
  host : String
  port : Option Int := none
  family : Option Int := none
  flags : SessionFlags := .none
  token : Option TokenId := none
  deriving DecidableEq, Repr

inductive Operation
  | openSession (request : OpenRequest)
  | close (session : Int)
  | remove (session : Int)
  | closeByHandle (handle : Int) (force : Bool)
  | listAll
  | teardownAll
  deriving DecidableEq, Repr

inductive TableRequest
  | create (flags : SessionFlags)
  | find (handle : Int)
  | remove (session : Int)
  | removeStranger (id : Int)
  | removeEach
  | size
  /-- Whether the manager works on this table. -/
  | isManagers
  deriving DecidableEq, Repr

inductive SessionRequest
  | status
  /-- Attaches the socket that was set aside under a number. -/
  | attachSpare (number : Nat)
  | target (peer : PeerFields)
  | markConnected (peer : PeerFields)
  | markClosed
  | openedLine (host : String) (port : Int)
  deriving DecidableEq, Repr

inductive TokenRequest
  | cancel | reset | isCancelled | interrupt
  deriving DecidableEq, Repr

/-- A request to the name lookup of the system; the family is a number still to be checked. -/
inductive LookupRequest
  | resolve (name : String) (family : Int)
  | reverse (address : Address.Bytes) (family : Int)
  | literal (name : String) (family : Int)
  deriving DecidableEq, Repr

/-- Anything a client may ask. -/
inductive Request
  | operation (op : Operation)
  | shutdown
  | table (t : TableRequest)
  | session (session : Int) (s : SessionRequest)
  | token (token : TokenId) (t : TokenRequest)
  | lookup (l : LookupRequest)

inductive Answer
  | done
  | flag (b : Bool)
  | flags (bs : List Bool)
  | count (n : Nat)
  | session (id : Int)
  | found (id : Option Int)
  | rows (rows : List Listing)
  | status (isOpen isProtected : Bool)
  | line (text : String)
  | addresses (found : List Address.Bytes)
  | literal (address : Option Address.Bytes)
  | name (name : Option String)
  deriving DecidableEq, Repr

end TcpSessions
