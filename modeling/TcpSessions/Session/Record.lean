import TcpSessions.Peer
/-!
# Session records

One tracked client socket: usage flags fixed at creation, a lifecycle state, the handle and the
socket while there are any, and the endpoint it was last directed at. The four state-changing
primitives are `attach`, `target`, `markConnected` and `markClosed`.

| here | `domain.session` |
| --- | --- |
| `SessionFlags`, `SessionState`, `Session` | the classes of these names |
| `Session.isOpen`, `.isProtected` | `Session.is_open`, `.protected` |
| `Session.attach`, `.target` | `Session.attach_socket`, `.target` |
| `Session.markConnected`, `.markClosed` | `Session.mark_connected`, `.mark_closed` |
-/
namespace TcpSessions

/-- The port a session connects to when nothing else is said. -/
def telnetPort : Nat := 23

/-- A descriptor number that is in use; minus one means that there is none. -/
structure Handle where
  number : Int
  isSet : number ≠ -1
  deriving DecidableEq, Repr

def Handle.ofInt? (n : Int) : Option Handle :=
  if h : n ≠ -1 then some ⟨n, h⟩ else none

/-- The number of an optional handle, minus one when there is none. -/
def Handle.toInt : Option Handle → Int
  | some h => h.number
  | none => -1

/-- A socket object: which one of all that were ever made, and the descriptor it reports. -/
structure Socket where
  serial : Nat
  descriptor : Int
  deriving DecidableEq, Repr

/-- Usage flags of a session, as a bit set. -/
structure SessionFlags where
  bits : Nat
  deriving DecidableEq, Repr

namespace SessionFlags

def none : SessionFlags := ⟨0⟩

/-- Owned by a higher-level protocol: closing by handle requires force. -/
def managed : SessionFlags := ⟨1⟩

/-- The flag set with a given number. A negative number counts down from the smallest power of
two above its magnitude; minus one and minus two count down from two. -/
def ofInt (n : Int) : SessionFlags :=
  if 0 ≤ n then ⟨n.toNat⟩
  else if -2 ≤ n then ⟨(2 + n).toNat⟩
  else ⟨((Nat.pow 2 (Nat.log2 n.natAbs + 1) : Nat) + n).toNat⟩

def isManaged (f : SessionFlags) : Bool := f.bits % 2 = 1

end SessionFlags

/-- Lifecycle states, in the order in which a session passes them. -/
inductive SessionState
  | created | socketAllocated | connected | closed
  deriving DecidableEq, Repr

def SessionState.name : SessionState → String
  | created => "created"
  | socketAllocated => "socket_allocated"
  | connected => "connected"
  | closed => "closed"

/-- One tracked client socket and its endpoint. -/
structure Session where
  id : Int
  flags : SessionFlags := .none
  handle : Option Handle := Option.none
  peer : Option Peer := Option.none
  state : SessionState := .created
  socket : Option Socket := Option.none
  deriving DecidableEq, Repr

inductive LifecycleError
  | alreadyAttached (state : SessionState)
  | notAttached
  deriving DecidableEq, Repr

def LifecycleError.message : LifecycleError → String
  | alreadyAttached s => "cannot attach a socket in state " ++ s.name
  | notAttached => "cannot connect a session without a socket"

namespace Session

def isOpen (s : Session) : Bool := s.handle.isSome

/-- Whether closing the session by handle requires force. -/
def isProtected (s : Session) : Bool := s.flags.isManaged

/-- The number of the session's handle, minus one when it has none. -/
def fd (s : Session) : Int := Handle.toInt s.handle

/-- Binds a new socket to a session that has none yet. -/
def attach (socket : Socket) (s : Session) : Except LifecycleError Session :=
  if s.state = .created then
    .ok { s with
      socket := some socket
      handle := Handle.ofInt? socket.descriptor
      state := .socketAllocated }
  else .error (.alreadyAttached s.state)

def target (peer : Peer) (s : Session) : Session := { s with peer := some peer }

def markConnected (peer : Peer) (s : Session) : Except LifecycleError Session :=
  if s.isOpen then .ok { s with peer := some peer, state := .connected }
  else .error .notAttached

def markClosed (s : Session) : Session :=
  { s with socket := none, handle := none, state := .closed }

end Session
end TcpSessions
