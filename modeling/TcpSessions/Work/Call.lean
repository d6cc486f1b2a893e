import TcpSessions.Failure
/-!
# Calls to the outside

Everything the library asks of its surroundings: name lookups, and the calls on sockets.
`Call.Reply` is what a call returns when it succeeds.

| here | `application.ports.resolver`, `application.ports.sockets`, `domain.session` |
| --- | --- |
| `Call.resolve`, `Call.reverse` | `ResolverPort.resolve`, `.reverse_resolve` |
| `Call.createSocket` | `SocketFactory` |
| `Call.setInline`, `Call.connect`, `Call.close` | `SocketLike.setsockopt`, `.connect`, `.close` |
-/
namespace TcpSessions

/-- One result of a name lookup: a family, by number, and the text of an address. -/
structure AddressInfo where
  family : Int
  host : String
  deriving DecidableEq, Repr

inductive Call
  /-- Asks a resolver for the candidate addresses of a host. -/
  | resolve (host : String) (family : Family)
  /-- Asks a resolver for the name of an address. -/
  | reverse (address : Address)
  /-- Asks the system for the addresses of a host. -/
  | addressInfo (host : String) (family : Family)
  /-- Asks the system for the name of an address, given as text. -/
  | hostByAddress (text : String)
  | createSocket (family : Family)
  /-- Asks for a socket that was set aside under a number. -/
  | spareSocket (number : Nat)
  /-- Asks a socket to deliver urgent data inline. -/
  | setInline (socket : Socket)
  | connect (socket : Socket) (address : SocketAddress)
  | close (socket : Socket)
  deriving DecidableEq, Repr

/-- What a call returns; a new socket is known by the descriptor it reports. -/
abbrev Call.Reply : Call → Type
  | resolve .. => List Address.Bytes
  | reverse _ => Option String
  | addressInfo .. => List AddressInfo
  | hostByAddress _ => Option String
  | createSocket _ => Int
  | spareSocket _ => Int
  | setInline _ => Unit
  | connect .. => Unit
  | close _ => Unit

end TcpSessions
