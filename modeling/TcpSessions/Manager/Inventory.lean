import TcpSessions.Manager.Basic
/-!
# Listing sessions

A row for every tracked session that still owns a socket, in table order. The reverse lookup comes
first; the handle of the row is the one that the session has after it.

| here | `application.connection_manager` |
| --- | --- |
| `listAll`, by `listingsOf` | `ConnectionManager.list_all` |
-/
namespace TcpSessions.Manager

variable {ω : Type}

def listingOf (m : Manager) (h : Host ω) (ref : SessionRef) : Act ω Listing := do
  match (← Act.session ref).peer with
  | none =>
    let s ← Act.session ref
    return { peerName := none, peerPort := 0, handle := s.fd, isProtected := s.isProtected }
  | some peer =>
    let name ← m.reverse h peer.address
    let s ← Act.session ref
    return {
      peerName := name
      peerPort := peer.port.toNat
      handle := s.fd
      isProtected := s.isProtected
      peerAddress := some peer.host }

def listingsOf (m : Manager) (h : Host ω) : List SessionRef → Act ω (List Listing)
  | [] => return []
  | ref :: rest => do
    if (← Act.session ref).isOpen then
      let row ← m.listingOf h ref
      return row :: (← m.listingsOf h rest)
    else m.listingsOf h rest

/-- The rows of every tracked session that owns a socket. -/
def listAll (m : Manager) (h : Host ω) : Act ω (List Listing) := do
  m.listingsOf h (← Act.registry).table.refs

end TcpSessions.Manager
