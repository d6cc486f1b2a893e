import TcpSessions.Manager.Opening
import TcpSessions.Manager.Closing
import TcpSessions.Manager.Inventory
/-!
# Carrying out requests

`Request.serve` is one request on a host; `perform` closes the circle, since requests nested in a
call are carried out in the same way. Its bound limits how deep requests nest and how often one
connect is interrupted; a run that reaches it stalls.
-/
namespace TcpSessions

variable {ω : Type}

def Act.nth (n : Int) : Act ω SessionRef := do
  match (← Act.registry).nth? n with
  | some ref => return ref
  | none => Act.fail (.of (.noSuchSession n))

def Act.idOf? : Option SessionRef → Act ω (Option Int)
  | none => return none
  | some ref => return some (← Act.session ref).id

def Operation.serve (h : Host ω) (m : Manager) : Operation → Act ω Answer
  | openSession r => do
    let ref ← m.openSession h r
    return .session (← Act.session ref).id
  | close n => do
    Manager.closeSession h (← Act.nth n)
    return .done
  | remove n => do return .flag (← Manager.removeSession h (← Act.nth n))
  | closeByHandle handle force => do
    Manager.closeByHandle h handle force
    return .done
  | listAll => do return .rows (← m.listAll h)
  | teardownAll => do return .count (← Manager.teardownAll h)

def TableRequest.removeAll : List SessionRef → Act ω (List Bool)
  | [] => return []
  | ref :: rest => do
    let removed ← Manager.untrack ref
    return removed :: (← removeAll rest)

def TableRequest.serve : TableRequest → Act ω Answer
  | create flags => do
    let ref ← Act.onRegistry fun r => r.create flags
    return .session (← Act.session ref).id
  | find handle => do
    return .found (← Act.idOf? ((← Act.registry).findByHandle? handle))
  | remove n => do return .flag (← Manager.untrack (← Act.nth n))
  | removeStranger id => do return .flag (← Act.onRegistry fun r => r.removeStranger id)
  | removeEach => do return .flags (← removeAll (← Act.registry).table.refs)
  | size => do return .count (← Act.registry).table.size
  | isManagers => return .flag true

def Act.peerOf (p : PeerFields) : Act ω Peer :=
  match Peer.ofFields p with
  | .ok peer => return peer
  | .error e => Act.fail (.of (.peer e))

def SessionRequest.serve (h : Host ω) (ref : SessionRef) : SessionRequest → Act ω Answer
  | status => do
    let s ← Act.session ref
    return .status s.isOpen s.isProtected
  | attachSpare number => do
    match ← Host.socketFrom (← h.call none (.spareSocket number)) with
    | .ok socket =>
      Act.changeSession ref fun s => s.attach socket
      return .done
    | .error f => Act.fail f
  | target p => do
    let peer ← Act.peerOf p
    Act.changeSession ref fun s => .ok (s.target peer)
    return .done
  | markConnected p => do
    let peer ← Act.peerOf p
    Act.changeSession ref fun s => s.markConnected peer
    return .done
  | markClosed => do
    Act.changeSession ref fun s => .ok s.markClosed
    return .done
  | openedLine host port => do
    return .line (TcpSessions.openedLine host port (← Act.session ref).fd)

def TokenRequest.serve (t : TokenId) : TokenRequest → Act ω Answer
  | cancel => do
    Act.cancel t
    return .done
  | reset => do
    Act.reset t
    return .done
  | isCancelled => do return .flag (← Act.isCancelled (some t))
  | interrupt => do
    Act.cancel t
    Act.fail .interrupt

def Act.familyOf (n : Int) : Act ω Family :=
  Act.ofExcept ((Family.ofNumber? n).elim (.error (.of (.unknownFamily n))) .ok)

def LookupRequest.serve (h : Host ω) : LookupRequest → Act ω Answer
  | resolve name n => do return .addresses (← Lookup.resolve h none name (← Act.familyOf n))
  | reverse bytes n => do return .name (← Lookup.reverse h bytes (← Act.familyOf n))
  | literal name n => do return .literal (Address.literal? (← Act.familyOf n) name)

def Request.serve (h : Host ω) (m : Manager) : Request → Act ω Answer
  | operation op => op.serve h m
  | shutdown => do return .count (← Manager.shutdown h)
  | table t => t.serve
  | session n s => do s.serve h (← Act.nth n)
  | token t r => r.serve t
  | lookup l => l.serve h

/-- Carries out a request in an environment, with a bound on nested work. -/
def perform (env : Environment ω) (m : Manager) : Nat → Request → Act ω Answer
  | 0, _ => Act.stall
  | bound + 1, q => q.serve ⟨env, perform env m bound, bound + 1⟩ m

end TcpSessions
