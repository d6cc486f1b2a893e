import TcpSessions.Manager.Basic
/-!
# Opening a session

A host is resolved, a session is registered with a new socket, and the candidates are tried in
order until one connects. A cancelled token ends the attempt before the next call is started. When
no candidate connects, the session stays registered with its unconnected socket.

| here | `application.connection_manager` |
| --- | --- |
| `openSession`, by `candidatesOf`, `register` and `tryCandidates` | `ConnectionManager.open` |
| `connectSession`, by `connectSocket` | `._connect` |
| `failCancelled` | `._cancelled` |
| `enableInline` | `._enable_oob_inline` |
-/
namespace TcpSessions.Manager

variable {ω : Type}

def checkPort (port : Int) : Except Failure Int :=
  if 0 < port ∧ port ≤ 0xffff then .ok port else .error (.of (.portOutOfRange port))

def checkFamily (m : Manager) : Option Int → Except Failure Family
  | none => .ok m.defaultFamily
  | some n => (Family.ofNumber? n).elim (.error (.of (.unknownFamily n))) .ok

/-- Asks the session's socket to deliver urgent data inline; a refusal is only noticed. -/
def enableInline (m : Manager) (h : Host ω) (token : Option TokenId) (ref : SessionRef) :
    Act ω Unit := do
  match (← Act.session ref).socket with
  | none => return ()
  | some socket =>
    if m.oobInline then
      match ← h.call token (.setInline socket) with
      | .ok () => return ()
      | .error f =>
        if f.isSystem then
          Act.notice (.optionRefused (← Act.session ref).fd f.reason.errno?)
        else Act.fail f

/-- Connects a socket, again after every interruption while the token is not set. -/
def connectSocket (h : Host ω) (token : Option TokenId) (socket : Socket) (peer : Peer) :
    Nat → Act ω (Except Failure Unit)
  | 0 => Act.stall
  | patience + 1 => do
    match ← h.call token (.connect socket peer.socketAddress) with
    | .ok () => return .ok ()
    | .error f =>
      if f.isInterrupted then
        if ← Act.isCancelled token then return .error f
        else connectSocket h token socket peer patience
      else return .error f

def connectSession (h : Host ω) (token : Option TokenId) (ref : SessionRef) (peer : Peer) :
    Act ω (Except Failure Unit) := do
  match (← Act.session ref).socket with
  | none => Act.fail (.of .notOpen)
  | some socket => connectSocket h token socket peer h.patience

def failCancelled {α : Type} (ref : SessionRef) (host : String) (peer : Peer) (errno : Int)
    (cause : Option Failure) : Act ω α := do
  let s ← Act.session ref
  Act.notice (.connectCancelled host peer.host s.fd)
  Act.fail (.backed (.connection s.id · true) (some errno) cause)

/-- What an attempt to open a session works on. -/
structure Attempt where
  ref : SessionRef
  host : String
  port : Int
  family : Family
  token : Option TokenId
  /-- How many candidates the host has. -/
  candidates : Nat

def failConnection {α : Type} (a : Attempt) (last : Option Failure) : Act ω α := do
  Act.notice (.connectionFailed a.host a.port a.candidates)
  let s ← Act.session a.ref
  Act.fail (.backed (.connection s.id · false) (last.map (·.errnoOr)) last)

/-- Tries candidates in order until one connects; `last` is the latest refusal. -/
def tryCandidates (h : Host ω) (a : Attempt) (last : Option Failure) :
    List Address.Bytes → Act ω SessionRef
  | [] => failConnection a last
  | bytes :: rest => do
    let fields : PeerFields := { family := .known a.family, address := bytes, port := a.port }
    match Peer.ofFields fields with
    | .error e => Act.fail (.of (.peer e))
    | .ok peer =>
      if ← Act.isCancelled a.token then
        failCancelled a.ref a.host peer Errno.interrupted none
      else
        Act.changeSession a.ref fun s => .ok (s.target peer)
        match ← connectSession h a.token a.ref peer with
        | .ok () =>
          Act.changeSession a.ref fun s => s.markConnected peer
          Act.notice (.connected a.host peer.host a.port (← Act.session a.ref).fd)
          return a.ref
        | .error f =>
          if f.isInterrupted then failCancelled a.ref a.host peer f.errnoOr (some f)
          else if f.isSystem then
            Act.notice (.attemptFailed peer.host a.port f.reason.errno?)
            tryCandidates h a (some f) rest
          else Act.fail f

/-- The candidates of a host, unless resolution is interrupted or the token is set after it. -/
def candidatesOf (m : Manager) (h : Host ω) (token : Option TokenId) (host : String)
    (family : Family) : Act ω (List Address.Bytes) := do
  match ← Act.attempt (m.resolve h token host family) with
  | .error f =>
    if f.isInterrupted then
      Act.fail ((Failure.of (.resolution host (some "interrupted"))).causedBy f)
    else Act.fail f
  | .ok candidates =>
    if ← Act.isCancelled token then
      Act.fail (.of (.resolution host (some "interrupted")))
    else return candidates

/-- Registers a session with a new socket; a refused socket leaves no session tracked. -/
def register (h : Host ω) (token : Option TokenId) (family : Family) (flags : SessionFlags) :
    Act ω SessionRef := do
  let ref ← Act.onRegistry fun r => r.create flags
  match ← Host.socketFrom (← h.call token (.createSocket family)) with
  | .error f =>
    if f.isSystem then
      let _ ← Act.onRegistry fun r => r.remove ref
      Act.fail (.backed .socketCreation (some f.errnoOr) (some f))
    else Act.fail f
  | .ok socket =>
    Act.changeSession ref fun s => s.attach socket
    return ref

def openSession (m : Manager) (h : Host ω) (r : OpenRequest) : Act ω SessionRef := do
  let port ← Act.ofExcept (checkPort (r.port.getD m.defaultPort))
  let family ← Act.ofExcept (m.checkFamily r.family)
  let candidates ← m.candidatesOf h r.token r.host family
  let ref ← register h r.token family r.flags
  m.enableInline h r.token ref
  tryCandidates h ⟨ref, r.host, port, family, r.token, candidates.length⟩ none candidates

end TcpSessions.Manager
