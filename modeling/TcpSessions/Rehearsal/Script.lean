import TcpSessions.Work.Environment
/-!
# Scripted surroundings

A `Script` stands in for resolver, system and sockets: it says in advance how every call ends and
which requests run while the call is being answered. `Script.environment` is the environment that
follows it.
-/
namespace TcpSessions

/-- How one call goes: the requests that run the first time it is used, and the failure, if any,
that it ends in every time. -/
structure Cue where
  nested : List Request := []
  /-- Ends the first use before the rest of the nested requests. -/
  firstFailure : Option Failure := none
  failure : Option Failure := none
  used : Bool := false

def Cue.success : Cue := {}

/-- A host of the script: its addresses for a resolver, its entries for a system lookup. -/
structure ScriptedHost where
  cue : Cue := .success
  addresses : List Address.Bytes := []
  infos : List AddressInfo := []

structure ScriptedName where
  cue : Cue := .success
  name : Option String := none

abbrev Queues := List (String × List Cue)

structure ScriptedSocket where
  descriptor : Option Int := none
  create : Cue := .success
  setInline : Cue := .success
  close : List Cue := []
  /-- The socket's own queues for connects, when it has some. -/
  connect : Option Queues := none

structure Script where
  hosts : List (String × ScriptedHost) := []
  names : List (String × ScriptedName) := []
  /-- Behaviour of the sockets still to be created, in order. -/
  coming : List ScriptedSocket := []
  /-- Behaviour of the sockets set aside, by number. -/
  spares : List ScriptedSocket := []
  /-- Behaviour of the sockets made so far, by serial number. -/
  made : List ScriptedSocket := []
  /-- Queues for the connects of sockets without their own. -/
  connect : Queues := []
  nextDescriptor : Int := 10

namespace Script

/-- Takes the next cue queued under a host text; an empty queue means success. -/
def takeCue (host : String) : Queues → Cue × Queues
  | [] => (.success, [])
  | (key, cues) :: rest =>
    if key = host then
      match cues with
      | [] => (.success, (key, []) :: rest)
      | c :: cs => (c, (key, cs) :: rest)
    else
      let (cue, rest) := takeCue host rest
      (cue, (key, cues) :: rest)

def hostOf : SocketAddress → String
  | .inet host _ => host
  | .inet6 host _ _ _ => host

/-- The way a call with a given cue goes when its success is `success`. -/
def follow {ρ : Type} (s : Script) (cue : Cue) (success : Script → ρ × Script) :
    Reaction Script ρ where
  state := s
  nested := if cue.used then [] else cue.nested
  answer := fun s =>
    match if cue.used then cue.failure else cue.firstFailure <|> cue.failure with
    | some f => (.error f, s)
    | none =>
      let (value, s) := success s
      (.ok value, s)

def refuse {ρ : Type} (s : Script) (f : Failure) : Reaction Script ρ where
  state := s
  answer := fun s => (.error f, s)

def succeed {ρ : Type} (s : Script) (value : ρ) : Reaction Script ρ where
  state := s
  answer := fun s => (.ok value, s)

def replace {α : Type} (name : String) (value : α) : List (String × α) → List (String × α)
  | [] => []
  | (key, old) :: rest =>
    if key = name then (key, value) :: rest else (key, old) :: replace name value rest

def useHost (s : Script) (name : String) (host : ScriptedHost) : Script :=
  { s with hosts := replace name { host with cue := { host.cue with used := true } } s.hosts }

def useName (s : Script) (text : String) (name : ScriptedName) : Script :=
  { s with names := replace text { name with cue := { name.cue with used := true } } s.names }

/-- Makes a socket: it gets the descriptor it asks for, else the next one. -/
def make (socket : ScriptedSocket) (s : Script) : Int × Script :=
  match socket.descriptor with
  | some d => (d, { s with made := s.made ++ [socket] })
  | none =>
    (s.nextDescriptor,
      { s with made := s.made ++ [socket], nextDescriptor := s.nextDescriptor + 1 })

def socketOf (s : Script) (socket : Socket) : ScriptedSocket :=
  s.made[socket.serial]?.getD {}

def setSocket (s : Script) (socket : Socket) (behaviour : ScriptedSocket) : Script :=
  { s with made := s.made.set socket.serial behaviour }

def meetConnect (s : Script) (socket : Socket) (address : SocketAddress) :
    Reaction Script Unit :=
  let behaviour := s.socketOf socket
  match behaviour.connect with
  | some queues =>
    let (cue, queues) := takeCue (hostOf address) queues
    (s.setSocket socket { behaviour with connect := some queues }).follow cue fun s => ((), s)
  | none =>
    let (cue, queues) := takeCue (hostOf address) s.connect
    { s with connect := queues }.follow cue fun s => ((), s)

def meetClose (s : Script) (socket : Socket) : Reaction Script Unit :=
  let behaviour := s.socketOf socket
  match behaviour.close with
  | [] => s.succeed ()
  | cue :: rest =>
    (s.setSocket socket { behaviour with close := rest }).follow cue fun s => ((), s)

def meetInline (s : Script) (socket : Socket) : Reaction Script Unit :=
  let behaviour := s.socketOf socket
  let cue := behaviour.setInline
  (s.setSocket socket { behaviour with setInline := { cue with used := true } }).follow cue
    fun s => ((), s)

def meetCreate (s : Script) : Reaction Script Int :=
  match s.coming with
  | [] => s.follow .success (make {})
  | socket :: rest => { s with coming := rest }.follow socket.create (make socket)

def meet : (c : Call) → Script → Reaction Script c.Reply
  | .resolve host _, s =>
    match s.hosts.lookup host with
    | none => s.refuse (.of (.resolution host (some "unknown host")))
    | some h => (s.useHost host h).follow h.cue fun s => (h.addresses, s)
  | .reverse address, s =>
    match s.names.lookup address.text with
    | none => s.succeed none
    | some n => (s.useName address.text n).follow n.cue fun s => (n.name, s)
  | .addressInfo host _, s =>
    match s.hosts.lookup host with
    | none => s.refuse (.of (.system .nameLookup (.coded (-2) "Name or service not known")))
    | some h => (s.useHost host h).follow h.cue fun s => (h.infos, s)
  | .hostByAddress text, s =>
    match s.names.lookup text with
    | none => s.refuse (.of (.system .addressLookup (.coded 1 "Unknown host")))
    | some n => (s.useName text n).follow n.cue fun s => (n.name, s)
  | .createSocket _, s => s.meetCreate
  | .spareSocket number, s => s.follow .success (make (s.spares[number]?.getD {}))
  | .setInline socket, s => s.meetInline socket
  | .connect socket address, s => s.meetConnect socket address
  | .close socket, s => s.meetClose socket

def environment : Environment Script := ⟨meet⟩

def total (ns : List Nat) : Nat := ns.foldr (· + ·) 0

def queued (queues : Queues) : Nat := total (queues.map fun q => q.2.length)

def cuesOf (socket : ScriptedSocket) : Nat :=
  2 + socket.close.length + (socket.connect.map queued).getD 0

/-- A bound on nested work that no run of the script reaches: each level of nesting and each
interrupted connect uses up a cue. -/
def bound (s : Script) : Nat :=
  2 + s.hosts.length + s.names.length + total (s.coming.map cuesOf) + total (s.spares.map cuesOf)
    + queued s.connect

end Script
end TcpSessions
