import TcpSessions.Address.Packed
/-!
# Remote endpoints

A `Peer` is an address with a port and, for `inet6`, flow information and a scope. Building one
checks the family first, then the length of the address, then the port.

| here | `domain.session` |
| --- | --- |
| `Peer.ofFields` | `PeerEndpoint.__post_init__` |
| `Peer.host`, `Peer.wirePort` | `PeerEndpoint.host`, `.wire_port` |
| `Peer.socketAddress` | `.sockaddr` |
-/
namespace TcpSessions

/-- The remote endpoint of a session; the port is in host byte order. -/
structure Peer where
  address : Address
  port : UInt16
  flowinfo : Int := 0
  scopeId : Int := 0
  deriving DecidableEq, Repr

/-- The parts of an endpoint as a caller gives them, before any check. -/
structure PeerFields where
  family : FamilyCode
  address : Address.Bytes
  port : Int
  flowinfo : Int := 0
  scopeId : Int := 0
  deriving DecidableEq, Repr

inductive PeerError
  | unsupportedFamily (family : FamilyCode)
  | addressLength (expected given : Nat)
  | portTooWide
  deriving DecidableEq, Repr

def PeerError.message : PeerError → String
  | unsupportedFamily f => "unsupported address family: " ++ f.shown
  | addressLength e g =>
    "address length mismatch: expected " ++ Text.natText e ++ " bytes, got " ++ Text.natText g
  | portTooWide => "port must fit in 16 bits"

namespace Peer

/-- The address of an endpoint, or what is wrong with its family or length. -/
def checkAddress (code : FamilyCode) (bytes : Address.Bytes) : Except PeerError Address :=
  match code.family? with
  | none => .error (.unsupportedFamily code)
  | some family =>
    match family.addressLength? with
    | none => .error (.unsupportedFamily code)
    | some expected =>
      match Address.ofBytes? family bytes with
      | none => .error (.addressLength expected bytes.length)
      | some address => .ok address

def ofFields (p : PeerFields) : Except PeerError Peer :=
  match checkAddress p.family p.address with
  | .error e => .error e
  | .ok address =>
    if 0 ≤ p.port ∧ p.port ≤ 0xffff then
      .ok ⟨address, UInt16.ofNat p.port.toNat, p.flowinfo, p.scopeId⟩
    else .error .portTooWide

def host (p : Peer) : String := p.address.text

/-- The port with its two bytes swapped, as it travels in a socket address. -/
def wirePort (p : Peer) : Nat := p.port.toNat % 256 * 256 + p.port.toNat / 256

end Peer

/-- The address that a connect call is given. -/
inductive SocketAddress
  | inet (host : String) (port : Nat)
  | inet6 (host : String) (port : Nat) (flowinfo scopeId : Int)
  deriving DecidableEq, Repr

/-- The socket address of an endpoint; flow information and scope exist only for `inet6`. -/
def Peer.socketAddress (p : Peer) : SocketAddress :=
  match p.address with
  | .inet .. => .inet p.host p.port.toNat
  | .inet6 .. => .inet6 p.host p.port.toNat p.flowinfo p.scopeId

end TcpSessions
