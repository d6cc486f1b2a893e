import TcpSessions.Address.Family
import TcpSessions.Address.Inet6
/-!
# Packed addresses and their text

An `Address` is four bytes of the `inet` family or sixteen of `inet6`. `Address.text` writes one,
`Address.literal?` reads a text of a given family.
-/
namespace TcpSessions

/-- A packed address of a family that sessions use. -/
inductive Address
  | inet (bytes : Address.Bytes) (length_eq : bytes.length = 4)
  | inet6 (bytes : Address.Bytes) (length_eq : bytes.length = 16)
  deriving DecidableEq, Repr

namespace Address

def family : Address → Family
  | inet .. => .inet
  | inet6 .. => .inet6

def bytes : Address → Bytes
  | inet b _ => b
  | inet6 b _ => b

/-- The address of a family that some bytes make, when their number fits. -/
def ofBytes? (family : Family) (bytes : Bytes) : Option Address :=
  match family with
  | .inet => if h : bytes.length = 4 then some (inet bytes h) else none
  | .inet6 => if h : bytes.length = 16 then some (inet6 bytes h) else none
  | _ => none

def text : Address → String
  | inet b _ => String.ofList (quadText b)
  | inet6 b _ => String.ofList (colonText b)

/-- Why a text is not an address of a family. -/
inductive TextError
  | embeddedNul
  /-- Addresses of the family have no text form. -/
  | familyNotSupported
  | illegal
  deriving DecidableEq, Repr

/-- The bytes that a text stands for in a family. -/
def ofText (family : Family) (text : String) : Except TextError Bytes :=
  if '\x00' ∈ text.toList then .error .embeddedNul
  else match family with
    | .inet => (readQuad? text.toList).elim (.error .illegal) .ok
    | .inet6 => (readColon? text.toList).elim (.error .illegal) .ok
    | _ => .error .familyNotSupported

/-- The packed form of `name` when it is a literal address of the family. -/
def literal? (family : Family) (name : String) : Option Bytes :=
  (ofText family name).toOption

end Address
end TcpSessions
