import TcpSessions.Text.Numeral
import TcpSessions.Text.Fields
/-!
# Dotted-quad addresses

Four bytes, written as four decimal numbers between dots. Reading is strict: exactly four
fields, no sign, no leading zero, nothing above 255.
-/
namespace TcpSessions.Address

/-- Raw bytes, most significant first. -/
abbrev Bytes := List UInt8

def quadText (bytes : Bytes) : List Char :=
  Text.join '.' (bytes.map fun b => Text.digits b.toNat)

/-- One field of a dotted quad: decimal digits without a leading zero, at most 255. -/
def readOctet? (s : List Char) : Option UInt8 :=
  match Text.readNat? s with
  | some n =>
    if 255 < n then none
    else if s.head? = some '0' ∧ s.length ≠ 1 then none
    else some (UInt8.ofNat n)
  | none => none

def readQuad? (s : List Char) : Option Bytes :=
  let parts := Text.fields '.' s
  if parts.length = 4 then parts.mapM readOctet? else none

end TcpSessions.Address
