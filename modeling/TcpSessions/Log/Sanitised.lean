import TcpSessions.Log.Encoded
import TcpSessions.Log.Shown
/-!
# Sanitised data

`Datum.sanitise` makes data fit to be written as JSON. Byte strings give way to their length,
records to dictionaries of their fields, tuples and sets to lists, unknown objects to their text,
and keys to texts. What lies too deep gives way to a marker, so that the result is bounded however
deep the data is. It fails if there is a key without a text; integers that are values stay as they
are, however long.

| here | `observability.logging` |
| --- | --- |
| `Datum.sanitise` | `_sanitize_for_json` |
-/
namespace TcpSessions

open Datum (integer)

def Datum.ofFields (fields : List (String × Datum)) : Datum :=
  .dict (fields.map fun (k, v) => (.text k, v))

def Datum.ofText? : Option String → Datum
  | some s => .text s
  | none => .absent

def Peer.toDatum (p : Peer) : Datum :=
  .ofFields [("family", .family p.address.family), ("address", .bytes p.address.bytes),
    ("port", integer p.port.toNat), ("flowinfo", integer p.flowinfo),
    ("scope_id", integer p.scopeId)]

def Listing.toDatum (l : Listing) : Datum :=
  .ofFields [("peer_name", .ofText? l.peerName), ("peer_port", integer l.peerPort),
    ("handle", integer l.handle), ("protected", .bool l.isProtected),
    ("peer_address", .ofText? l.peerAddress)]

/-- The fields of a session, with those of its endpoint inside. -/
def Session.toDatum (s : Session) : Datum :=
  .ofFields [("session_id", integer s.id), ("flags", .flags s.flags), ("handle", integer s.fd),
    ("peer", s.peer.elim .absent Peer.toDatum), ("state", .state s.state),
    ("sock", s.socket.elim .absent fun k => .unknown (Text.intText k.descriptor))]

namespace Datum

/-- How deep data is kept unless something else is said. -/
def usualDepth : Nat := 10

/-- What stands for data that lies too deep. -/
def tooDeep : Datum := text "<depth_exceeded>"

def byteCount (n : Nat) : Datum := text ("<bytes len=" ++ Text.natText n ++ ">")

def asText (d : Datum) : Except TextError Datum := d.plainText.map fun s => text (String.ofList s)

/-- Makes data fit for JSON down to a depth. A container takes one level, a record two. -/
def sanitise : Nat → Datum → Except TextError Datum
  | 0, _ => .ok tooDeep
  | depth + 1, d =>
    match d with
    | bytes b | buffer b => .ok (byteCount b.length)
    | peer p => sanitise depth p.toDatum
    | listing l => sanitise depth l.toDatum
    | session s => sanitise depth s.toDatum
    | dict entries => do
      return ofEntries (← entries.mapM fun (k, v) => do return (← asText k, ← sanitise depth v))
    | list items | tuple items | set items => return list (← items.mapM (sanitise depth))
    | unknown .. => asText d
    | absent | bool _ | number _ | text _ | flags _ | state _ | family _ => .ok d

/-- The JSON value of data made fit for it. -/
def jsonCopy (depth : Nat) (d : Datum) : Except TextError Json := do
  return ((← d.sanitise depth).json?).getD .null

end Datum
end TcpSessions
