import TcpSessions.Log.Datum
import TcpSessions.Text.Quoted
/-!
# The text of data

A datum has two texts: the one that shows what it is (`Datum.shown`), with quotes around texts and
names around members, and the one that stands for it in running text (`Datum.plain`). They differ
only for texts, states, flags and families.
-/
namespace TcpSessions

open Text (quotedText quotedBytes quotedBuffer intText natText)

/-- How flags are shown: the bits without a name follow the managed one as a number. -/
def SessionFlags.shown (f : SessionFlags) : String :=
  let rest := f.bits - f.bits % 2
  let symbol :=
    if f.bits = 0 then ".NONE"
    else if ¬ f.isManaged then ""
    else if rest = 0 then ".MANAGED"
    else ".MANAGED|" ++ natText rest
  "<SessionFlags" ++ symbol ++ ": " ++ natText f.bits ++ ">"

def SessionState.symbol : SessionState → String
  | created => "SessionState.CREATED"
  | socketAllocated => "SessionState.SOCKET_ALLOCATED"
  | connected => "SessionState.CONNECTED"
  | closed => "SessionState.CLOSED"

def SessionState.shown (s : SessionState) : String :=
  "<" ++ s.symbol ++ ": " ++ quotedText s.name ++ ">"

def Peer.shown (p : Peer) : String :=
  "PeerEndpoint(family=" ++ p.address.family.shown
    ++ ", address=" ++ String.ofList (quotedBytes p.address.bytes)
    ++ ", port=" ++ natText p.port.toNat
    ++ ", flowinfo=" ++ intText p.flowinfo
    ++ ", scope_id=" ++ intText p.scopeId ++ ")"

namespace Datum

def shownAbsent : String := "None"

def shownBool (b : Bool) : String := if b then "True" else "False"

end Datum

def Listing.shown (l : Listing) : String :=
  "ConnectionListing(peer_name=" ++ l.peerName.elim Datum.shownAbsent quotedText
    ++ ", peer_port=" ++ intText l.peerPort
    ++ ", handle=" ++ intText l.handle
    ++ ", protected=" ++ Datum.shownBool l.isProtected
    ++ ", peer_address=" ++ l.peerAddress.elim Datum.shownAbsent quotedText ++ ")"

/-- How a session is shown; of its socket only the descriptor. -/
def Session.shown (s : Session) : String :=
  "Session(session_id=" ++ intText s.id
    ++ ", flags=" ++ s.flags.shown
    ++ ", handle=" ++ intText s.fd
    ++ ", peer=" ++ s.peer.elim Datum.shownAbsent Peer.shown
    ++ ", state=" ++ s.state.shown
    ++ ", sock=" ++ s.socket.elim Datum.shownAbsent (fun k => intText k.descriptor) ++ ")"

namespace Datum

/-- Texts between brackets, with a comma and a blank between neighbours. -/
def bracketed (opening closing : Char) (parts : List (List Char)) : List Char :=
  opening :: [',', ' '].intercalate parts ++ [closing]

/-- The texts of a tuple's items between brackets; a single one is followed by a comma. -/
def bracketedTuple : List (List Char) → List Char
  | [p] => '(' :: p ++ [',', ')']
  | parts => bracketed '(' ')' parts

mutual

/-- How a datum is shown. -/
def shown : Datum → List Char
  | absent => shownAbsent.toList
  | bool b => (shownBool b).toList
  | number x => x.text
  | text s => Text.quoted s.toList
  | flags f => f.shown.toList
  | state s => s.shown.toList
  | family f => f.shown.toList
  | bytes b => quotedBytes b
  | buffer b => "bytearray(".toList ++ quotedBuffer b ++ [')']
  | list items => bracketed '[' ']' (shownItems items)
  | tuple items => bracketedTuple (shownItems items)
  | set [] => "set()".toList
  | set (i :: is) => bracketed '\x7b' '\x7d' (shownItems (i :: is))
  | dict entries => bracketed '\x7b' '\x7d' (shownEntries entries)
  | peer p => p.shown.toList
  | listing l => l.shown.toList
  | session s => s.shown.toList
  | unknown s _ _ => s.toList

def shownItems : List Datum → List (List Char)
  | [] => []
  | d :: ds => shown d :: shownItems ds

def shownEntries : List (Datum × Datum) → List (List Char)
  | [] => []
  | (k, v) :: es => (shown k ++ ':' :: ' ' :: shown v) :: shownEntries es

end

/-- The text that stands for a datum. -/
def plain : Datum → List Char
  | text s => s.toList
  | flags f => Text.digits f.bits
  | state s => s.symbol.toList
  | family f => Text.digits f.number
  | unknown _ s _ => s.toList
  | d => shown d

end Datum

/-! ## Data with a text -/

def Peer.isWritable (p : Peer) : Bool :=
  Text.isWritable p.port.toNat && Text.isWritable p.flowinfo && Text.isWritable p.scopeId

def Listing.isWritable (l : Listing) : Bool :=
  Text.isWritable l.peerPort && Text.isWritable l.handle

/-- Whether every integer of a session is short enough to be written; what its socket shows is the
socket's own text. -/
def Session.isWritable (s : Session) : Bool :=
  Text.isWritable s.id && Text.isWritable s.flags.bits && Text.isWritable s.fd
    && s.peer.all Peer.isWritable

namespace Datum

mutual

/-- Whether a datum has a text: every integer in it, also among its keys, is short enough. -/
def isWritable : Datum → Bool
  | number (.whole n) => Text.isWritable n
  | flags f => Text.isWritable f.bits
  | family f => Text.isWritable f.number
  | list items | tuple items | set items => itemsWritable items
  | dict entries => entriesWritable entries
  | peer p => p.isWritable
  | listing l => l.isWritable
  | session s => s.isWritable
  | absent | bool _ | number (.real _) | text _ | state _ | bytes _ | buffer _ | unknown .. => true

def itemsWritable : List Datum → Bool
  | [] => true
  | d :: ds => isWritable d && itemsWritable ds

def entriesWritable : List (Datum × Datum) → Bool
  | [] => true
  | (k, v) :: es => isWritable k && isWritable v && entriesWritable es

end

def shownText (d : Datum) : Except TextError (List Char) :=
  if d.isWritable then .ok d.shown else .error .integerTooLong

/-- The text that stands for a datum in running text, if there is one. -/
def plainText (d : Datum) : Except TextError (List Char) :=
  if d.isWritable then .ok d.plain else .error .integerTooLong

end Datum
end TcpSessions
