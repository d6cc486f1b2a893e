import TcpSessions.Decimal.Number
import TcpSessions.Json.Value
import TcpSessions.Listing
import TcpSessions.Session.Record
/-!
# Data of a log record

A `Datum` is whatever calling code may hand to the log: plain values, containers, the records of
this library, and objects of which nothing is known but how they show themselves.

A dictionary keeps the order in which its keys were first put in; putting a key again replaces
its value. Keys of different kinds may be the same key (`Datum.sameKey`): one is also true, and the
managed flag. `Datum.ofEntries` makes dictionaries; entries with a key twice are none, though
`Datum.dict` takes them.

A text is made of Unicode scalar values. Texts with a lone surrogate in them are left out here and
in all that is built on this: log messages, names, and the strings of `Json`.
-/
namespace TcpSessions

/-- A value that may stand in the data of a log record. -/
inductive Datum
  | absent
  | bool (b : Bool)
  | number (x : Number)
  | text (s : String)
  | flags (f : SessionFlags)
  | state (s : SessionState)
  | family (f : Family)
  | bytes (b : List UInt8)
  /-- Bytes that can be changed in place. -/
  | buffer (b : List UInt8)
  | list (items : List Datum)
  | tuple (items : List Datum)
  /-- The items are in the order in which the set shows them. -/
  | set (items : List Datum)
  | dict (entries : List (Datum × Datum))
  | peer (p : Peer)
  | listing (l : Listing)
  | session (s : Session)
  /-- An object of an unknown kind, which may show itself in another way than it stands in running
  text, and may count as empty. -/
  | unknown (shown : String) (plain : String := shown) (isVoid : Bool := false)

namespace Datum

instance : Inhabited Datum := ⟨absent⟩

def integer (n : Int) : Datum := number (.whole n)

/-- The number that a datum is, where truth values, flags and families count as numbers. -/
def number? : Datum → Option Number
  | bool b => some (.whole (if b then 1 else 0))
  | number x => some x
  | flags f => some (.whole f.bits)
  | family f => some (.whole f.number)
  | _ => none

/-- The text that a datum is, where a state counts as its name. -/
def text? : Datum → Option String
  | text s => some s
  | state s => some s.name
  | _ => none

/-- Whether a datum is the empty one of its kind: such data is not logged. -/
def isVoid : Datum → Bool
  | absent => true
  | bool b => !b
  | number x => x.isZero
  | text s => s.isEmpty
  | flags f => f.bits = 0
  | family f => f.number = 0
  | bytes b | buffer b => b.isEmpty
  | list items | tuple items | set items => items.isEmpty
  | dict entries => entries.isEmpty
  | state _ | peer _ | listing _ | session _ => false
  | unknown _ _ isVoid => isVoid

mutual

/-- Whether two data are one and the same key of a dictionary: numbers by their value, texts by
their characters. A session or an unknown object is the same key as no other one. -/
def sameKey (a b : Datum) : Bool :=
  match a.number?, b.number?, a.text?, b.text? with
  | some x, some y, _, _ => x.same y
  | _, _, some s, some t => s = t
  | _, _, _, _ =>
    match a, b with
    | absent, absent => true
    | bytes x, bytes y => x = y
    | tuple xs, tuple ys => sameKeys xs ys
    | peer p, peer q => p = q
    | listing l, listing m => l = m
    | _, _ => false

def sameKeys : List Datum → List Datum → Bool
  | [], [] => true
  | a :: as, b :: bs => sameKey a b && sameKeys as bs
  | _, _ => false

end

/-- The entries of a dictionary after a value is put under a key. -/
def put (key value : Datum) : List (Datum × Datum) → List (Datum × Datum)
  | [] => [(key, value)]
  | (k, v) :: rest => if k.sameKey key then (k, value) :: rest else (k, v) :: put key value rest

/-- The dictionary into which entries are put one after another. -/
def ofEntries (entries : List (Datum × Datum)) : Datum :=
  dict (entries.foldl (fun d (k, v) => put k v d) [])

mutual

def ofJson : Json → Datum
  | .null => absent
  | .bool b => bool b
  | .integer n => integer n
  | .real t => number (.real ((Binary64.ofText? (String.ofList t)).getD .nan))
  | .text s => text s
  | .array items => list (ofJsonItems items)
  | .object members => ofEntries (ofJsonMembers members)

def ofJsonItems : List Json → List Datum
  | [] => []
  | v :: vs => ofJson v :: ofJsonItems vs

def ofJsonMembers : List (String × Json) → List (Datum × Datum)
  | [] => []
  | (k, v) :: ms => (text k, ofJson v) :: ofJsonMembers ms

end

end Datum
end TcpSessions
