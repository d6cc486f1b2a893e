import TcpSessions.Json.Value
import TcpSessions.Log.Datum
import TcpSessions.Log.KeyOrder
/-!
# Data as JSON

`Datum.json?` is the JSON value of data that has one. The members of an object are sorted by their
keys as they were before they became texts: numbers by value, texts by their characters. Keys of
both kinds in one dictionary do not compare, and then there is no JSON value. A key that is no
number compares but comes neither before nor after any other.
-/
namespace TcpSessions

/-- A key that JSON has a text for. -/
inductive JsonKey
  | number (value : Number) (text : String)
  | text (s : String)
  /-- A key that compares with no other. -/
  | alone (text : String)
  deriving Repr

namespace JsonKey

def name : JsonKey → String
  | number _ s | text s | alone s => s

def le : JsonKey → JsonKey → Bool
  | number x _, number y _ => x.le y
  | text s, text t => decide (s ≤ t)
  | _, _ => false

def before (k l : JsonKey) : Bool := k.le l && !l.le k

/-- Whether a key comes before or after every other of its kind. -/
def isOrdered (k : JsonKey) : Bool := k.le k

def compares : JsonKey → JsonKey → Bool
  | number .., number .. => true
  | text _, text _ => true
  | _, _ => false

end JsonKey

def Binary64.jsonText : Binary64 → List Char
  | nan => "NaN".toList
  | infinite negative => (if negative then "-Infinity" else "Infinity").toList
  | x => x.text

def Number.json : Number → Json
  | whole n => .integer n
  | real x => .real x.jsonText

namespace Datum

/-- The text of a key that is a number: a truth value keeps its name. -/
def numberKeyText : Datum → Number → String
  | bool b, _ => if b then "true" else "false"
  | _, .whole n => Text.intText n
  | _, .real x => String.ofList x.jsonText

/-- A datum as the key of a JSON object. -/
def jsonKey? (d : Datum) : Option JsonKey :=
  match d.number?, d.text?, d with
  | some x, _, _ => some (.number x (numberKeyText d x))
  | _, some s, _ => some (.text s)
  | _, _, absent => some (.alone "null")
  | _, _, _ => none

/-- Whether the keys of a dictionary can be sorted. -/
def sortable : List (JsonKey × Json) → Bool
  | [] | [_] => true
  | (k, _) :: rest => rest.all fun (l, _) => k.compares l

def sortMembers (members : List (JsonKey × Json)) : List (JsonKey × Json) :=
  if members.all fun m => m.1.isOrdered then members.mergeSort fun a b => a.1.le b.1
  else KeyOrder.halvingSort (fun a b => a.1.before b.1) members

/-- The object with some members, sorted by their keys. -/
def sortedObject? (members : List (JsonKey × Json)) : Option Json :=
  if sortable members then
    some (.object ((sortMembers members).map fun (k, v) => (k.name, v)))
  else none

mutual

/-- The JSON value of a datum, when it has one. -/
def json? : Datum → Option Json
  | absent => some .null
  | bool b => some (.bool b)
  | number x => some x.json
  | text s => some (.text s)
  | flags f => some (.integer f.bits)
  | state s => some (.text s.name)
  | family f => some (.integer f.number)
  | list items | tuple items => (jsonItems? items).map .array
  | dict entries => (jsonMembers? entries).bind sortedObject?
  | bytes _ | buffer _ | set _ | peer _ | listing _ | session _ | unknown .. => none

def jsonItems? : List Datum → Option (List Json)
  | [] => some []
  | d :: ds =>
    match json? d, jsonItems? ds with
    | some v, some vs => some (v :: vs)
    | _, _ => none

def jsonMembers? : List (Datum × Datum) → Option (List (JsonKey × Json))
  | [] => some []
  | (k, v) :: es =>
    match jsonKey? k, json? v, jsonMembers? es with
    | some k', some v', some rest => some ((k', v') :: rest)
    | _, _, _ => none

end

end Datum
end TcpSessions
