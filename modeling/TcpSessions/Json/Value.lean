import TcpSessions.Text.Numeral
import TcpSessions.Text.Fields
/-!
# JSON values and their text

`Json.encode` writes a value without any blank; every character outside printable ASCII is written
as an escape, so that the text is one line of printable ASCII.
-/
namespace TcpSessions

/-- A JSON value. Members of an object keep their order; a number with a fraction or an exponent
keeps its text. -/
inductive Json
  | null
  | bool (b : Bool)
  | integer (n : Int)
  | real (text : List Char)
  | text (s : String)
  | array (items : List Json)
  | object (members : List (String × Json))

namespace Json

instance : Inhabited Json := ⟨null⟩

def escapeUnit (n : Nat) : List Char :=
  '\\' :: 'u' :: Text.padLeft 4 '0' (Text.hexDigits n)

/-- One character of a string. A character beyond sixteen bits becomes a surrogate pair. -/
def escapeChar (c : Char) : List Char :=
  if c = '"' then ['\\', '"']
  else if c = '\\' then ['\\', '\\']
  else if c = '\n' then ['\\', 'n']
  else if c = '\r' then ['\\', 'r']
  else if c = '\t' then ['\\', 't']
  else if c = '\x08' then ['\\', 'b']
  else if c = '\x0c' then ['\\', 'f']
  else if ' ' ≤ c ∧ c ≤ '~' then [c]
  else if c.toNat ≤ 0xffff then escapeUnit c.toNat
  else
    let n := c.toNat - 0x10000
    escapeUnit (0xd800 + n / 0x400) ++ escapeUnit (0xdc00 + n % 0x400)

def encodeText (s : List Char) : List Char := '"' :: s.flatMap escapeChar ++ ['"']

mutual

def encode : Json → List Char
  | null => "null".toList
  | bool true => "true".toList
  | bool false => "false".toList
  | integer n => Text.intDigits n
  | real t => t
  | text s => encodeText s.toList
  | array items => '[' :: Text.join ',' (encodeItems items) ++ [']']
  | object members => '\x7b' :: Text.join ',' (encodeMembers members) ++ ['\x7d']

def encodeItems : List Json → List (List Char)
  | [] => []
  | v :: vs => encode v :: encodeItems vs

def encodeMembers : List (String × Json) → List (List Char)
  | [] => []
  | (k, v) :: ms => (encodeText k.toList ++ ':' :: encode v) :: encodeMembers ms

end

mutual

/-- Whether every integer of a value is short enough to be written. -/
def isWritable : Json → Bool
  | integer n => Text.isWritable n
  | array items => itemsWritable items
  | object members => membersWritable members
  | null | bool _ | real _ | text _ => true

def itemsWritable : List Json → Bool
  | [] => true
  | v :: vs => isWritable v && itemsWritable vs

def membersWritable : List (String × Json) → Bool
  | [] => true
  | (_, v) :: ms => isWritable v && membersWritable ms

end

/-- The text of a value that can be written. -/
def write (v : Json) : Except TextError String :=
  if v.isWritable then .ok (String.ofList v.encode) else .error .integerTooLong

/-- The member of an object with a given name; of several the last one. -/
def member? (name : String) : Json → Option Json
  | object members => members.reverse.lookup name
  | _ => none

end Json
end TcpSessions
