import TcpSessions.Json.Value
/-!
# Reading JSON

`Json.decode?` reads one value that fills the whole text up to blanks. A number without fraction
and exponent is an integer; any other number keeps its text.
-/
namespace TcpSessions.Json

def isSpace (c : Char) : Bool := c = ' ' || c = '\n' || c = '\r' || c = '\t'

def skipSpace (s : List Char) : List Char := s.dropWhile isSpace

/-- The rest of a text after a given start. -/
def after? : List Char → List Char → Option (List Char)
  | [], s => some s
  | c :: w, d :: s => if c = d then after? w s else none
  | _ :: _, [] => none

def unit? : List Char → Option (Nat × List Char)
  | a :: b :: c :: d :: r => (Text.readHex? [a, b, c, d]).map (·, r)
  | _ => none

def shortEscape? : Char → Option Char
  | '"' => some '"'
  | '\\' => some '\\'
  | '/' => some '/'
  | 'n' => some '\n'
  | 'r' => some '\r'
  | 't' => some '\t'
  | 'b' => some '\x08'
  | 'f' => some '\x0c'
  | _ => none

/-- The character of an escape by code; a leading surrogate takes the trailing one with it. -/
def codeEscape? (s : List Char) : Option (Char × List Char) := do
  let (n, r) ← unit? s
  if 0xd800 ≤ n ∧ n < 0xdc00 then
    let r ← after? ['\\', 'u'] r
    let (m, r) ← unit? r
    if 0xdc00 ≤ m ∧ m < 0xe000 then
      return (Char.ofNat (0x10000 + (n - 0xd800) * 0x400 + (m - 0xdc00)), r)
    else none
  else if 0xdc00 ≤ n ∧ n < 0xe000 then none
  else return (Char.ofNat n, r)

/-- One character of a string, or `none` inside when the closing quote is reached. -/
def stringChar? : List Char → Option (Option Char × List Char)
  | '"' :: r => some (none, r)
  | '\\' :: 'u' :: r => (codeEscape? r).map fun (c, r) => (some c, r)
  | '\\' :: e :: r => (shortEscape? e).map fun c => (some c, r)
  | '\\' :: [] => none
  | c :: r => if c < ' ' then none else some (some c, r)
  | [] => none

/-- The characters of a string after its opening quote, and the rest. -/
def string? : Nat → List Char → Option (List Char × List Char)
  | 0, _ => none
  | bound + 1, s => do
    match ← stringChar? s with
    | (none, r) => return ([], r)
    | (some c, r) =>
      let (cs, r) ← string? bound r
      return (c :: cs, r)

def isNumberChar (c : Char) : Bool :=
  ('0' ≤ c && c ≤ '9') || c = '-' || c = '+' || c = '.' || c = 'e' || c = 'E'

def number? (s : List Char) : Option Json :=
  match s with
  | '-' :: r =>
    match Text.readNat? r with
    | some n => some (integer (-(n : Int)))
    | none => if r.any (fun c => '0' ≤ c && c ≤ '9') then some (real s) else none
  | _ =>
    match Text.readNat? s with
    | some n => some (integer n)
    | none => if s.any (fun c => '0' ≤ c && c ≤ '9') then some (real s) else none

mutual

def value? : Nat → List Char → Option (Json × List Char)
  | 0, _ => none
  | bound + 1, s =>
    match skipSpace s with
    | 'n' :: r => (after? "ull".toList r).map (null, ·)
    | 't' :: r => (after? "rue".toList r).map (bool true, ·)
    | 'f' :: r => (after? "alse".toList r).map (bool false, ·)
    | '"' :: r => (string? (r.length + 1) r).map fun (cs, r) => (text (String.ofList cs), r)
    | '[' :: r =>
      match skipSpace r with
      | ']' :: r => some (array [], r)
      | _ => (items? bound r).map fun (vs, r) => (array vs, r)
    | '\x7b' :: r =>
      match skipSpace r with
      | '\x7d' :: r => some (object [], r)
      | _ => (members? bound r).map fun (ms, r) => (object ms, r)
    | t => (number? (t.takeWhile isNumberChar)).map (·, t.dropWhile isNumberChar)

def items? : Nat → List Char → Option (List Json × List Char)
  | 0, _ => none
  | bound + 1, s => do
    let (v, r) ← value? bound s
    match skipSpace r with
    | ']' :: r => some ([v], r)
    | ',' :: r =>
      let (vs, r) ← items? bound r
      some (v :: vs, r)
    | _ => none

def members? : Nat → List Char → Option (List (String × Json) × List Char)
  | 0, _ => none
  | bound + 1, s => do
    let r ← after? ['"'] (skipSpace s)
    let (k, r) ← string? (r.length + 1) r
    let r ← after? [':'] (skipSpace r)
    let (v, r) ← value? bound r
    match skipSpace r with
    | '\x7d' :: r => some ([(String.ofList k, v)], r)
    | ',' :: r =>
      let (ms, r) ← members? bound r
      some ((String.ofList k, v) :: ms, r)
    | _ => none

end

/-- Reads a text as one value. -/
def decode? (s : List Char) : Option Json := do
  let (v, r) ← value? (s.length + 1) s
  if (skipSpace r).isEmpty then some v else none

end TcpSessions.Json
