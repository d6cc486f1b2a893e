import TcpSessions.Decimal.Binary64
import TcpSessions.Json.Value
import TcpSessions.Settings.Basic
import TcpSessions.Text.Directive
/-!
# Reading raw values

How raw values are read by the library in use (`Library.standard`). A raw value is a JSON value;
what comes from an environment is always a text.
-/
namespace TcpSessions.Settings

/-- White space around a number in a text: all white space but the four separators of
information. -/
def isMargin (c : Char) : Bool := Text.isBlank c && !(0x1c ≤ c.toNat && c.toNat ≤ 0x1f)

def withoutMargins (s : List Char) : List Char :=
  ((s.dropWhile isMargin).reverse.dropWhile isMargin).reverse

inductive IntegerReading
  | value (n : Int)
  /-- Too many digits to be read at all. -/
  | tooLong
  | malformed
  deriving DecidableEq, Repr

/-- The longest run of digits, with the hyphen before it, that is read. -/
def longestInteger : Nat := 4300

def isLeadingDigit (c : Char) : Bool := '1' ≤ c && c ≤ '9'

/-- An integer in its plain form: digits that do not start with a zero, or zero alone, and a hyphen
before them if it is negative. Nothing may follow, but too many digits are noticed first. -/
def readStrict (s : List Char) : IntegerReading :=
  let sign := s.take 1 |>.filter (· = '-')
  let body := s.drop sign.length
  let run := body.takeWhile Text.isDecimal
  if run = ['0'] ∧ body.length = 1 then .value 0
  else if ¬ run.head?.any isLeadingDigit then .malformed
  else if longestInteger < sign.length + run.length then .tooLong
  else if run.length < body.length then .malformed
  else
    match Text.readNat? run with
    | some n => .value (if sign.isEmpty then n else -n)
    | none => .malformed

/-- What remains of a number behind its leading zeros and the underscores among them. The last of
them stays if the number ends there or goes on with a point; `last` is the one read before. -/
def afterZeros? (last : Char) : List Char → Option (List Char)
  | [] => some [last]
  | c :: r =>
    if c = '0' ∨ c = '_' then afterZeros? c r
    else if isLeadingDigit c ∨ c = '-' then some (c :: r)
    else if c = '.' then some (last :: c :: r)
    else none

/-- A number without its leading zeros; nothing but a digit may start it. -/
def withoutZeros? : List Char → Option (List Char)
  | [] => none
  | c :: r =>
    if c = '0' then afterZeros? c r
    else if isLeadingDigit c then some (c :: r)
    else none

def withoutFraction (s : List Char) : List Char :=
  let fraction := (s.dropWhile (· ≠ '.')).drop 1
  if fraction ≠ [] ∧ fraction.all (· = '0') then s.takeWhile (· ≠ '.') else s

def hasDoubleUnderscore : List Char → Bool
  | '_' :: '_' :: _ => true
  | _ :: r => hasDoubleUnderscore r
  | [] => false

/-- A number without its underscores, if none stands at an end or beside another. -/
def withoutUnderscores (s : List Char) : List Char :=
  if s.head? = some '_' ∨ s.getLast? = some '_' ∨ hasDoubleUnderscore s then s
  else s.filter (· ≠ '_')

/-- The plain form of a number that is written more freely: with white space around it, a plus
sign, leading zeros, a fraction of zeros, underscores. -/
def plainForm? (s : List Char) : Option (List Char) :=
  let number? := match withoutMargins s with
    | '+' :: '-' :: _ => none
    | '+' :: r => withoutZeros? r
    | '-' :: r => (withoutZeros? r).map ('-' :: ·)
    | r => withoutZeros? r
  number?.map fun r => withoutUnderscores (withoutFraction r)

/-- The integer that a text stands for: read as it stands, or else in its plain form. -/
def readIntegerText (s : List Char) : Except Defect Int :=
  match readStrict s with
  | .value n => .ok n
  | .tooLong => .error .intParsingSize
  | .malformed =>
    match (plainForm? s).map readStrict with
    | some (.value n) => .ok n
    | _ => .error .intParsing

def fitsWord (n : Int) : Bool := -0x8000000000000000 ≤ n && n < 0x8000000000000000

def readWhole (x : Binary64) : Except Defect Int :=
  match x.floor? with
  | some (n, true) =>
    if -0x8000000000000000 < n ∧ n < 0x8000000000000000 then .ok n else .error .intParsingSize
  | some (_, false) => .error .intFromFloat
  | none => .error .notFinite

def readInteger : Json → Except Defect Int
  | .integer n => .ok n
  | .bool b => .ok (if b then 1 else 0)
  | .text s => readIntegerText s.toList
  | .real t =>
    match Binary64.ofText? (String.ofList t) with
    | some x => readWhole x
    | none => .error .intType
  | _ => .error .intType

def trueWords : List String := ["1", "true", "t", "yes", "y", "on"]

def falseWords : List String := ["0", "false", "f", "no", "n", "off"]

def readBit (n : Int) : Except Defect Bool :=
  if n = 0 then .ok false else if n = 1 then .ok true else .error .boolParsing

def readBool : Json → Except Defect Bool
  | .bool b => .ok b
  | .integer n => if fitsWord n then readBit n else .error .boolType
  | .text s =>
    let word := String.ofList (s.toList.map Text.lowerAscii)
    if word ∈ trueWords then .ok true
    else if word ∈ falseWords then .ok false
    else .error .boolParsing
  | .real t =>
    match (Binary64.ofText? (String.ofList t)).map readWhole with
    | some (.ok n) => readBit n
    | _ => .error .boolType
  | _ => .error .boolType

def readListed (texts : List String) : Json → Except Defect String
  | .text s => if s ∈ texts then .ok s else .error .notAChoice
  | _ => .error .notAChoice

def readText : Json → Except Defect String
  | .text s => .ok s
  | _ => .error .stringType

end TcpSessions.Settings
