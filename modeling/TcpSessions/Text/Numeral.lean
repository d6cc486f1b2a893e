/-!
# Numerals

Decimal and hexadecimal text of numbers, as lists of characters. `readNat?` undoes `digits`:
the text of a number reads back as that number.

A program may write integers of at most `Text.digitLimit` decimal digits. `digits` itself has no
limit; whatever makes a text from data asks `Text.isWritable` first.
-/
namespace TcpSessions

inductive TextError
  /-- An integer in it has too many digits. -/
  | integerTooLong
  deriving DecidableEq, Repr

namespace Text

def digitChar (d : Nat) : Char :=
  if d < 10 then Char.ofNat (48 + d) else Char.ofNat (87 + d)

/-- Base-ten digits, most significant first, without leading zeros. -/
def digits (n : Nat) : List Char :=
  if n < 10 then [digitChar n] else digits (n / 10) ++ [digitChar (n % 10)]

def hexDigits (n : Nat) : List Char :=
  if n < 16 then [digitChar n] else hexDigits (n / 16) ++ [digitChar (n % 16)]

def intDigits : Int → List Char
  | .ofNat n => digits n
  | .negSucc n => '-' :: digits (n + 1)

/-- How many decimal digits the text of an integer may have. -/
def digitLimit : Nat := 4300

/-- Whether an integer is short enough to be written. -/
def isWritable (n : Int) : Bool := (digits n.natAbs).length ≤ digitLimit

def natText (n : Nat) : String := String.ofList (digits n)

def intText (n : Int) : String := String.ofList (intDigits n)

/-- `s` with `c` put in front until it has at least `width` characters. -/
def padLeft (width : Nat) (c : Char) (s : List Char) : List Char :=
  List.replicate (width - s.length) c ++ s

def decimalValue? (c : Char) : Option Nat :=
  if '0' ≤ c ∧ c ≤ '9' then some (c.toNat - 48) else none

def hexValue? (c : Char) : Option Nat :=
  if '0' ≤ c ∧ c ≤ '9' then some (c.toNat - 48)
  else if 'a' ≤ c ∧ c ≤ 'f' then some (c.toNat - 87)
  else if 'A' ≤ c ∧ c ≤ 'F' then some (c.toNat - 55)
  else none

/-- Reads digits of a base from left to right on top of `acc`; refuses any other character. -/
def readOnto (base : Nat) (value? : Char → Option Nat) : Nat → List Char → Option Nat
  | acc, [] => some acc
  | acc, c :: r => (value? c).bind fun d => readOnto base value? (acc * base + d) r

/-- The number that a non-empty run of decimal digits stands for. -/
def readNat? (s : List Char) : Option Nat :=
  if s.isEmpty then none else readOnto 10 decimalValue? 0 s

def readHex? (s : List Char) : Option Nat :=
  if s.isEmpty then none else readOnto 16 hexValue? 0 s

end Text

namespace TextError

def message : TextError → String
  | integerTooLong => "Exceeds the limit (" ++ Text.natText Text.digitLimit ++ " digits) for "
    ++ "integer string conversion; use sys.set_int_max_str_digits() to increase the limit"

def name : TextError → String
  | integerTooLong => "ValueError"

end TextError
end TcpSessions
