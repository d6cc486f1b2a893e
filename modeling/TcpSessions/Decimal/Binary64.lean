import TcpSessions.Text.Blank
import TcpSessions.Text.Digit
/-!
# Binary floating-point numbers

Sixty-four-bit binary floating-point numbers as exact data, and the reading of decimal text. The
number that a text stands for is the one nearest to its exact value, a tie going to the even
mantissa.
-/
namespace TcpSessions

/-- A binary floating-point number; a finite one is its mantissa times a power of two. The
mantissa is below `2 ^ 53`, and at least `2 ^ 52` unless the exponent is the least one. -/
inductive Binary64
  | nan
  | infinite (negative : Bool)
  | finite (negative : Bool) (mantissa : Nat) (exponent : Int)
  deriving DecidableEq, Repr

namespace Binary64

def leastExponent : Int := -1074

def greatestExponent : Int := 971

def zero (negative : Bool) : Binary64 := finite negative 0 leastExponent

/-- `num / den` rounded to the nearest integer, a tie going to the even one. -/
def roundHalfEven (num den : Nat) : Nat :=
  let q := num / den
  let r := num % den
  if 2 * r < den then q
  else if den < 2 * r then q + 1
  else if q % 2 = 0 then q else q + 1

/-- `num / den` scaled by `2 ^ -e`, as a fraction. -/
def scaled (num den : Nat) (e : Int) : Nat × Nat :=
  if 0 ≤ e then (num, den * Nat.pow 2 e.toNat) else (num * Nat.pow 2 e.natAbs, den)

def nearest (negative : Bool) (num den : Nat) : Binary64 :=
  if num = 0 then zero negative
  else
    let guess : Int := max ((Nat.log2 num : Int) - Nat.log2 den - 53) leastExponent
    let (n, d) := scaled num den guess
    let e := if Nat.pow 2 53 ≤ n / d then guess + 1 else guess
    let (n, d) := scaled num den e
    let m := roundHalfEven n d
    let (m, e) := if m = Nat.pow 2 53 then (Nat.pow 2 52, e + 1) else (m, e)
    if greatestExponent < e then infinite negative else finite negative m e

/-- The number nearest to a decimal: `digits` times a power of ten. -/
def ofDecimal (negative : Bool) (digits : Nat) (exponent : Int) : Binary64 :=
  if digits = 0 then zero negative
  else
    let magnitude := (Text.digits digits).length + exponent
    if 400 < magnitude then infinite negative
    else if magnitude < -400 then zero negative
    else if 0 ≤ exponent then nearest negative (digits * Nat.pow 10 exponent.toNat) 1
    else nearest negative digits (Nat.pow 10 exponent.natAbs)

def ofInt (n : Int) : Binary64 := nearest (decide (n < 0)) n.natAbs 1

def isZero : Binary64 → Bool
  | finite _ m _ => m = 0
  | _ => false

/-- The integer below a finite number, and whether the number is that integer. -/
def floor? : Binary64 → Option (Int × Bool)
  | finite negative m e =>
    if 0 ≤ e then
      let n : Int := (m * Nat.pow 2 e.toNat : Nat)
      some (if negative then -n else n, true)
    else
      let d := Nat.pow 2 e.natAbs
      let exact := m % d = 0
      if negative then some (-((m + d - 1) / d : Nat), exact) else some ((m / d : Nat), exact)
  | _ => none

/-- A run of digits in which single underscores may stand between digits. -/
def readDigits? (s : List Char) : Option (List Char) :=
  let rec go : Bool → List Char → Option (List Char)
    | afterDigit, [] => if afterDigit then some [] else none
    | afterDigit, c :: r =>
      if c = '_' then if afterDigit then go false r else none
      else if (Text.decimalValue? c).isSome then (go true r).map (c :: ·)
      else none
  go false s

def readExponent? (s : List Char) : Option Int :=
  let signed (r : List Char) (sign : Int) : Option Int :=
    ((readDigits? r).bind Text.readNat?).map fun n => sign * n
  match s with
  | '+' :: r => signed r 1
  | '-' :: r => signed r (-1)
  | _ => signed s 1

/-- The value of a decimal without sign: digits with at most one point, and an exponent. -/
def readUnsigned? (negative : Bool) (s : List Char) : Option Binary64 :=
  let isMark (c : Char) : Bool := c = 'e' || c = 'E'
  let body := s.takeWhile (!isMark ·)
  let exponent? := match s.dropWhile (!isMark ·) with
    | [] => some 0
    | _ :: r => readExponent? r
  let whole := body.takeWhile (· ≠ '.')
  let fraction := (body.dropWhile (· ≠ '.')).drop 1
  let part? (p : List Char) : Option (List Char) := if p.isEmpty then some [] else readDigits? p
  match exponent?, part? whole, part? fraction with
  | some e, some w, some f =>
    (Text.readNat? (w ++ f)).map fun n => ofDecimal negative n (e - f.length)
  | _, _, _ => none

/-- The number that a text stands for: a decimal in digits of any script, an infinity or a
not-a-number, in any letter case and between any white space. -/
def ofText? (s : String) : Option Binary64 :=
  let unsigned (negative : Bool) (r : List Char) : Option Binary64 :=
    let word := String.ofList (r.map Text.lowerAscii)
    if word = "inf" ∨ word = "infinity" then some (infinite negative)
    else if word = "nan" then some nan
    else readUnsigned? negative r
  match (Text.trim s.toList).map Text.asciiDigit with
  | '-' :: r => unsigned true r
  | '+' :: r => unsigned false r
  | r => unsigned false r

end Binary64
end TcpSessions
