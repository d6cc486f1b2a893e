import TcpSessions.Decimal.Binary64
/-!
# Shortest decimal text

The fewest decimal digits that read back as a given binary number; of several such decimals with
that many digits the one nearest to the number.
-/
namespace TcpSessions.Binary64

def fraction (m : Nat) (e : Int) : Nat × Nat :=
  if 0 ≤ e then (m * Nat.pow 2 e.toNat, 1) else (m, Nat.pow 2 e.natAbs)

/-- Whether `digits` times `10 ^ k` lies in the interval of reals that round to the number with
mantissa `m` and exponent `e`; the ends count when the mantissa is even. -/
def roundsTo (m : Nat) (e : Int) (digits : Nat) (k : Int) : Bool :=
  -- all sides in quarters of the last binary place
  let (below, above) := if m = Nat.pow 2 52 ∧ leastExponent < e then (4 * m - 1, 4 * m + 2)
    else (4 * m - 2, 4 * m + 2)
  let (unitNum, unitDen) := fraction 1 e
  let (digitsNum, digitsDen) :=
    if 0 ≤ k then (digits * Nat.pow 10 k.toNat, 1) else (digits, Nat.pow 10 k.natAbs)
  let point := 4 * digitsNum * unitDen
  let low := below * unitNum * digitsDen
  let high := above * unitNum * digitsDen
  if m % 2 = 0 then decide (low ≤ point ∧ point ≤ high) else decide (low < point ∧ point < high)

/-- The power of ten just above a positive fraction below one, counted down from zero. -/
def leadingZeros (num den : Nat) : Nat → Nat
  | 0 => 0
  | bound + 1 => if num * 10 < den then leadingZeros (num * 10) den bound + 1 else 0

/-- The exponent `x` with `10 ^ (x - 1) ≤ num / den < 10 ^ x`. -/
def pointPlace (num den : Nat) : Int :=
  if den ≤ num then (Text.digits (num / den)).length else -(leadingZeros num den 400 : Int)

/-- The decimal with `count` digits that is nearest among those that read back, if any: its digits
and the exponent of the last one. -/
def withDigits? (m : Nat) (e : Int) (count : Nat) : Option (Nat × Int) :=
  let (num, den) := fraction m e
  let k := pointPlace num den - count
  let (n, d) := if 0 ≤ k then (num, den * Nat.pow 10 k.toNat) else (num * Nat.pow 10 k.natAbs, den)
  let low := n / d
  let high := low + 1
  match roundsTo m e low k, roundsTo m e high k with
  | true, true =>
    let r := n % d
    if 2 * r < d ∨ (2 * r = d ∧ low % 2 = 0) then some (low, k) else some (high, k)
  | true, false => some (low, k)
  | false, true => some (high, k)
  | false, false => none

/-- The shortest decimal of at most `count + bound` digits, starting from `count`. -/
def shortestFrom (m : Nat) (e : Int) : Nat → Nat → Nat × Int
  | _, 0 => (m, e)
  | count, bound + 1 =>
    match withDigits? m e count with
    | some d => d
    | none => shortestFrom m e (count + 1) bound

def dropZeros (digits : Nat) (k : Int) : Nat → Nat × Int
  | 0 => (digits, k)
  | bound + 1 =>
    if digits % 10 = 0 ∧ digits ≠ 0 then dropZeros (digits / 10) (k + 1) bound else (digits, k)

def shortest (m : Nat) (e : Int) : Nat × Int :=
  let (digits, k) := shortestFrom m e 1 17
  dropZeros digits k 20

structure DecimalStyle where
  /-- The least exponent of the first digit that is still written positionally. -/
  leastPositional : Int
  /-- The first exponent of the first digit that is written with an exponent. -/
  leastExponential : Int

/-- Exponents from minus four to fifteen are positional. -/
def DecimalStyle.general : DecimalStyle := ⟨-4, 16⟩

def exponentText (x : Int) : List Char :=
  (if x < 0 then '-' else '+') :: Text.padLeft 2 '0' (Text.digits x.natAbs)

/-- The text of digits with the exponent of the last one. A positional text has a point and at
least one digit behind it. -/
def decimalText (style : DecimalStyle) (digits : Nat) (k : Int) : List Char :=
  let ds := Text.digits digits
  let x := k + ds.length - 1
  if style.leastPositional ≤ x ∧ x < style.leastExponential then
    if x < 0 then ['0', '.'] ++ List.replicate (x.natAbs - 1) '0' ++ ds
    else if 0 ≤ k then ds ++ List.replicate k.toNat '0' ++ ['.', '0']
    else ds.take (x.toNat + 1) ++ '.' :: ds.drop (x.toNat + 1)
  else
    let tail := ds.drop 1
    ds.take 1 ++ (if tail.isEmpty then [] else '.' :: tail) ++ 'e' :: exponentText x

/-- The text of a number: the shortest decimal that reads back. -/
def text : Binary64 → List Char
  | nan => "nan".toList
  | infinite negative => (if negative then "-inf" else "inf").toList
  | finite negative m e =>
    let body := if m = 0 then "0.0".toList
      else
        let (digits, k) := shortest m e
        decimalText .general digits k
    if negative then '-' :: body else body

end TcpSessions.Binary64
