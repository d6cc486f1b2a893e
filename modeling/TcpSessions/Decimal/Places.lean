import TcpSessions.Decimal.Shortest
/-!
# Decimal text with a given number of digits

A floating-point number with a fixed number of decimal places, with an exponent and a fixed number
of digits, or in whichever of the two forms suits its size. The exact value is rounded once, a tie
going to the even digit.
-/
namespace TcpSessions.Binary64

/-- Digits before and behind a point; without any behind it the point stands only on demand. -/
def pointed (keepPoint : Bool) (whole fraction : List Char) : List Char :=
  whole ++ if fraction.isEmpty then (if keepPoint then ['.'] else []) else '.' :: fraction

/-- A magnitude with `places` decimal places. -/
def fixedText (keepPoint : Bool) (places m : Nat) (e : Int) : List Char :=
  let (num, den) := fraction m e
  let ds := Text.padLeft (places + 1) '0' (Text.digits (roundHalfEven (num * Nat.pow 10 places) den))
  pointed keepPoint (ds.take (ds.length - places)) (ds.drop (ds.length - places))

/-- The first `count` digits of a magnitude and the exponent of the first one. -/
def significant (count m : Nat) (e : Int) : List Char × Int :=
  if m = 0 then (List.replicate count '0', 0)
  else
    let (num, den) := fraction m e
    let place := pointPlace num den
    let k := place - count
    let digits := if 0 ≤ k then roundHalfEven num (den * Nat.pow 10 k.toNat)
      else roundHalfEven (num * Nat.pow 10 k.natAbs) den
    if digits = Nat.pow 10 count then (Text.digits (Nat.pow 10 (count - 1)), place)
    else (Text.digits digits, place - 1)

/-- Digits with an exponent: the first stands before the point. -/
def withExponent (keepPoint : Bool) (ds : List Char) (x : Int) : List Char :=
  pointed keepPoint (ds.take 1) (ds.drop 1) ++ 'e' :: exponentText x

def exponentialText (keepPoint : Bool) (places m : Nat) (e : Int) : List Char :=
  let (ds, x) := significant (places + 1) m e
  withExponent keepPoint ds x

def withoutEndZeros (ds : List Char) : List Char :=
  (ds.reverse.dropWhile (· = '0')).reverse

/-- A magnitude with at most `count` digits, positionally if its exponent is between minus four
and `count`; zeros at the end of the fraction are kept on demand. -/
def generalText (keepZeros : Bool) (count m : Nat) (e : Int) : List Char :=
  let count := max 1 count
  let (ds, x) := significant count m e
  let trimmed (fraction : List Char) := if keepZeros then fraction else withoutEndZeros fraction
  if x < -4 ∨ (count : Int) ≤ x then
    withExponent keepZeros (ds.take 1 ++ trimmed (ds.drop 1)) x
  else if x < 0 then
    pointed keepZeros ['0'] (trimmed (List.replicate (x.natAbs - 1) '0' ++ ds))
  else pointed keepZeros (ds.take (x.toNat + 1)) (trimmed (ds.drop (x.toNat + 1)))

end TcpSessions.Binary64
