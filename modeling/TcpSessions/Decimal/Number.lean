import TcpSessions.Decimal.Shortest
/-!
# Numbers of two kinds

A number is an integer of any size or a binary floating-point number. Numbers of different kinds
compare by their exact values.
-/
namespace TcpSessions

inductive Number
  | whole (n : Int)
  | real (x : Binary64)
  deriving DecidableEq, Repr

namespace Number

/-- The place of a number on the extended line of numbers. -/
inductive Place
  | below
  /-- A multiple of a power of two. -/
  | point (n exponent : Int)
  | above

/-- Where a number lies; one that is no number lies nowhere. -/
def place? : Number → Option Place
  | whole n => some (.point n 0)
  | real .nan => none
  | real (.infinite negative) => some (if negative then .below else .above)
  | real (.finite negative m e) => some (.point (if negative then -m else m) e)

/-- Whether one place is not right of another. -/
def Place.le : Place → Place → Bool
  | below, _ => true
  | _, above => true
  | .point a e, .point b f =>
    if e ≤ f then decide (a ≤ b * Nat.pow 2 (f - e).toNat)
    else decide (a * Nat.pow 2 (e - f).toNat ≤ b)
  | _, _ => false

def le (x y : Number) : Bool :=
  match x.place?, y.place? with
  | some p, some q => p.le q
  | _, _ => false

def same (x y : Number) : Bool := x.le y && y.le x

def isZero : Number → Bool
  | whole n => n = 0
  | real x => x.isZero

def text : Number → List Char
  | whole n => Text.intDigits n
  | real x => x.text

end Number
end TcpSessions
