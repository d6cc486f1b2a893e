/-!
# Sorting what may not compare

`halvingSort` sorts by a relation that need not order every two items. It takes the run at the
start, turned around if it falls, and puts each further item where halving the sorted part finds a
place for it. For items of which every two are ordered this is a stable sort; if some are not, the
order that comes out is the one that this procedure leads to.
-/
namespace TcpSessions.KeyOrder

variable {α : Type}

/-- The place for an item among the sorted items from `lo` up to `hi`: behind all that it does not
come before, as far as halving sees. -/
def place (before : α → α → Bool) (x : α) (items : List α) (lo hi : Nat) : Nat :=
  if lo < hi then
    let middle := (lo + hi) / 2
    if items[middle]?.any (before x) then place before x items lo middle
    else place before x items (middle + 1) hi
  else lo
termination_by hi - lo
decreasing_by all_goals omega

def insert (before : α → α → Bool) (items : List α) (x : α) : List α :=
  let k := place before x items 0 items.length
  items.take k ++ x :: items.drop k

/-- The longest start of some items after `x` in which each one follows its neighbour, and the
rest. -/
def run (follows : α → α → Bool) : α → List α → List α × List α
  | _, [] => ([], [])
  | x, y :: r =>
    if follows x y then
      let (first, rest) := run follows y r
      (y :: first, rest)
    else ([], y :: r)

/-- The items sorted by what comes before what. -/
def halvingSort (before : α → α → Bool) : List α → List α
  | x :: y :: r =>
    let falls (a b : α) : Bool := before b a
    let rises (a b : α) : Bool := !before b a
    let (first, rest) :=
      if before y x then ((x :: (run falls x (y :: r)).1).reverse, (run falls x (y :: r)).2)
      else (x :: (run rises x (y :: r)).1, (run rises x (y :: r)).2)
    rest.foldl (insert before) first
  | items => items

end TcpSessions.KeyOrder
