/-!
# Separated fields

Cutting a list at a separator and joining fields back: `join sep (fields sep s) = s`.
-/
namespace TcpSessions.Text

variable {α : Type} [DecidableEq α]

/-- The fields of `s` between occurrences of `sep`; there is always at least one. -/
def fields (sep : α) : List α → List (List α)
  | [] => [[]]
  | c :: r =>
    if c = sep then [] :: fields sep r
    else match fields sep r with
      | [] => [[c]]
      | f :: fs => (c :: f) :: fs

/-- Fields written one after another with `sep` between neighbours. -/
def join (sep : α) : List (List α) → List α
  | [] => []
  | [f] => f
  | f :: g :: fs => f ++ sep :: join sep (g :: fs)

/-- Cuts `s` at the first place where `sep` stands twice in a row. -/
def cutAtDouble (sep : α) : List α → Option (List α × List α)
  | [] => none
  | [_] => none
  | c :: d :: r =>
    if c = sep ∧ d = sep then some ([], r)
    else (cutAtDouble sep (d :: r)).map fun (a, b) => (c :: a, b)

end TcpSessions.Text
