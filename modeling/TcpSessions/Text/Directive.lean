import TcpSessions.Text.Numeral
/-!
# Templates

A template is text with directives in it: a percent sign, an optional key in parentheses, marks, a
width, a precision and the letter of a conversion. `pieces` cuts a template into its literal text
and its directives; a directive that the end of the template cuts short has no conversion.
-/
namespace TcpSessions.Text

/-- A width or a precision: written in the template, or taken from the arguments. -/
inductive Size
  | given (n : Nat)
  | fromArgument
  deriving DecidableEq, Repr

inductive DirectiveKey
  | none
  | named (key : List Char)
  /-- The closing parenthesis is missing. -/
  | unclosed
  deriving DecidableEq, Repr

structure Marks where
  alternate : Bool := false
  zero : Bool := false
  left : Bool := false
  blank : Bool := false
  plus : Bool := false
  deriving DecidableEq, Repr

/-- A directive; `place` is the index of its conversion in the template. -/
structure Directive where
  key : DirectiveKey
  marks : Marks
  width : Option Size
  precision : Option Size
  conversion : Option Char
  place : Nat
  deriving DecidableEq, Repr

inductive Piece
  | literal (c : Char)
  | directive (d : Directive)
  deriving DecidableEq, Repr

/-- The text up to the parenthesis that closes `depth` open ones, and what follows it. -/
def closing : Nat → List Char → Option (List Char × List Char)
  | _, [] => none
  | depth, c :: r =>
    if c = ')' then
      if depth ≤ 1 then some ([], r)
      else (closing (depth - 1) r).map fun (k, rest) => (c :: k, rest)
    else (closing (if c = '(' then depth + 1 else depth) r).map fun (k, rest) => (c :: k, rest)

def readKey : List Char → DirectiveKey × List Char
  | '(' :: r =>
    match closing 1 r with
    | some (k, rest) => (.named k, rest)
    | none => (.unclosed, [])
  | s => (.none, s)

def isMark (c : Char) : Bool := c = '#' || c = '0' || c = '-' || c = ' ' || c = '+'

def Marks.ofChars (cs : List Char) : Marks :=
  ⟨'#' ∈ cs, '0' ∈ cs, '-' ∈ cs, ' ' ∈ cs, '+' ∈ cs⟩

def isDecimal (c : Char) : Bool := (decimalValue? c).isSome

def readSize (s : List Char) : Option Size × List Char :=
  match s with
  | '*' :: r => (some .fromArgument, r)
  | _ => ((readNat? (s.takeWhile isDecimal)).map .given, s.dropWhile isDecimal)

/-- Reads a precision, if there is one: a point without a number means zero. -/
def readPrecision : List Char → Option Size × List Char
  | '.' :: r => (some ((readSize r).1.getD (.given 0)), (readSize r).2)
  | s => (none, s)

/-- Drops a letter for the width of an integer: it has no meaning. -/
def dropLength : List Char → List Char
  | c :: r => if c = 'h' ∨ c = 'l' ∨ c = 'L' then r else c :: r
  | [] => []

/-- Reads a directive behind its percent sign in a template of `total` characters. -/
def readDirective (total : Nat) (s : List Char) : Directive × List Char :=
  let (key, s) := readKey s
  let marks := Marks.ofChars (s.takeWhile isMark)
  let (width, s) := readSize (s.dropWhile isMark)
  let (precision, s) := readPrecision s
  let s := dropLength s
  (⟨key, marks, width, precision, s.head?, total - s.length⟩, s.tail)

theorem length_le_of_closing {depth : Nat} {s k rest : List Char}
    (h : closing depth s = some (k, rest)) : rest.length ≤ s.length := by
  fun_induction closing depth s generalizing k <;> grind [Option.map_eq_some_iff]

theorem length_readKey_le (s : List Char) : (readKey s).2.length ≤ s.length := by
  unfold readKey
  split
  · split
    · next h => exact Nat.le_succ_of_le (length_le_of_closing h)
    · simp
  · simp

theorem length_dropWhile_le {α : Type} (p : α → Bool) (s : List α) :
    (s.dropWhile p).length ≤ s.length := (List.dropWhile_suffix p).length_le

theorem length_readSize_le (s : List Char) : (readSize s).2.length ≤ s.length := by
  unfold readSize
  split
  · simp
  · exact length_dropWhile_le _ _

theorem length_readPrecision_le (s : List Char) : (readPrecision s).2.length ≤ s.length := by
  unfold readPrecision
  split
  · exact Nat.le_succ_of_le (length_readSize_le _)
  · simp

theorem length_dropLength_le (s : List Char) : (dropLength s).length ≤ s.length := by
  unfold dropLength
  split
  · split <;> simp
  · simp

theorem length_readDirective_le (total : Nat) (s : List Char) :
    (readDirective total s).2.length ≤ s.length := by
  have h₁ := length_readKey_le s
  have h₂ := length_dropWhile_le isMark (readKey s).2
  have h₃ := length_readSize_le ((readKey s).2.dropWhile isMark)
  have h₄ := length_readPrecision_le (readSize ((readKey s).2.dropWhile isMark)).2
  have h₅ := length_dropLength_le (readPrecision (readSize ((readKey s).2.dropWhile isMark)).2).2
  simp only [readDirective, List.length_tail]
  omega

/-- The pieces of the rest of a template of `total` characters. Two percent signs stand for
one. -/
def piecesFrom (total : Nat) : List Char → List Piece
  | [] => []
  | '%' :: '%' :: r => .literal '%' :: piecesFrom total r
  | '%' :: r => .directive (readDirective total r).1 :: piecesFrom total (readDirective total r).2
  | c :: r => .literal c :: piecesFrom total r
termination_by s => s.length
decreasing_by
  all_goals simp only [List.length_cons]
  · omega
  · have := length_readDirective_le total r
    omega
  · omega

def pieces (template : List Char) : List Piece := piecesFrom template.length template

end TcpSessions.Text
