import TcpSessions.Calendar.Moment
import TcpSessions.Text.Blank
import TcpSessions.Text.Numeral
import TcpSessions.Text.Upper
/-!
# Moments as text

`Moment.text` writes a moment after a layout: text in which a percent sign and a letter stand for
a part of the moment. Between them may stand marks for the padding and for capitals, a least width,
and one of the letters `E` and `O`, which ask for another form of the part. There are no other
forms here, but not every part may be asked for one. What names no part is written as it stands.

The text has to stay below a bound that depends on the length of the layout; a longer one is not
written at all.
-/
namespace TcpSessions.Moment

open Text (natText intDigits padLeft)

def dayName (weekday : Nat) : String :=
  ["Sunday", "Monday", "Tuesday", "Wednesday", "Thursday", "Friday", "Saturday"][weekday]?.getD ""

def monthName (month : Nat) : String :=
  ["January", "February", "March", "April", "May", "June", "July", "August", "September",
   "October", "November", "December"][month - 1]?.getD ""

def short (name : String) : String := String.ofList (name.toList.take 3)

/-- The year and the number of the week, both as weeks run from Monday and belong to the year of
their Thursday. This year is kept in thirty-two bits. -/
def weekOfThursday (m : Moment) : Int × Nat :=
  let fromMonday := (m.date.weekday + 6) % 7
  let thursday := Date.ofDays (m.date.toDays - fromMonday + 3)
  (thursday.year.bmod 0x100000000, thursday.dayOfYear / 7 + 1)

def clockHour (m : Moment) : Nat := if m.hour % 12 = 0 then 12 else m.hour % 12

def half (m : Moment) : String := if m.hour < 12 then "AM" else "PM"

/-- What a part is padded with, if the layout says so. -/
inductive Padding
  | nothing | blanks | zeros
  deriving DecidableEq, Repr

/-- What the marks for capitals do to a part that is text. -/
inductive Lettering
  /-- The mark `^` asks for capitals. -/
  | usual
  /-- The mark `#` does so too. -/
  | named
  /-- The mark `#` asks for small letters. -/
  | lowered
  /-- The letters are small under any mark. -/
  | small
  deriving DecidableEq, Repr

structure PartForm where
  padding : Option Padding := none
  /-- The mark `^`. -/
  capitals : Bool := false
  /-- The mark `#`. -/
  swapped : Bool := false
  width : Nat := 0
  /-- The letter `E` or `O`. -/
  variant : Option Char := none
  deriving DecidableEq, Repr

namespace PartForm

def isMark (c : Char) : Bool := c = '-' || c = '_' || c = '0' || c = '^' || c = '#'

def paddingOf? : Char → Option Padding
  | '-' => some .nothing
  | '_' => some .blanks
  | '0' => some .zeros
  | _ => none

def capital (c : Char) : Char :=
  match Text.capital c with
  | [d] => d
  | _ => c

def fill (f : PartForm) (s : List Char) : List Char :=
  padLeft f.width (if f.padding = some .zeros then '0' else ' ') s

def word (f : PartForm) (l : Lettering) (s : List Char) : List Char :=
  f.fill (match l with
    | .usual => if f.capitals then s.map capital else s
    | .named => if f.capitals || f.swapped then s.map capital else s
    | .lowered =>
      if f.swapped then s.map Text.lowerAscii else if f.capitals then s.map capital else s
    | .small => s.map Text.lowerAscii)

/-- A part that is a number, usually of some digits and padded with zeros or blanks. -/
def figure (f : PartForm) (digits : Nat) (usual : Padding) (n : Int) : List Char :=
  let sign := if n < 0 then ['-'] else []
  let body := Text.digits n.natAbs
  let width := max digits f.width
  match f.padding.getD usual with
  | .nothing => padLeft f.width ' ' (sign ++ body)
  | .blanks => padLeft width ' ' (sign ++ body)
  | .zeros => sign ++ padLeft (width - sign.length) '0' body

end PartForm

/-- A part of a moment that is a number: its value, its usual width and what pads it. -/
def number? (m : Moment) : Char → Option (Int × Nat × Padding)
  | 'C' => some (m.date.year.fdiv 100, 1, .zeros)
  | 'd' => some (m.date.day, 2, .zeros)
  | 'e' => some (m.date.day, 2, .blanks)
  | 'g' => some (m.weekOfThursday.1.fmod 100, 2, .zeros)
  | 'G' => some (m.weekOfThursday.1, 1, .zeros)
  | 'H' => some (m.hour, 2, .zeros)
  | 'I' => some (m.clockHour, 2, .zeros)
  | 'j' => some (m.date.dayOfYear + 1, 3, .zeros)
  | 'k' => some (m.hour, 2, .blanks)
  | 'l' => some (m.clockHour, 2, .blanks)
  | 'm' => some (m.date.month, 2, .zeros)
  | 'M' => some (m.minute, 2, .zeros)
  | 'S' => some (m.second, 2, .zeros)
  | 'u' => some ((m.date.weekday + 6) % 7 + 1, 1, .zeros)
  | 'U' => some ((m.date.dayOfYear + 7 - m.date.weekday) / 7, 2, .zeros)
  | 'V' => some (m.weekOfThursday.2, 2, .zeros)
  | 'w' => some (m.date.weekday, 1, .zeros)
  | 'W' => some ((m.date.dayOfYear + 7 - (m.date.weekday + 6) % 7) / 7, 2, .zeros)
  | 'y' => some (m.date.year.fmod 100, 2, .zeros)
  | 'Y' => some (m.date.year, 1, .zeros)
  | _ => none

def numberText (m : Moment) (c : Char) : List Char :=
  match m.number? c with
  | some (n, digits, usual) => ({} : PartForm).figure digits usual n
  | none => []

def parts (m : Moment) (letters : String) (between : Char) : List Char :=
  [between].intercalate (letters.toList.map m.numberText)

/-- A part of a moment that is text, and what the marks do to it. -/
def words? (m : Moment) : Char → Option (List Char × Lettering)
  | 'a' => some ((short (dayName m.date.weekday)).toList, .named)
  | 'A' => some ((dayName m.date.weekday).toList, .named)
  | 'b' | 'h' => some ((short (monthName m.date.month)).toList, .named)
  | 'B' => some ((monthName m.date.month).toList, .named)
  | 'c' => some ((short (dayName m.date.weekday)).toList ++ ' ' ::
      (short (monthName m.date.month)).toList ++ ' ' :: m.numberText 'e' ++ ' ' ::
      m.parts "HMS" ':' ++ ' ' :: m.numberText 'Y', .usual)
  | 'D' | 'x' => some (m.parts "mdy" '/', .usual)
  | 'F' => some (m.parts "Ymd" '-', .usual)
  | 'n' => some (['\n'], .usual)
  | 'p' => some (m.half.toList, .lowered)
  | 'P' => some (m.half.toList, .small)
  | 'r' => some (m.parts "IMS" ':' ++ ' ' :: m.half.toList, .usual)
  | 'R' => some (m.parts "HM" ':', .usual)
  | 's' => some (intDigits m.toSeconds, .usual)
  | 't' => some (['\t'], .usual)
  | 'T' | 'X' => some (m.parts "HMS" ':', .usual)
  | 'Z' => some ("UTC".toList, .lowered)
  | '%' => some (['%'], .usual)
  | _ => none

def hasVariant (c : Char) : Option Char → Bool
  | none => true
  | some 'E' => !"aAbBdDeFgGhHIjklmMSUVwW%".toList.contains c
  | some _ => !"aAcDFxXY%".toList.contains c

/-- The part that a letter stands for; the distance from universal time has its sign padded like a
part of its own. -/
def part? (m : Moment) (f : PartForm) (c : Char) : Option (List Char) :=
  if ¬ hasVariant c f.variant then none
  else if c = 'z' then some (f.fill ['+'] ++ f.figure 4 .zeros 0)
  else
    match m.number? c, m.words? c with
    | some (n, digits, usual), _ => some (f.figure digits usual n)
    | none, some (s, l) => some (f.word l s)
    | none, none => none

/-- A part as a layout asks for it: its form, its letter if the layout goes on so far, and what the
layout holds in its place. -/
structure PartRequest where
  form : PartForm
  letter : Option Char
  source : List Char

def isWidthDigit (c : Char) : Bool := (Text.decimalValue? c).isSome

def readRequest (s : List Char) : PartRequest × List Char :=
  let marks := s.takeWhile PartForm.isMark
  let r := s.dropWhile PartForm.isMark
  let width := r.takeWhile isWidthDigit
  let r := r.dropWhile isWidthDigit
  let variant := (r.take 1).filter fun c => c = 'E' || c = 'O'
  let r := r.drop variant.length
  let form : PartForm := {
    padding := (marks.filterMap PartForm.paddingOf?).getLast?
    capitals := marks.contains '^'
    swapped := marks.contains '#'
    width := (Text.readNat? width).getD 0
    variant := variant.head? }
  (⟨form, r.head?, '%' :: marks ++ width ++ variant ++ r.take 1⟩, r.drop 1)

theorem length_readRequest_le (s : List Char) : (readRequest s).2.length ≤ s.length := by
  have h₁ := (List.dropWhile_sublist (l := s) PartForm.isMark).length_le
  have h₂ := (List.dropWhile_sublist (l := s.dropWhile PartForm.isMark) isWidthDigit).length_le
  simp only [readRequest, List.length_drop]
  omega

/-- The text of a part, or what the layout holds in its place: from its last percent sign on. -/
def requested (m : Moment) (q : PartRequest) : List Char :=
  match q.letter.bind (m.part? q.form) with
  | some s => s
  | none => q.form.word .usual (if q.letter = some '%' then ['%'] else q.source)

def textBelow (m : Moment) (bound : Nat) : List Char → Option (List Char)
  | [] => if bound = 0 then none else some []
  | c :: r =>
    if c = '%' then
      if bound ≤ (readRequest r).1.form.width then none
      else
        let s := m.requested (readRequest r).1
        if bound ≤ s.length then none
        else (m.textBelow (bound - s.length) (readRequest r).2).map (s ++ ·)
    else if bound ≤ 1 then none
    else (m.textBelow (bound - 1) r).map (c :: ·)
termination_by s => s.length
decreasing_by
  · have := length_readRequest_le r
    simp only [List.length_cons]
    omega
  · simp

/-- The bound for a layout of some length: the first at least 256 times as large among those that
double from 1024 on. -/
def textBound (length : Nat) : Nat := 1024 * Nat.pow 2 (Nat.log2 (length - 1) - 1)

def text (m : Moment) (layout : List Char) : List Char :=
  (m.textBelow (textBound layout.length) layout).getD []

end TcpSessions.Moment
