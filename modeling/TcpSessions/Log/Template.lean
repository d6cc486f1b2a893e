import TcpSessions.Decimal.Places
import TcpSessions.Log.Shown
import TcpSessions.Text.Directive
/-!
# Filling templates

`Template.fill` puts data into the directives of a template. The pieces are done from left to
right, so the first fault in a template is the one that is reported.

Without a mapping every directive takes the next item. With a mapping a directive may name a key;
it then takes the value under that key, and what comes behind it sees that value as used up.
-/
namespace TcpSessions

/-- What a conversion wants of its datum. -/
inductive Wanted
  /-- A number for an integer conversion. -/
  | realNumber (conversion : Char)
  | integer (conversion : Char)
  | float
  deriving DecidableEq, Repr

inductive TemplateError
  | cutShort
  | keyCutShort
  | mappingWanted
  | noSuchKey (key : String)
  | tooFewItems
  | tooManyItems
  | sizeNotInteger
  | widthTooLarge
  | precisionTooLarge
  /-- A width or precision from the arguments that does not fit the named width of integers. -/
  | sizeOutOfRange (integers : String)
  | unknownConversion (c : Char) (place : Nat)
  /-- A datum of a kind that the conversion does not take. -/
  | wrongKind (wanted : Wanted) (kind : String)
  | characterWanted
  | characterOutOfRange
  | notANumber
  | infinite
  | tooLargeForFloat
  | noText (error : TextError)
  deriving DecidableEq, Repr

def TemplateError.message : TemplateError → String
  | cutShort => "incomplete format"
  | keyCutShort => "incomplete format key"
  | mappingWanted => "format requires a mapping"
  | noSuchKey k => Text.quotedText k
  | tooFewItems => "not enough arguments for format string"
  | tooManyItems => "not all arguments converted during string formatting"
  | sizeNotInteger => "* wants int"
  | widthTooLarge => "width too big"
  | precisionTooLarge => "precision too big"
  | sizeOutOfRange integers => "Python int too large to convert to C " ++ integers
  | unknownConversion c place =>
    let shown := if '\x1f' ≤ c ∧ c ≤ '~' then c else '?'
    "unsupported format character '" ++ shown.toString ++ "' (0x"
      ++ String.ofList (Text.hexDigits c.toNat) ++ ") at index " ++ Text.natText place
  | wrongKind (.realNumber c) kind =>
    "%" ++ c.toString ++ " format: a real number is required, not " ++ kind
  | wrongKind (.integer c) kind =>
    "%" ++ c.toString ++ " format: an integer is required, not " ++ kind
  | wrongKind .float kind => "must be real number, not " ++ kind
  | characterWanted => "%c requires int or char"
  | characterOutOfRange => "%c arg not in range(0x110000)"
  | notANumber => "cannot convert float NaN to integer"
  | infinite => "cannot convert float infinity to integer"
  | tooLargeForFloat => "int too large to convert to float"
  | noText e => e.message

def TemplateError.name : TemplateError → String
  | cutShort | keyCutShort | widthTooLarge | precisionTooLarge | unknownConversion .. | notANumber =>
    "ValueError"
  | mappingWanted | tooFewItems | tooManyItems | sizeNotInteger | wrongKind .. | characterWanted =>
    "TypeError"
  | noSuchKey _ => "KeyError"
  | sizeOutOfRange _ | characterOutOfRange | infinite | tooLargeForFloat => "OverflowError"
  | noText e => e.name

def Datum.kind : Datum → String
  | absent => "NoneType"
  | bool _ => "bool"
  | number (.whole _) => "int"
  | number (.real _) => "float"
  | text _ => "str"
  | flags _ => "SessionFlags"
  | state _ => "SessionState"
  | family _ => "AddressFamily"
  | bytes _ => "bytes"
  | buffer _ => "bytearray"
  | list _ => "list"
  | tuple _ => "tuple"
  | set _ => "set"
  | dict _ => "dict"
  | peer _ => "PeerEndpoint"
  | listing _ => "ConnectionListing"
  | session _ => "Session"
  | unknown .. => "object"

def Binary64.truncated : Binary64 → Except TemplateError Int
  | nan => .error .notANumber
  | infinite _ => .error .infinite
  | finite negative m e =>
    let n : Int := if 0 ≤ e then (m * Nat.pow 2 e.toNat : Nat) else (m / Nat.pow 2 e.natAbs : Nat)
    .ok (if negative then -n else n)

def Number.truncated : Number → Except TemplateError Int
  | whole n => .ok n
  | real x => x.truncated

def Number.toBinary64 : Number → Except TemplateError Binary64
  | whole n =>
    match Binary64.ofInt n with
    | .infinite _ => .error .tooLargeForFloat
    | x => .ok x
  | real x => .ok x

namespace Template

open Text (Marks Size Directive Piece)

/-- A converted datum before it is laid out: only a number has a sign, and only a number may be
filled with zeros. -/
structure Figure where
  isNumber : Bool
  negative : Bool := false
  base : List Char := []
  body : List Char

def Figure.sign (f : Figure) (m : Marks) : List Char :=
  if ¬ f.isNumber then []
  else if f.negative then ['-']
  else if m.plus then ['+']
  else if m.blank then [' ']
  else []

/-- A figure in a field of at least `width` characters. -/
def Figure.lay (f : Figure) (m : Marks) (width : Nat) : List Char :=
  let head := f.sign m ++ f.base
  let missing := width - (head.length + f.body.length)
  if m.left then head ++ f.body ++ List.replicate missing ' '
  else if m.zero && f.isNumber then head ++ List.replicate missing '0' ++ f.body
  else List.replicate missing ' ' ++ head ++ f.body

def octalDigits (n : Nat) : List Char :=
  if n < 8 then [Text.digitChar n] else octalDigits (n / 8) ++ [Text.digitChar (n % 8)]

/-- The capital form of an ASCII letter; any other character as it is. -/
def upperAscii (c : Char) : Char :=
  if 'a' ≤ c ∧ c ≤ 'z' then Char.ofNat (c.toNat - 32) else c

def asciiOnly (s : List Char) : List Char :=
  s.flatMap fun c =>
    if c.toNat < 0x80 then [c]
    else if c.toNat ≤ 0xff then '\\' :: 'x' :: Text.hexPadded 2 c.toNat
    else if c.toNat ≤ 0xffff then '\\' :: 'u' :: Text.hexPadded 4 c.toNat
    else '\\' :: 'U' :: Text.hexPadded 8 c.toNat

def textFigure (precision : Option Nat) (s : List Char) : Figure :=
  { isNumber := false, body := precision.elim s s.take }

/-- An integer with at least `precision` digits. -/
def integerFigure (base body : List Char) (precision : Option Nat) (n : Int) : Figure :=
  { isNumber := true, negative := n < 0, base, body := Text.padLeft (precision.getD 1) '0' body }

def decimalFigure (c : Char) (precision : Option Nat) (d : Datum) :
    Except TemplateError Figure :=
  match d.number? with
  | none => .error (.wrongKind (.realNumber c) d.kind)
  | some x => do
    let n ← x.truncated
    if Text.isWritable n then return integerFigure [] (Text.digits n.natAbs) precision n
    else .error (.noText .integerTooLong)

def basedFigure (c : Char) (alternate : Bool) (precision : Option Nat) (d : Datum) :
    Except TemplateError Figure :=
  match d.number? with
  | some (.whole n) =>
    let mark := if alternate then ['0', c] else []
    let body := if c = 'o' then octalDigits n.natAbs else Text.hexDigits n.natAbs
    .ok (integerFigure mark (if c = 'X' then body.map upperAscii else body) precision n)
  | _ => .error (.wrongKind (.integer c) d.kind)

/-- A floating-point number in one of the three forms, in capitals if the letter is one. -/
def floatFigure (c : Char) (alternate : Bool) (precision : Option Nat) (d : Datum) :
    Except TemplateError Figure :=
  match d.number? with
  | none => .error (.wrongKind .float d.kind)
  | some x => do
    let places := precision.getD 6
    let lower := Text.lowerAscii c
    let (negative, body) := match (← x.toBinary64) with
      | .nan => (false, "nan".toList)
      | .infinite negative => (negative, "inf".toList)
      | .finite negative m e =>
        (negative,
          if lower = 'f' then Binary64.fixedText alternate places m e
          else if lower = 'e' then Binary64.exponentialText alternate places m e
          else Binary64.generalText alternate places m e)
    return { isNumber := true, negative, body := if c = lower then body else body.map upperAscii }

/-- A single character, given as itself or by its code point. -/
def characterFigure (d : Datum) : Except TemplateError Figure :=
  match d.text?, d.number? with
  | some s, _ =>
    match s.toList with
    | [c] => .ok { isNumber := false, body := [c] }
    | _ => .error .characterWanted
  | none, some (.whole n) =>
    if 0 ≤ n ∧ n < 0x110000 then .ok { isNumber := false, body := [Char.ofNat n.toNat] }
    else .error .characterOutOfRange
  | none, _ => .error .characterWanted

/-- A datum in the conversion with letter `c`, which stands at `place` in the template. -/
def convert (c : Char) (place : Nat) (alternate : Bool) (precision : Option Nat) (d : Datum) :
    Except TemplateError Figure :=
  let textOf (text : Except TextError (List Char)) : Except TemplateError Figure :=
    (text.mapError .noText).map (textFigure precision)
  if c = 's' then textOf d.plainText
  else if c = 'r' then textOf d.shownText
  else if c = 'a' then textOf (d.shownText.map asciiOnly)
  else if c = 'd' ∨ c = 'i' ∨ c = 'u' then decimalFigure c precision d
  else if c = 'o' ∨ c = 'x' ∨ c = 'X' then basedFigure c alternate precision d
  else if c ∈ ['e', 'E', 'f', 'F', 'g', 'G'] then floatFigure c alternate precision d
  else if c = 'c' then characterFigure d
  else .error (.unknownConversion c place)

/-- What is left to put into a template. -/
inductive Supply
  | items (rest : List Datum)
  /-- A mapping, and the datum that the next directive takes, if it is not used up. -/
  | mapping (entries : List (Datum × Datum)) (next : Option Datum)

namespace Supply

def take : Supply → Except TemplateError (Datum × Supply)
  | items (d :: rest) => .ok (d, items rest)
  | items [] => .error .tooFewItems
  | mapping entries (some d) => .ok (d, mapping entries none)
  | mapping _ none => .error .tooFewItems

/-- Turns to the value under the key of a directive. -/
def turnTo : Text.DirectiveKey → Supply → Except TemplateError Supply
  | .none, s => .ok s
  | .unclosed, mapping .. => .error .keyCutShort
  | .named k, mapping entries _ =>
    let key := String.ofList k
    match entries.find? fun (d, _) => d.sameKey (.text key) with
    | some (_, v) => .ok (mapping entries (some v))
    | none => .error (.noSuchKey key)
  | _, items _ => .error .mappingWanted

end Supply

/-- The bounds of a width or a precision, and how a breach is reported. -/
structure SizeRule where
  limit : Nat
  /-- For a size that is written in the template. -/
  tooLarge : TemplateError
  /-- For a size from the arguments. -/
  outOfRange : TemplateError

/-- Widths fit sixty-four bits. -/
def widthRule : SizeRule := ⟨0x7fffffffffffffff, .widthTooLarge, .sizeOutOfRange "ssize_t"⟩

/-- Precisions fit thirty-two bits. -/
def precisionRule : SizeRule := ⟨0x7fffffff, .precisionTooLarge, .sizeOutOfRange "int"⟩

/-- A width or precision; one from the arguments takes an integer. -/
def sizeOf? (rule : SizeRule) : Option Size → Supply → Except TemplateError (Option Int × Supply)
  | none, s => .ok (none, s)
  | some (.given n), s => if n ≤ rule.limit then .ok (some n, s) else .error rule.tooLarge
  | some .fromArgument, s => do
    let (d, s) ← s.take
    match d.number? with
    | some (.whole n) =>
      if -(rule.limit : Int) - 1 ≤ n ∧ n ≤ rule.limit then return (some n, s)
      else .error rule.outOfRange
    | _ => .error .sizeNotInteger

/-- A directive filled, and what is left for the others. A negative width asks for the left. -/
def fillDirective (d : Directive) (s : Supply) : Except TemplateError (List Char × Supply) := do
  let s ← s.turnTo d.key
  let (width, s) ← sizeOf? widthRule d.width s
  let (precision, s) ← sizeOf? precisionRule d.precision s
  let some c := d.conversion | .error .cutShort
  let (datum, s) ← s.take
  let figure ← convert c d.place d.marks.alternate (precision.map Int.toNat) datum
  let w := width.getD 0
  return (figure.lay { d.marks with left := d.marks.left || decide (w < 0) } w.natAbs, s)

def fillPieces : List Piece → Supply → Except TemplateError (List Char)
  | [], .items (_ :: _) => .error .tooManyItems
  | [], _ => .ok []
  | .literal c :: ps, s => (fillPieces ps s).map (c :: ·)
  | .directive d :: ps, s => do
    let (text, s) ← fillDirective d s
    return text ++ (← fillPieces ps s)

def fill (template : List Char) (s : Supply) : Except TemplateError (List Char) :=
  fillPieces (Text.pieces template) s

/-- The supply of some arguments: a dictionary that is the only one serves as a mapping unless it
is empty. -/
def supplyOf : List Datum → Supply
  | [.dict (e :: es)] => .mapping (e :: es) (some (.dict (e :: es)))
  | items => .items items

/-- The text of a template with some arguments; without any, the template is the text. -/
def message (template : String) (arguments : List Datum) : Except TemplateError String :=
  if arguments.isEmpty then .ok template
  else (fill template.toList (supplyOf arguments)).map String.ofList

end Template
end TcpSessions
