import TcpSessions.Calendar.Layout
import TcpSessions.Log.Encoded
import TcpSessions.Log.Sanitised
import TcpSessions.Log.Template
import TcpSessions.Log.Trace
import TcpSessions.Text.Digit
import TcpSessions.Text.Word
/-!
# Log lines

A `LogRecord` is one thing to be logged. It is written in one of two ways: as a JSON object on one
line (`LogRecord.jsonLine`), or after a layout with the data behind it (`LogRecord.plainLine`).

| here | `observability.logging` |
| --- | --- |
| `asksForJson` | `_should_emit_json_payload` |
| `LogRecord.json` | `_structured_payload` |
| `LogRecord.line` | `ExtrasFormatter.format` |
-/
namespace TcpSessions

def usualLevels : List (Int × String) :=
  [(50, "CRITICAL"), (40, "ERROR"), (30, "WARNING"), (20, "INFO"), (10, "DEBUG"), (0, "NOTSET")]

/-- The name of a level. One without a name of its own is taken to be short enough to be written. -/
def levelName (level : Int) : String :=
  (usualLevels.lookup level).getD ("Level " ++ Text.intText level)

structure LogRecord where
  logger : String
  level : Int
  /-- The name of the level, which may have been given another one. -/
  severity : String := levelName level
  template : String
  arguments : List Datum := []
  /-- Seconds since the start of 1970. -/
  created : Number
  /-- The part of the second, in thousandths. -/
  milliseconds : Number
  /-- The data that goes with the record, if the caller gave any. -/
  given : Option Datum := none
  failure : Option Failure := none
  /-- The place in the program, as text. -/
  stack : Option String := none

inductive LineError
  | template (error : TemplateError)
  /-- The data, or the thousandths, cannot be written. -/
  | noText (error : TextError)
  | noSuchField (name : String)
  /-- A layout without any field. -/
  | badLayout (layout : String)
  | timeNotANumber
  | timeOutOfRange
  /-- A year that the calendar of the system does not hold. -/
  | yearTooLarge
  /-- A year that the calendar holds but that cannot be written. -/
  | yearOutOfRange
  /-- A layout for the time with a null character. -/
  | nullInLayout
  deriving DecidableEq, Repr

def LineError.message : LineError → String
  | template e => e.message
  | noText e => e.message
  | noSuchField n => "Formatting field not found in record: " ++ Text.quotedText n
  | badLayout l => "Invalid format '" ++ l ++ "' for '%' style"
  | timeNotANumber => "Invalid value NaN (not a number)"
  | timeOutOfRange => "timestamp out of range for platform time_t"
  | yearTooLarge => "[Errno 75] " ++ Errno.text 75
  | yearOutOfRange => "signed integer is greater than maximum"
  | nullInLayout => "embedded null character"

def LineError.name : LineError → String
  | template e => e.name
  | noText e => e.name
  | noSuchField _ | badLayout _ | timeNotANumber | nullInLayout => "ValueError"
  | timeOutOfRange | yearOutOfRange => "OverflowError"
  | yearTooLarge => "OSError"

def LineError.errno? : LineError → Option Int
  | yearTooLarge => some 75
  | _ => none

/-- Whether an environment asks for JSON lines. -/
def asksForJson (env : List (String × String)) : Bool :=
  let answer := (Text.trim ((env.lookup "ZTCP_LOG_JSON").getD "").toList).map Text.lowerAscii
  ["1", "true", "yes"].contains (String.ofList answer)

def secondOf (time : Number) : Except LineError Int :=
  let inRange (n : Int) : Except LineError Int :=
    if n < -0x8000000000000000 ∨ 0x8000000000000000 ≤ n then .error .timeOutOfRange
    else
      let year := (Date.ofDays (n.fdiv 86400)).year - 1900
      if -0x80000000 ≤ year ∧ year < 0x80000000 then .ok n else .error .yearTooLarge
  match time with
  | .whole n => inRange n
  | .real .nan => .error .timeNotANumber
  | .real (.infinite _) => .error .timeOutOfRange
  | .real x => (x.floor?.map fun (n, _) => n).elim (.error .timeOutOfRange) inRange

namespace LogRecord

def message (r : LogRecord) : Except LineError String :=
  (Template.message r.template r.arguments).mapError .template

/-- The data of a record; a record without any has nothing there. -/
def data (r : LogRecord) : Datum := r.given.getD .absent

/-- When a record was made, after a layout. Years are written as far as thirty-one bits reach. -/
def time (r : LogRecord) (layout : String) : Except LineError String := do
  let moment := Moment.ofSeconds (← secondOf r.created)
  if 0x80000000 ≤ moment.date.year then .error .yearOutOfRange
  else if layout.toList.contains '\x00' then .error .nullInLayout
  else return String.ofList (moment.text layout.toList)

/-- The thousandths of a record in three digits. -/
def thousandths (r : LogRecord) : Except LineError String := do
  let n ← r.milliseconds.truncated.mapError .template
  if Text.isWritable n then
    return String.ofList ((Template.integerFigure [] (Text.digits n.natAbs) none n).lay
      { zero := true } 3)
  else .error (.noText .integerTooLong)

/-- The data of a record as JSON, made fit for it. -/
def jsonData (r : LogRecord) : Except TextError Json := r.data.jsonCopy Datum.usualDepth

def withoutEndBreaks (s : String) : String :=
  String.ofList (s.toList.reverse.dropWhile (· = '\n')).reverse

def json (r : LogRecord) : Except LineError Json := do
  let message ← r.message
  let timestamp := (← r.time "%Y-%m-%dT%H:%M:%S") ++ "." ++ (← r.thousandths) ++ "Z"
  let data ←
    if r.data.isVoid then pure []
    else (r.jsonData.mapError .noText).map fun v => [("data", v)]
  let failure := r.failure.toList.map fun f => ("exception", Json.text (withoutEndBreaks f.trace))
  return .object (data ++ failure ++ [("logger", .text r.logger), ("message", .text message),
    ("severity", .text r.severity), ("timestamp", .text timestamp)])

/-- The JSON line of a record. -/
def jsonLine (r : LogRecord) : Except LineError String := do
  (← r.json).write.mapError .noText

end LogRecord

/-- How plain lines are laid out: a template over the fields of a record, and a layout for the
time. -/
structure LineLayout where
  template : String
  time : Option String
  deriving DecidableEq, Repr

namespace LineLayout

def messageOnly : LineLayout := ⟨"%(message)s", none⟩

/-- Whether a letter names a conversion, in either case; three letters beyond ASCII count as
forms of those that they fold to. -/
def isConversion (c : Char) : Bool :=
  "diouxefgcrsa%İıſ".toList.contains (Text.lowerAscii c)

def afterSize? (s : List Char) : Option (List Char) :=
  match s with
  | '*' :: r => some r
  | c :: r => if Text.isDigit c then some (r.dropWhile Text.isDigit) else none
  | [] => none

/-- Whether a text starts with a field: a percent sign and a key of word characters, then marks,
a width, a precision and a conversion. -/
def startsWithField : List Char → Bool
  | '%' :: '(' :: r =>
    let key := r.takeWhile Text.isWord
    match r.dropWhile Text.isWord with
    | ')' :: r =>
      let r := r.dropWhile Text.isMark
      let r := (afterSize? r).getD r
      let r := match r with
        | '.' :: s => (afterSize? s).getD r
        | _ => r
      !key.isEmpty && r.head?.any isConversion
    | _ => false
  | _ => false

def hasField : List Char → Bool
  | [] => false
  | c :: r => startsWithField (c :: r) || hasField r

/-- The layout with a template and a layout for the time; an empty one counts as none. -/
def ofTexts (template time : Option String) : Except LineError LineLayout :=
  let given (s : Option String) : Option String := s.filter fun t => !t.isEmpty
  let template := (given template).getD messageOnly.template
  if hasField template.toList then .ok ⟨template, given time⟩ else .error (.badLayout template)

/-- The time of a record; without a layout of its own it shows thousandths. -/
def timeText (l : LineLayout) (r : LogRecord) : Except LineError String :=
  match l.time with
  | some layout => r.time layout
  | none => do return (← r.time "%Y-%m-%d %H:%M:%S") ++ "," ++ (← r.thousandths)

def showsTime : List Char → Bool
  | [] => false
  | c :: r => "%(asctime)".toList.isPrefixOf (c :: r) || showsTime r

def argumentsOf (r : LogRecord) : Datum :=
  match Template.supplyOf r.arguments with
  | .mapping entries _ => .dict entries
  | .items items => .tuple items

/-- The failure of a record as one datum: its class, itself, and the place in the program, of which
nothing is known. -/
def failureOf (r : LogRecord) : Datum :=
  match r.failure with
  | some f => .tuple [.unknown f.reason.shownClass, .unknown f.reason.shown, .absent]
  | none => .absent

/-- The fields of a record that a layout may show; the time only if it does show it. -/
def fields (l : LineLayout) (r : LogRecord) : Except LineError (List (String × Datum)) := do
  let message ← r.message
  let always := [("name", .text r.logger), ("msg", .text r.template), ("args", argumentsOf r),
    ("levelname", .text r.severity), ("levelno", .integer r.level),
    ("exc_info", failureOf r), ("exc_text", .absent), ("stack_info", .ofText? r.stack),
    ("lineno", .integer 1), ("funcName", .absent), ("created", .number r.created),
    ("msecs", .number r.milliseconds), ("threadName", .text "MainThread"),
    ("processName", .text "MainProcess"), ("message", .text message)]
  let data := r.given.toList.map fun d => ("data", d)
  if showsTime l.template.toList then
    let time ← l.timeText r
    return ("asctime", .text time) :: always ++ data
  else return always ++ data

end LineLayout

namespace LogRecord

def onNewLine (s t : String) : String :=
  if s.toList.getLast? = some '\n' then s ++ t else s ++ "\n" ++ t

/-- A record after a layout, without its data. -/
def laidOut (r : LogRecord) (l : LineLayout) : Except LineError String := do
  let fields ← l.fields r
  let head ← match Template.fill l.template.toList (Template.supplyOf [.ofFields fields]) with
    | .ok s => .ok (String.ofList s)
    | .error (.noSuchKey k) => .error (.noSuchField k)
    | .error e => .error (.template e)
  let withFailure := match r.failure with
    | some f => onNewLine head f.trace
    | none => head
  return match r.stack with
    | some s => if s.isEmpty then withFailure else onNewLine withFailure s
    | none => withFailure

/-- The data of a record as plain text: as JSON if all of it has a JSON form, else as it stands in
running text. Either way every integer in it is written. -/
def plainData (r : LogRecord) : Except TextError String :=
  if r.data.isWritable then
    .ok (String.ofList ((r.data.json?.map Json.encode).getD r.data.plain))
  else .error .integerTooLong

/-- The plain line of a record. -/
def plainLine (r : LogRecord) (l : LineLayout) : Except LineError String := do
  let line ← r.laidOut l
  if r.data.isVoid then return line
  else return line ++ " | data=" ++ (← r.plainData.mapError .noText)

def line (r : LogRecord) (asJson : Bool) (l : LineLayout) : Except LineError String :=
  if asJson then r.jsonLine else r.plainLine l

end LogRecord
end TcpSessions
