import TcpSessions.Log.Config
/-!
# Loggers

Loggers form a tree by their dotted names, with the root above all. A logger stands below the
nearest of those above it by name that has come to be. A record goes to the handlers of its logger
and of those above it, as far up as loggers pass records on; it is written once for each. Without
any handler a serious record is written bare.

`Loggers.ofConfig` sets up a tree, and `Loggers.log` is the text that a record leaves.

| here | `observability.logging` |
| --- | --- |
| `logAll` | `configure_logging`, and logging after it |
-/
namespace TcpSessions

/-- A level as it was set: a number, or a truth value that counts as one. -/
inductive LoggerLevel
  | number (n : Int)
  | truth (b : Bool)
  deriving DecidableEq, Repr

def LoggerLevel.toInt : LoggerLevel → Int
  | number n => n
  | truth b => if b then 1 else 0

/-- What a logger is set to. The level zero means the level of the logger above. -/
structure LoggerState where
  level : LoggerLevel := .number 0
  /-- What decides whether records are passed on: any value, of which the empty ones mean no. -/
  propagate : Json := .bool true
  hasConsole : Bool := false

/-- The loggers that there are, the latest first, and what they remember of themselves. -/
structure Loggers where
  root : LoggerState := { level := .number 30 }
  named : List (String × LoggerState) := []
  /-- Whether a logger takes records of a level, found out when it was first asked. -/
  remembered : List ((String × Int) × Bool) := []

/-- What an entry of a configuration may attach to a logger. -/
inductive Attachment
  | handler | filter
  deriving DecidableEq, Repr

def Attachment.word : Attachment → String
  | handler => "handler"
  | filter => "filter"

/-- What is wrong with an entry of a configuration. An attachment is named as it is shown. -/
inductive LoggerFault
  | notAnEntry (kind : String)
  | unknownLevel (shown : String)
  | notALevel (shown : String)
  /-- Something of a kind that cannot be gone through in place of names. -/
  | notAList (kind : String)
  | unknown (what : Attachment) (shown : String)
  /-- Something of a kind that names nothing. -/
  | notAName (what : Attachment) (shown kind : String)
  deriving DecidableEq, Repr

inductive LogConfigError
  | options (missing : MissingOption)
  /-- A logger, or without a name the root. -/
  | logger (name : Option String) (fault : LoggerFault)
  deriving DecidableEq, Repr

/-- The class and the wording of a fault, then of what it came from. -/
def LoggerFault.report : LoggerFault → List (String × String)
  | notAnEntry k => [("AttributeError", "'" ++ k ++ "' object has no attribute 'get'")]
  | unknownLevel s => [("ValueError", "Unknown level: " ++ s)]
  | notALevel s => [("TypeError", "Level not an integer or a valid string: " ++ s)]
  | notAList k => [("TypeError", "'" ++ k ++ "' object is not iterable")]
  | unknown a s => [("ValueError", "Unable to add " ++ a.word ++ " " ++ s), ("KeyError", s)]
  | notAName a s k =>
    [("ValueError", "Unable to add " ++ a.word ++ " " ++ s),
     ("TypeError", "unhashable type: '" ++ k ++ "'")]

def LogConfigError.report : LogConfigError → List (String × String)
  | options m => [m.report]
  | logger (some name) f =>
    ("ValueError", "Unable to configure logger " ++ Text.quotedText name) :: f.report
  | logger none f => ("ValueError", "Unable to configure root logger") :: f.report

def namedLevels : List (String × Int) :=
  [("CRITICAL", 50), ("FATAL", 50), ("ERROR", 40), ("WARNING", 30), ("WARN", 30), ("INFO", 20),
   ("DEBUG", 10), ("NOTSET", 0)]

def Json.shown (v : Json) : String := String.ofList (Datum.ofJson v).shown

def Json.kind (v : Json) : String := (Datum.ofJson v).kind

def Json.isVoid (v : Json) : Bool := (Datum.ofJson v).isVoid

def readLevel : Json → Except LoggerFault LoggerLevel
  | .integer n => .ok (.number n)
  | .bool b => .ok (.truth b)
  | .text s =>
    match namedLevels.lookup s with
    | some n => .ok (.number n)
    | none => .error (.unknownLevel (Text.quotedText s))
  | v => .error (.notALevel v.shown)

/-- What an entry lists as handlers or filters: the items of a list, the keys of an object, the
characters of a text; nothing if the value is empty. -/
def readNames (v : Json) : Except LoggerFault (List Json) :=
  if v.isVoid then .ok []
  else
    match v with
    | .array items => .ok items
    | .object members => .ok (members.map fun m => .text m.1)
    | .text s => .ok (s.toList.map fun c => .text c.toString)
    | v => .error (.notAList v.kind)

def unknownName (what : Attachment) : Json → LoggerFault
  | .array items => .notAName what (Json.array items).shown "list"
  | .object members => .notAName what (Json.object members).shown "dict"
  | v => .unknown what v.shown

/-- Whether the handlers of an entry hold the console; there is no other. -/
def readHandlers : List Json → Except LoggerFault Bool
  | [] => .ok false
  | .text "console" :: rest => (readHandlers rest).map fun _ => true
  | v :: _ => .error (unknownName .handler v)

/-- Checks the filters of an entry: there are none to name. -/
def readFilters : List Json → Except LoggerFault Unit
  | [] => .ok ()
  | v :: _ => .error (unknownName .filter v)

namespace LoggerState

def passesOn (s : LoggerState) : Bool := !s.propagate.isVoid

def setting? (entry : Json) (name : String) : Option Json :=
  (entry.member? name).filter fun v => match v with
    | .null => false
    | _ => true

/-- A logger after an entry is applied: what the entry leaves out stays, but for the handlers. -/
def apply (entry : Json) (s : LoggerState) : Except LoggerFault LoggerState := do
  let .object _ := entry | .error (.notAnEntry (match entry with
    | .array _ => "ConvertingList"
    | v => v.kind))
  let level ← (setting? entry "level").elim (pure s.level) readLevel
  let hasConsole ← readHandlers (← readNames ((setting? entry "handlers").getD .null))
  readFilters (← readNames ((setting? entry "filters").getD .null))
  return { level, hasConsole, propagate := (setting? entry "propagate").getD s.propagate }

end LoggerState

namespace Loggers

def isRoot (name : String) : Bool := name = "root" || name = ""

def get (ls : Loggers) (name : String) : LoggerState :=
  if isRoot name then ls.root else (ls.named.lookup name).getD {}

/-- The loggers once there is one of a name. -/
def ensure (ls : Loggers) (name : String) : Loggers :=
  if isRoot name ∨ (ls.named.lookup name).isSome then ls
  else { ls with named := (name, {}) :: ls.named }

def set (ls : Loggers) (name : String) (s : LoggerState) : Loggers :=
  if isRoot name then { ls with root := s }
  else
    let ls := ls.ensure name
    { ls with named := ls.named.map fun (n, old) => if n = name then (n, s) else (n, old) }

def applyAll : List (String × Json) → Loggers → Except LogConfigError Loggers
  | [], ls => .ok ls
  | (name, entry) :: rest, ls =>
    match (ls.get name).apply entry with
    | .ok s => applyAll rest (ls.set name s)
    | .error fault => .error (.logger (some name) fault)

/-- The tree that a configuration sets up: the loggers in their order, then the root. -/
def ofConfig (c : LogConfig) : Except LogConfigError Loggers := do
  let ls ← applyAll c.loggers {}
  let entry : Json := .object [("level", .text c.rootLevel), ("handlers", LogConfig.consoleHandlers)]
  match ls.root.apply entry with
  | .ok s => return { ls with root := s }
  | .error fault => .error (.logger none fault)

/-- The places at which a name is cut, the last first: at dots, but at neither of two neighbours of
which the latter is a cut, and not at its start. -/
def cutPlaces (name : List Char) : List Nat :=
  let rec go (bound : Nat) : List Nat → List Nat
    | [] => []
    | i :: r => if i < bound then i :: go (i - 1) r else go bound r
  let dots := (List.range name.length).filter fun i => name[i]? = some '.'
  (go name.length dots.reverse).filter (0 < ·)

/-- The names above a dotted name, the nearest first. -/
def namesAbove (name : String) : List String :=
  (cutPlaces name.toList).map fun i => String.ofList (name.toList.take i)

/-- The loggers that came to be before a name, the latest first. -/
def olderThan (name : String) (named : List (String × LoggerState)) : List (String × LoggerState) :=
  (named.dropWhile fun e => e.1 ≠ name).drop 1

/-- The loggers above a name, the nearest first, without the root. One that came later takes its
place in between, unless its name is a start of the root's: then it is taken for one that is
there already. -/
def above (ls : Loggers) (name : String) : Nat → List LoggerState
  | 0 => []
  | bound + 1 =>
    let isAbove (n : String) : Bool :=
      ((if "root".startsWith n then olderThan name ls.named else ls.named).lookup n).isSome
    match (namesAbove name).find? isAbove with
    | some n => ls.get n :: ls.above n bound
    | none => []

def line (ls : Loggers) (name : String) : List LoggerState :=
  if isRoot name then [ls.root] else ls.get name :: ls.above name name.length ++ [ls.root]

/-- The level below which a logger drops records. -/
def effectiveLevel (ls : Loggers) (name : String) : LoggerLevel :=
  (((ls.line name).map (·.level)).find? fun l => l.toInt ≠ 0).getD (.number 0)

/-- Whether a logger takes records of a level: as it remembers, or as it finds now. -/
def takes (ls : Loggers) (name : String) (level : Int) : Bool :=
  (ls.remembered.lookup (name, level)).getD
    (decide (0 < level ∧ (ls.effectiveLevel name).toInt ≤ level))

/-- How many consoles a record meets on its way up. -/
def consolesOn : List LoggerState → Nat
  | [] => 0
  | s :: above => (if s.hasConsole then 1 else 0) + if s.passesOn then consolesOn above else 0

/-- The least level of a record that is written bare where there is no handler. -/
def bareLevel : Int := 30

def lineOrNothing (line : Except LineError String) : String :=
  match line with
  | .ok s => s ++ "\n"
  | .error _ => ""

def written (ls : Loggers) (asJson : Bool) (r : LogRecord) : String :=
  match consolesOn (ls.line r.logger) with
  | 0 => if bareLevel ≤ r.level then lineOrNothing (r.laidOut .messageOnly) else ""
  | n + 1 =>
    String.join (List.replicate (n + 1) (lineOrNothing (r.line asJson LogConfig.consoleLayout)))

/-- What a record leaves on the console, and the loggers after it. -/
def log (ls : Loggers) (asJson : Bool) (r : LogRecord) : String × Loggers :=
  let ls := ls.ensure r.logger
  let taken := ls.takes r.logger r.level
  (if taken then ls.written asJson r else "",
    { ls with remembered := ((r.logger, r.level), taken) :: ls.remembered })

def logAll (ls : Loggers) (asJson : Bool) : List LogRecord → String × Loggers
  | [] => ("", ls)
  | r :: rest =>
    let (text, ls) := ls.log asJson r
    let (texts, ls) := ls.logAll asJson rest
    (text ++ texts, ls)

end Loggers

structure LogEntry where
  logger : String
  level : Int
  template : String
  arguments : List Datum := []
  given : Option Datum := none

/-- The thousandths of a second in a time: its fraction times a thousand, rounded as a
floating-point number and cut. -/
def millisecondsOf : Number → Int
  | .real (.finite negative m e) =>
    if 0 ≤ e then 0
    else
      let whole := Nat.pow 2 e.natAbs
      match (Binary64.nearest negative (m % whole * 1000) whole).truncated with
      | .ok n => n
      | .error _ => 0
  | _ => 0

def LogEntry.record (e : LogEntry) (now : Number) : LogRecord where
  logger := if Loggers.isRoot e.logger then "root" else e.logger
  level := e.level
  template := e.template
  arguments := e.arguments
  created := now
  milliseconds := .whole (millisecondsOf now)
  given := e.given

def configuredEntry : LogEntry := ⟨"ztcp.observability", 10, "configured logging", [], none⟩

/-- Sets up the log in an environment and logs some entries at one time: what is then on the
console, and the loggers. -/
def logAll (env : List (String × String)) (o : LogOptions) (now : Number)
    (entries : List LogEntry) : Except LogConfigError (String × Loggers) := do
  let config ← (LogConfig.ofOptions env o).mapError .options
  let ls ← Loggers.ofConfig config
  return ls.logAll (asksForJson env) ((configuredEntry :: entries).map (·.record now))

end TcpSessions
