import TcpSessions.Json.Value
import TcpSessions.Log.Line
import TcpSessions.Text.Upper
/-!
# Log configuration

Which loggers there are, their levels, and the console to which they write. The levels of the
library's own logger and of the root come from environment variables. A caller may add loggers,
and may replace the library's own one; their entries are kept as they were given.

| here | `observability.logging` |
| --- | --- |
| `LogConfig.ofOptions` | `build_log_config` |
| `LogConfig.levelFrom` | `_level` |
-/
namespace TcpSessions

/-- What a caller may choose about the log. Each choice but the loggers may also be taken away. -/
structure LogOptions where
  rootVariable : Option String := some "LOG_LEVEL"
  defaultLevel : Option String := some "INFO"
  /-- Entries of loggers, each meant to be a JSON object. -/
  extraLoggers : List (String × Json) := []
  stream : Option String := some "ext://sys.stderr"

/-- A choice without which there is no configuration. -/
inductive MissingOption
  | rootVariable | level
  deriving DecidableEq, Repr

structure LogConfig where
  /-- The entries of the loggers, in the order in which they are set up. -/
  loggers : List (String × Json)
  rootLevel : String
  stream : Option String

/-- The class name and the wording of what comes of a missing choice. -/
def MissingOption.report : MissingOption → String × String
  | rootVariable => ("TypeError", "str expected, not NoneType")
  | level => ("AttributeError", "'NoneType' object has no attribute 'upper'")

namespace LogConfig

def consoleLayout : LineLayout :=
  ⟨"%(asctime)s %(levelname)s %(name)s: %(message)s", some "%Y-%m-%dT%H:%M:%S"⟩

/-- The level that a variable of the environment asks for, in capitals. -/
def levelFrom (env : List (String × String)) (name : String) (otherwise : Option String) :
    Except MissingOption String :=
  match env.lookup name <|> otherwise with
  | some level => .ok (Text.upper level)
  | none => .error .level

/-- The entries after one is put under a name: in the place of an earlier one, or at the end. -/
def put (name : String) (entry : Json) : List (String × Json) → List (String × Json)
  | [] => [(name, entry)]
  | (n, e) :: rest => if n = name then (n, entry) :: rest else (n, e) :: put name entry rest

def consoleHandlers : Json := .array [.text "console"]

def ofOptions (env : List (String × String)) (o : LogOptions) : Except MissingOption LogConfig := do
  let level ← levelFrom env "ZTCP_LOG_LEVEL" o.defaultLevel
  let some rootVariable := o.rootVariable | .error .rootVariable
  let own : Json := .object [("level", .text level), ("handlers", consoleHandlers),
    ("propagate", .bool false)]
  return {
    loggers := o.extraLoggers.foldl (fun ls (name, entry) => put name entry ls) [("ztcp", own)]
    rootLevel := ← levelFrom env rootVariable o.defaultLevel
    stream := o.stream }

def document (c : LogConfig) : Json :=
  .object [
    ("version", .integer 1),
    ("disable_existing_loggers", .bool false),
    ("formatters", .object [("console", .object [
      ("()", .text "ExtrasFormatter"),
      ("format", .text consoleLayout.template),
      ("datefmt", .text (consoleLayout.time.getD ""))])]),
    ("handlers", .object [("console", .object [
      ("class", .text "logging.StreamHandler"),
      ("formatter", .text "console"),
      ("stream", c.stream.elim .null .text)])]),
    ("root", .object [("level", .text c.rootLevel), ("handlers", consoleHandlers)]),
    ("loggers", .object c.loggers)]

end LogConfig
end TcpSessions
