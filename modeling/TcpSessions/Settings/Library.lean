import TcpSessions.Json.Value
import TcpSessions.Settings.Basic
import TcpSessions.Text.Blank
/-!
# The library that settings rest on

Settings are declared: fields, each with a variable, a kind of values, bounds and a default. Where
the raw value of a field is looked for, and how raw values are read, is the business of a library
for settings and of a reader of environment files. Both are known by what they do only, and are
taken together as one parameter, `Settings.Library`.
-/
namespace TcpSessions.Settings

/-- Everything that settings are made from. The lists stand for mappings (`mapped?`). -/
structure Sources where
  given : List (String × Json) := []
  env : List (String × String) := []
  envFile : Option String := none

/-- The value that a mapping has under a name: of several entries the last one counts. -/
def mapped? {α : Type} (entries : List (String × α)) (name : String) : Option α :=
  entries.reverse.lookup name

def foldCase (name : String) : String := String.ofList (name.toList.map Text.lowerAscii)

/-- What the library and the reader do. -/
structure Library where
  /-- What values given directly hold for a variable. -/
  given? : List (String × Json) → String → Option Json
  /-- What an environment holds for a variable. -/
  envVar? : List (String × String) → String → Option String
  /-- The mapping that the text of an environment file stands for. A name may have no value there,
  and values may refer to the environment. -/
  entries : List (String × String) → String → List (String × Option String)
  /-- What such a mapping holds for a variable. -/
  entry? : List (String × Option String) → String → Option String
  /-- What all sources together hold for a variable. -/
  raw? : Sources → String → Option Json
  integer : Json → Except Defect Int
  boolean : Json → Except Defect Bool
  /-- Reads one of some texts. -/
  choice : List String → Json → Except Defect String
  text : Json → Except Defect String

def Sources.entry? (lib : Library) (s : Sources) (name : String) : Option String :=
  s.envFile.bind fun text => lib.entry? (lib.entries s.env text) name

end TcpSessions.Settings
