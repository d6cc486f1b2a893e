import TcpSessions.Settings.EnvFile
import TcpSessions.Settings.Library
import TcpSessions.Settings.Reading
/-!
# The library in use

`Library.standard` answers as the library answers that programs are run with. Names are compared
without regard to letter case, but among the values given directly one under the exact name wins.
-/
namespace TcpSessions.Settings

/-- The last value listed under a name, in any letter case. -/
def lookupFolded {α : Type} (name : String) (entries : List (String × α)) : Option α :=
  (entries.reverse.find? fun e => foldCase e.1 = foldCase name).map (·.2)

/-- The value listed under a name: under exactly this one, or in another letter case. -/
def lookupName {α : Type} (name : String) (entries : List (String × α)) : Option α :=
  mapped? entries name <|> lookupFolded name entries

def lookupEntry (entries : List (String × Option String)) (name : String) : Option String :=
  (lookupFolded name entries).join

def Library.standard : Library where
  given? := fun given name => lookupName name given
  envVar? := fun env name => lookupFolded name env
  entries := EnvFile.entries
  entry? := lookupEntry
  raw? := fun s name =>
    lookupName name s.given
      <|> (lookupFolded name s.env).map Json.text
      <|> (s.envFile.bind fun text => lookupEntry (EnvFile.entries s.env text) name).map Json.text
  integer := readInteger
  boolean := readBool
  choice := readListed
  text := readText

end TcpSessions.Settings
