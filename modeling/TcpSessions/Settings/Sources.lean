import TcpSessions.Settings.Library
/-!
# Settings from their sources

Each field is read from the raw value that the library finds for its variable; a field without one
keeps its default. If all fields can be read these are the settings, and otherwise every field that
cannot is reported.

| here | `config.settings` |
| --- | --- |
| `readPort`, `readFamily`, `readField` | the declarations of the fields of `ZtcpSettings` |
| `ofSources` | `ZtcpSettings`, `ZtcpSettings.load` |
-/
namespace TcpSessions.Settings

/-- A port number: an integer from 1 to 65535. -/
def readPort (lib : Library) (raw : Json) : Except Defect Int :=
  match lib.integer raw with
  | .error d => .error d
  | .ok n => if n < 1 then .error .tooSmall else if 65535 < n then .error .tooLarge else .ok n

def readFamily (lib : Library) (raw : Json) : Except Defect FamilyChoice :=
  match lib.choice (FamilyChoice.all.map FamilyChoice.name) raw with
  | .error d => .error d
  | .ok name => (FamilyChoice.ofName? name).elim (.error .notAChoice) .ok

/-- A field read from its raw value, or its default. -/
def readField {α : Type} (read : Json → Except Defect α) (default : α) : Option Json →
    Except Defect α
  | some raw => read raw
  | none => .ok default

def issue? {α : Type} (f : Field) : Except Defect α → Option Issue
  | .ok _ => none
  | .error d => some ⟨f, d⟩

/-- The settings that some sources make, or every field that is not acceptable. -/
def ofSources (lib : Library) (s : Sources) : Except (List Issue) Settings :=
  let base : Settings := {}
  let raw? (f : Field) : Option Json := lib.raw? s f.variable
  let port := readField (readPort lib) base.defaultPort (raw? .defaultPort)
  let family := readField (readFamily lib) base.addressFamily (raw? .addressFamily)
  let urgent := readField lib.boolean base.oobInline (raw? .oobInline)
  let label := readField lib.text base.managedLabel (raw? .managedLabel)
  match port, family, urgent, label with
  | .ok defaultPort, .ok addressFamily, .ok oobInline, .ok managedLabel =>
    .ok { defaultPort, addressFamily, oobInline, managedLabel }
  | _, _, _, _ =>
    .error ((issue? .defaultPort port).toList ++ (issue? .addressFamily family).toList
      ++ (issue? .oobInline urgent).toList ++ (issue? .managedLabel label).toList)

end TcpSessions.Settings
