import TcpSessions.Address.Family
import TcpSessions.Listing
import TcpSessions.Session.Record
import TcpSessions.Text.Quoted
/-!
# Settings

The defaults that apply when a caller leaves connection parameters out, the variables that set
them, and what can be wrong with a variable's value.

| here | `config.settings` |
| --- | --- |
| `Settings`, `Settings.Field` | the fields of `ZtcpSettings` |
| `Settings.family` | `ZtcpSettings.family` |
-/
namespace TcpSessions

inductive FamilyChoice
  | inet | inet6
  deriving DecidableEq, Repr

namespace FamilyChoice

def all : List FamilyChoice := [inet, inet6]

def name : FamilyChoice → String
  | inet => "inet"
  | inet6 => "inet6"

def ofName? (name : String) : Option FamilyChoice := all.find? fun c => c.name = name

def family : FamilyChoice → Family
  | inet => .inet
  | inet6 => .inet6

end FamilyChoice

/-- Defaults for connection parameters. -/
structure Settings where
  defaultPort : Int := telnetPort
  addressFamily : FamilyChoice := .inet
  oobInline : Bool := true
  managedLabel : String := Listing.managedLabel
  deriving DecidableEq, Repr

namespace Settings

/-- The fields of the settings, in the order in which they are declared. -/
inductive Field
  | defaultPort | addressFamily | oobInline | managedLabel
  deriving DecidableEq, Repr

def Field.all : List Field := [.defaultPort, .addressFamily, .oobInline, .managedLabel]

def Field.variable : Field → String
  | defaultPort => "ZTCP_DEFAULT_PORT"
  | addressFamily => "ZTCP_ADDRESS_FAMILY"
  | oobInline => "ZTCP_OOB_INLINE"
  | managedLabel => "ZTCP_MANAGED_LABEL"

inductive Defect
  | intParsing | intParsingSize | intFromFloat | intType | notFinite | tooSmall | tooLarge
  | boolParsing | boolType | notAChoice | stringType
  deriving DecidableEq, Repr

def Defect.name : Defect → String
  | intParsing => "int_parsing"
  | intParsingSize => "int_parsing_size"
  | intFromFloat => "int_from_float"
  | intType => "int_type"
  | notFinite => "finite_number"
  | tooSmall => "greater_than_equal"
  | tooLarge => "less_than_equal"
  | boolParsing => "bool_parsing"
  | boolType => "bool_type"
  | notAChoice => "literal_error"
  | stringType => "string_type"

def Defect.message : Defect → String
  | intParsing => "Input should be a valid integer, unable to parse string as an integer"
  | intParsingSize => "Unable to parse input string as an integer, exceeded maximum size"
  | intFromFloat => "Input should be a valid integer, got a number with a fractional part"
  | intType => "Input should be a valid integer"
  | notFinite => "Input should be a finite number"
  | tooSmall => "Input should be greater than or equal to 1"
  | tooLarge => "Input should be less than or equal to 65535"
  | boolParsing => "Input should be a valid boolean, unable to interpret input"
  | boolType => "Input should be a valid boolean"
  | notAChoice => "Input should be 'inet' or 'inet6'"
  | stringType => "Input should be a valid string"

/-- A field whose value is not acceptable. -/
structure Issue where
  field : Field
  defect : Defect
  deriving DecidableEq, Repr

/-- How the settings are shown in the log. -/
def shown (s : Settings) : String :=
  "ZtcpSettings(default_port=" ++ Text.intText s.defaultPort
    ++ ", address_family=" ++ Text.quotedText s.addressFamily.name
    ++ ", oob_inline=" ++ (if s.oobInline then "True" else "False")
    ++ ", managed_label=" ++ Text.quotedText s.managedLabel ++ ")"

def family (s : Settings) : Family := s.addressFamily.family

end Settings
end TcpSessions
