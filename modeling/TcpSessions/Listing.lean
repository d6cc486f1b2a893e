import TcpSessions.Text.Numeral
/-!
# Report lines

One row of the open-connection listing, and the lines that report it and a freshly opened
connection.

| here | `application.dto.connection`, `presentation` |
| --- | --- |
| `Listing`, `Listing.displayName` | `ConnectionListing`, `.display_name` |
| `Listing.line`, `openedLine` | `describe_listing`, `describe_opened` |
-/
namespace TcpSessions

/-- One row of the open-connection listing. -/
structure Listing where
  peerName : Option String
  peerPort : Int
  handle : Int
  isProtected : Bool
  peerAddress : Option String := none
  deriving DecidableEq, Repr

/-- The label that marks protected rows unless another is configured. -/
def Listing.managedLabel : String := "ZFTP"

/-- The name of the peer, a placeholder when it is unknown or empty. -/
def Listing.displayName (l : Listing) : String :=
  match l.peerName with
  | some n => if n = "" then "UNKNOWN" else n
  | none => "UNKNOWN"

/-- The report line of a row; a protected one ends with the label. -/
def Listing.line (l : Listing) (label : String := Listing.managedLabel) : String :=
  l.displayName ++ ":" ++ Text.intText l.peerPort ++ " is on fd " ++ Text.intText l.handle ++
    if l.isProtected then " " ++ label else ""

def openedLine (host : String) (port fd : Int) : String :=
  host ++ ":" ++ Text.intText port ++ " is now on fd " ++ Text.intText fd

end TcpSessions
