import TcpSessions.Text.Numeral
/-!
# Notices

What the library reports to its log, as one type: each notice knows its logger, its level, its
wording and the data that goes with it. They are the notices of `application.connection_manager`,
`infrastructure.net.resolver`, `runtime.bootstrap` and `config.settings`.
-/
namespace TcpSessions

/-- One value in the data of a notice. -/
inductive NoticeField
  | text (s : String)
  | number (n : Int)
  | absent
  deriving DecidableEq, Repr

def NoticeField.ofNumber? : Option Int → NoticeField
  | some n => number n
  | none => absent

inductive Severity
  | debug | info | warning
  deriving DecidableEq, Repr

def Severity.name : Severity → String
  | debug => "DEBUG"
  | info => "INFO"
  | warning => "WARNING"

/-- Something worth a line in the log. -/
inductive Notice
  | attemptFailed (peer : String) (port : Int) (errno : Option Int)
  | connected (host peer : String) (port fd : Int)
  | connectionFailed (host : String) (port : Int) (candidates : Nat)
  | connectCancelled (host peer : String) (fd : Int)
  | optionRefused (fd : Int) (errno : Option Int)
  | closeFailed (fd : Int) (errno : Option Int)
  | closed (fd : Int)
  | droppedAfterFailedClose (fd : Int) (errno : Option Int)
  | tornDown (count : Nat)
  | lookupFailed (host family error : String)
  | resolved (host : String) (candidates : Nat)
  | shutDown (removed : Nat)
  | settingsLoaded (shown : String)
  deriving DecidableEq, Repr

namespace Notice

def logger : Notice → String
  | lookupFailed .. | resolved .. => "ztcp.resolver"
  | shutDown _ => "ztcp.runtime"
  | settingsLoaded _ => "ztcp.settings"
  | _ => "ztcp.connections"

def severity : Notice → Severity
  | attemptFailed .. | closed _ | lookupFailed .. | resolved .. | shutDown _ => .debug
  | connected .. | connectCancelled .. | tornDown _ | settingsLoaded _ => .info
  | connectionFailed .. | optionRefused .. | closeFailed .. | droppedAfterFailedClose .. =>
    .warning

def message : Notice → String
  | attemptFailed .. => "connect attempt failed"
  | connected .. => "session connected"
  | connectionFailed .. => "connection failed"
  | connectCancelled .. => "connect cancelled"
  | optionRefused .. => "unable to enable inline out-of-band data"
  | closeFailed .. => "connection close failed"
  | closed _ => "session closed"
  | droppedAfterFailedClose .. => "dropping session after failed close"
  | tornDown _ => "tcp sessions torn down"
  | lookupFailed .. => "name lookup failed"
  | resolved .. => "resolved host"
  | shutDown _ => "ztcp runtime shut down"
  | settingsLoaded shown => "ztcp settings loaded: " ++ shown

/-- The data of a notice; a notice without any has none. -/
def data? : Notice → Option (List (String × NoticeField))
  | attemptFailed peer port errno =>
    some [("peer", .text peer), ("port", .number port), ("errno", .ofNumber? errno)]
  | connected host peer port fd =>
    some [("host", .text host), ("peer", .text peer), ("port", .number port), ("fd", .number fd)]
  | connectionFailed host port candidates =>
    some [("host", .text host), ("port", .number port), ("candidates", .number candidates)]
  | connectCancelled host peer fd =>
    some [("host", .text host), ("peer", .text peer), ("fd", .number fd)]
  | optionRefused fd errno | closeFailed fd errno | droppedAfterFailedClose fd errno =>
    some [("fd", .number fd), ("errno", .ofNumber? errno)]
  | closed fd => some [("fd", .number fd)]
  | tornDown count => some [("count", .number count)]
  | lookupFailed host family error =>
    some [("host", .text host), ("family", .text family), ("error", .text error)]
  | resolved host candidates => some [("host", .text host), ("candidates", .number candidates)]
  | shutDown removed => some [("removed", .number removed)]
  | settingsLoaded _ => none

end Notice
end TcpSessions
