import TcpSessions.Errno
import TcpSessions.Peer
import TcpSessions.Session.Record
import TcpSessions.Text.Quoted
/-!
# Failures

What can go wrong, by cause, with the wording in one place. A failure may name the failure it was
raised from (`cause`) and the one that was being handled at the time (`context`).

`Reason.message` words a reason, `Reason.errno?` is the system error code it carries, and
`Reason.isA` says to which wider classes it belongs: callers decide by class what they handle.

| here | `errors` |
| --- | --- |
| `Reason` | `ZtcpError` and the classes below it |
| `Reason.message` | what their constructors word |
| `withErrno` | `OsBackedError` |
| `Failure.errnoOr` | `errno_of` |
-/
namespace TcpSessions

/-- What a failure of the system or of a caller says about itself. -/
inductive Detail
  | nothing
  | text (words : String)
  | coded (errno : Int) (words : String)
  deriving DecidableEq, Repr

inductive SystemKind
  | general | interrupted | refused | timedOut | wouldBlock | permission | noSuchFile
  | noSuchProcess | childProcess | fileExists | notADirectory | isADirectory | brokenPipe
  | aborted | reset
  /-- A failed lookup of a name. -/
  | nameLookup
  /-- A failed lookup of an address. -/
  | addressLookup
  deriving DecidableEq, Repr

def SystemKind.ofErrno (n : Int) : SystemKind :=
  if n = 1 ∨ n = 13 then permission
  else if n = 2 then noSuchFile
  else if n = 3 then noSuchProcess
  else if n = 4 then interrupted
  else if n = 10 then childProcess
  else if n = 11 ∨ n = 114 ∨ n = 115 then wouldBlock
  else if n = 17 then fileExists
  else if n = 20 then notADirectory
  else if n = 21 then isADirectory
  else if n = 32 ∨ n = 108 then brokenPipe
  else if n = 103 then aborted
  else if n = 104 then reset
  else if n = 110 then timedOut
  else if n = 111 then refused
  else general

/-- Kinds of failure that do not come from the system. -/
inductive FaultKind
  | value | type | runtime | overflow | unicode | lookup
  deriving DecidableEq, Repr

inductive Reason
  | system (kind : SystemKind) (detail : Detail)
  /-- Anything else that an external call failed with. -/
  | fault (kind : FaultKind) (detail : Detail)
  | resolution (host : String) (detail : Option String)
  | socketCreation (errno : Option Int)
  /-- Every candidate refused or failed the connect, or it was cancelled. -/
  | connection (session : Int) (errno : Option Int) (cancelled : Bool)
  | closing (handle : Int) (errno : Option Int)
  | handleNotFound (handle : Int)
  | protectedHandle (handle : Int)
  | notOpen
  /-- A failure that carries a system code, in a caller's words. -/
  | osBacked (words : String) (errno : Option Int)
  /-- A failure of the connection manager, in a caller's words. -/
  | managerFault (words : String)
  | portOutOfRange (port : Int)
  | unknownFamily (number : Int)
  | peer (error : PeerError)
  | lifecycle (error : LifecycleError)
  /-- A number does not fit the width in which the system takes it. -/
  | numberTooWide
  | illegalAddressText
  | embeddedNul
  | signalOutOfRange
  /-- A request names a session that was never created. -/
  | noSuchSession (number : Int)
  deriving DecidableEq, Repr

/-- A failure with the failures that led to it. -/
structure Failure where
  reason : Reason
  cause : Option Failure := none
  context : Option Failure := none

instance : Inhabited Failure := ⟨⟨.notOpen, none, none⟩⟩

/-- The classes that callers tell apart. -/
inductive FailureClass
  | manager | osBacked | runtime | lookup | system | interrupted | value
  deriving DecidableEq, Repr

/-- The text of a detail: a code is put in front of its words. -/
def Detail.systemText : Detail → String
  | nothing => ""
  | text w => w
  | coded n w => "[Errno " ++ Text.intText n ++ "] " ++ w

/-- The text of a detail outside system failures: a code and its words show as a pair. -/
def Detail.faultText : Detail → String
  | nothing => ""
  | text w => w
  | coded n w => "(" ++ Text.intText n ++ ", " ++ Text.quotedText w ++ ")"

def Detail.errno? : Detail → Option Int
  | coded n _ => some n
  | _ => none

def Detail.strerror? : Detail → Option String
  | coded _ w => some w
  | _ => none

/-- `words`, followed by the text of a system code when there is one. -/
def withErrno (words : String) : Option Int → String
  | none => words
  | some n => words ++ ": " ++ Errno.text n

namespace Reason

/-- The wording of a reason. Its numbers are taken to be short enough to be written
(`Text.isWritable`): handles, ports, families and the codes of failures from outside. -/
def message : Reason → String
  | system _ d => d.systemText
  | fault _ d => d.faultText
  | resolution host detail =>
    "host resolution failure: " ++ host ++
      match detail with
      | some d => if d = "" then "" else " (" ++ d ++ ")"
      | none => ""
  | socketCreation e => withErrno "socket creation failed" e
  | connection _ e c => withErrno (if c then "connection cancelled" else "connection failed") e
  | closing h e => withErrno ("connection close failed on fd " ++ Text.intText h) e
  | handleNotFound h => "fd " ++ Text.intText h ++ " not found in tcp table"
  | protectedHandle h =>
    "fd " ++ Text.intText h ++ " is a managed connection; use force to close it"
  | notOpen => "session is not open"
  | osBacked w e => withErrno w e
  | managerFault w => w
  | portOutOfRange p => "port out of range: " ++ Text.intText p
  | unknownFamily n => Text.intText n ++ " is not a valid AddressFamily"
  | peer e => e.message
  | lifecycle e => e.message
  | numberTooWide => "Python int too large to convert to C int"
  | illegalAddressText => "illegal IP address string passed to inet_pton"
  | embeddedNul => "embedded null character"
  | signalOutOfRange => "signal number out of range"
  | noSuchSession n => Text.intText n

/-- The class name under which a reason is reported. -/
def name : Reason → String
  | system .general _ => "OSError"
  | system .interrupted _ => "InterruptedError"
  | system .refused _ => "ConnectionRefusedError"
  | system .timedOut _ => "TimeoutError"
  | system .wouldBlock _ => "BlockingIOError"
  | system .permission _ => "PermissionError"
  | system .noSuchFile _ => "FileNotFoundError"
  | system .noSuchProcess _ => "ProcessLookupError"
  | system .childProcess _ => "ChildProcessError"
  | system .fileExists _ => "FileExistsError"
  | system .notADirectory _ => "NotADirectoryError"
  | system .isADirectory _ => "IsADirectoryError"
  | system .brokenPipe _ => "BrokenPipeError"
  | system .aborted _ => "ConnectionAbortedError"
  | system .reset _ => "ConnectionResetError"
  | system .nameLookup _ => "gaierror"
  | system .addressLookup _ => "herror"
  | fault .value _ | portOutOfRange _ | unknownFamily _ | peer _ | lifecycle _ | embeddedNul
  | signalOutOfRange => "ValueError"
  | fault .type _ => "TypeError"
  | fault .runtime _ => "RuntimeError"
  | fault .overflow _ | numberTooWide => "OverflowError"
  | fault .unicode _ => "UnicodeError"
  | fault .lookup _ => "LookupError"
  | resolution .. => "ResolutionError"
  | socketCreation _ => "SocketCreateError"
  | connection .. => "ConnectError"
  | closing .. => "CloseError"
  | handleNotFound _ => "NotFoundError"
  | protectedHandle _ => "ProtectedError"
  | notOpen => "NotOpenError"
  | osBacked .. => "OsBackedError"
  | managerFault _ => "ZtcpError"
  | illegalAddressText => "OSError"
  | noSuchSession _ => "NoSession"

def isA : FailureClass → Reason → Bool
  | .system, system .. | .system, illegalAddressText => true
  | .interrupted, system .interrupted _ => true
  | .value, fault .value _ | .value, fault .unicode _ | .value, portOutOfRange _
  | .value, unknownFamily _ | .value, peer _ | .value, lifecycle _ | .value, embeddedNul
  | .value, signalOutOfRange => true
  | .lookup, fault .lookup _ | .lookup, handleNotFound _ => true
  | .osBacked, socketCreation _ | .osBacked, connection .. | .osBacked, closing ..
  | .osBacked, osBacked .. => true
  | .manager, resolution .. | .manager, socketCreation _ | .manager, connection ..
  | .manager, closing .. | .manager, handleNotFound _ | .manager, protectedHandle _
  | .manager, notOpen | .manager, osBacked .. | .manager, managerFault _ => true
  | .runtime, fault .runtime _ | .runtime, resolution .. | .runtime, socketCreation _
  | .runtime, connection .. | .runtime, closing .. | .runtime, handleNotFound _
  | .runtime, protectedHandle _ | .runtime, notOpen | .runtime, osBacked ..
  | .runtime, managerFault _ => true
  | _, _ => false

def errno? : Reason → Option Int
  | system _ d => d.errno?
  | socketCreation e | connection _ e _ | closing _ e | osBacked _ e => e
  | _ => none

end Reason

namespace Failure

def of (r : Reason) : Failure := ⟨r, none, none⟩

def causedBy (f cause : Failure) : Failure := { f with cause := some cause }

/-- Whether the operating system refused a call. -/
def isSystem (f : Failure) : Bool := f.reason.isA .system

/-- Whether a call was cut short by a signal. -/
def isInterrupted (f : Failure) : Bool := f.reason.isA .interrupted

/-- The system error code, an input/output error when the system left none. -/
def errnoOr (f : Failure) : Int := f.reason.errno?.getD Errno.inputOutput

/-- A failure that carries a system code: naming a code that does not fit fails instead. -/
def backed (reason : Option Int → Reason) (errno : Option Int) (cause : Option Failure := none) :
    Failure :=
  if errno.all Errno.fits then ⟨reason errno, cause, none⟩ else of .numberTooWide

def interrupt : Failure :=
  of (.system .interrupted (.coded Errno.interrupted (Errno.text Errno.interrupted)))

end Failure
end TcpSessions
