import TcpSessions.Failure
/-!
# Failures as log text

`Failure.trace` tells a failure together with what led to it, the earliest first. The failure it
was raised from counts; only without one the failure that was being handled at the time does.
-/
namespace TcpSessions

/-- The class name of a reason with the module of its class in front; classes that belong to no
module have none. -/
def Reason.fullName (r : Reason) : String :=
  match r with
  | .system .nameLookup _ | .system .addressLookup _ => "socket." ++ r.name
  | _ => if r.isA .manager then "ztcp.errors." ++ r.name else r.name

/-- A reason as log text: its class and, if it has any, its wording. -/
def Reason.line (r : Reason) : String :=
  if r.message = "" then r.fullName else r.fullName ++ ": " ++ r.message

def Reason.shownClass (r : Reason) : String := "<class " ++ Text.quotedText r.fullName ++ ">"

def Detail.shown : Detail → String
  | nothing => ""
  | text w => Text.quotedText w
  | coded n w => Text.intText n ++ ", " ++ Text.quotedText w

/-- A reason as it is shown: its class and what it was made from. -/
def Reason.shown (r : Reason) : String :=
  let content := match r with
    | .system _ d | .fault _ d => d.shown
    | _ => Text.quotedText r.message
  r.name ++ "(" ++ content ++ ")"

/-- What stands between a failure and one that was raised from it. -/
def causeSentence : String :=
  "\n\nThe above exception was the direct cause of the following exception:\n\n"

/-- What stands between a failure and one that came up while it was handled. -/
def contextSentence : String :=
  "\n\nDuring handling of the above exception, another exception occurred:\n\n"

mutual

/-- A failure with what led to it. -/
def Failure.trace : Failure → String
  | ⟨reason, cause, context⟩ =>
    match traceOf? cause, traceOf? context with
    | some earlier, _ => earlier ++ causeSentence ++ reason.line
    | none, some earlier => earlier ++ contextSentence ++ reason.line
    | none, none => reason.line

def Failure.traceOf? : Option Failure → Option String
  | none => none
  | some f => some f.trace

end

end TcpSessions
