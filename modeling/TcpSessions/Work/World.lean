import TcpSessions.Work.Call
import TcpSessions.Work.Request
import TcpSessions.Session.Registry
import TcpSessions.Log.Notice
/-!
# The world of a run

`World` is everything that a run changes: the registry, the tokens that are set, the sockets made
so far, the history of what happened, and the state of the surroundings. The history keeps the
situation at each moment at which a call was entered or left or a nested request was answered.

An `Act` is a piece of work on a world. It returns, fails, or stalls; a stall means that the bound
on nested work was reached and is caught by nothing.
-/
namespace TcpSessions

/-- What the library knows at one moment. -/
structure Situation where
  registry : Registry := {}
  cancelled : List TokenId := []
  /-- Every socket ever made, in order. -/
  sockets : List Socket := []
  deriving DecidableEq, Repr

inductive Event
  /-- A call was entered by an operation that obeys a token, if any. -/
  | entered (call : Call) (token : Option TokenId) (now : Situation)
  | left (call : Call) (reply : Except Failure call.Reply) (now : Situation)
  | noticed (notice : Notice)
  /-- A request nested in a call was answered; `now` is how things stood then. -/
  | answered {now : Situation} (answer : Except Failure Answer)

/-- The state of a run; `past` has the latest event first. -/
structure World (ω : Type) where
  now : Situation := {}
  past : List Event := []
  outside : ω

/-- How a piece of work ends. -/
inductive Outcome (α : Type)
  | returned (value : α)
  | failed (failure : Failure)
  | stalled

/-- A piece of work on a world. -/
def Act (ω α : Type) : Type := World ω → Outcome α × World ω

namespace Act

variable {ω α β : Type}

def andThen (m : Act ω α) (k : α → Act ω β) : Act ω β := fun w =>
  match m w with
  | (.returned a, w') => k a w'
  | (.failed f, w') => (.failed f, w')
  | (.stalled, w') => (.stalled, w')

instance : Monad (Act ω) where
  pure a := fun w => (.returned a, w)
  bind := andThen

def fail (f : Failure) : Act ω α := fun w => (.failed f, w)

/-- Gives up because the bound on nested work is reached. -/
def stall : Act ω α := fun w => (.stalled, w)

/-- Does `m` and returns its failure as a value. -/
def attempt (m : Act ω α) : Act ω (Except Failure α) := fun w =>
  match m w with
  | (.returned a, w') => (.returned (.ok a), w')
  | (.failed f, w') => (.returned (.error f), w')
  | (.stalled, w') => (.stalled, w')

def ofExcept : Except Failure α → Act ω α
  | .ok a => fun w => (.returned a, w)
  | .error f => fail f

def situation : Act ω Situation := fun w => (.returned w.now, w)

def registry : Act ω Registry := fun w => (.returned w.now.registry, w)

/-- Changes the registry and returns what the change answers. -/
def onRegistry (f : Registry → α × Registry) : Act ω α := fun w =>
  let (a, r) := f w.now.registry
  (.returned a, { w with now := { w.now with registry := r } })

def record (e : Event) : Act ω Unit := fun w => (.returned (), { w with past := e :: w.past })

def notice (n : Notice) : Act ω Unit := record (.noticed n)

def session (ref : SessionRef) : Act ω Session := fun w =>
  match w.now.registry.get? ref with
  | some s => (.returned s, w)
  | none => (.failed (.of (.noSuchSession (ref.index + 1))), w)

/-- Changes the fields of a session, unless its lifecycle forbids it. -/
def changeSession (ref : SessionRef) (f : Session → Except LifecycleError Session) : Act ω Unit := do
  match f (← session ref) with
  | .ok s => onRegistry fun r => ((), r.set ref s)
  | .error e => fail (.of (.lifecycle e))

/-- Registers a new socket by the descriptor it reports. -/
def newSocket (descriptor : Int) : Act ω Socket := fun w =>
  let socket : Socket := ⟨w.now.sockets.length, descriptor⟩
  (.returned socket, { w with now := { w.now with sockets := w.now.sockets ++ [socket] } })

/-- Whether a token is set; no token never is. -/
def isCancelled (token : Option TokenId) : Act ω Bool := fun w =>
  (.returned (token.any fun t => w.now.cancelled.contains t), w)

def cancel (t : TokenId) : Act ω Unit := fun w =>
  (.returned (), { w with now := { w.now with cancelled := t :: w.now.cancelled } })

def reset (t : TokenId) : Act ω Unit := fun w =>
  (.returned (), { w with now := { w.now with cancelled := w.now.cancelled.filter (· ≠ t) } })

end Act
end TcpSessions
