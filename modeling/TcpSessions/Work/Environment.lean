import TcpSessions.Work.World
/-!
# Environments

An environment answers calls. While a call is being answered it may have further requests carried
out, each of which may lead to further calls. `Host.call` makes a call: it enters the call into the
history, runs the nested requests, and then lets the environment give its answer.
-/
namespace TcpSessions

/-- How an environment meets one call: the requests that run first, then the answer, which may
depend on what those requests did to the environment. -/
structure Reaction (ω ρ : Type) where
  state : ω
  nested : List Request := []
  answer : ω → Except Failure ρ × ω

/-- Surroundings with a state of their own that meet every call. -/
structure Environment (ω : Type) where
  react : (c : Call) → ω → Reaction ω c.Reply

/-- What an operation runs on: the environment, the way nested requests are carried out, and how
often one connect may be interrupted before the run is given up. -/
structure Host (ω : Type) where
  environment : Environment ω
  nested : Request → Act ω Answer
  patience : Nat

namespace Host

variable {ω : Type}

/-- Carries out requests nested in a call and notes their answers. -/
def runNested (h : Host ω) : List Request → Act ω Unit
  | [] => pure ()
  | q :: qs => do
    let answer ← Act.attempt (h.nested q)
    Act.record (@Event.answered (← Act.situation) answer)
    h.runNested qs

def enter (c : Call) (token : Option TokenId) : Act ω Unit := do
  Act.record (.entered c token (← Act.situation))

def leave (c : Call) (reply : Except Failure c.Reply) : Act ω Unit := do
  Act.record (.left c reply (← Act.situation))

def consult (h : Host ω) (c : Call) : Act ω (Reaction ω c.Reply) := fun w =>
  let r := h.environment.react c w.outside
  (.returned r, { w with outside := r.state })

def conclude {ρ : Type} (r : Reaction ω ρ) : Act ω (Except Failure ρ) := fun w =>
  let (reply, outside) := r.answer w.outside
  (.returned reply, { w with outside })

/-- Makes a call on behalf of an operation that obeys a token. -/
def call (h : Host ω) (token : Option TokenId) (c : Call) : Act ω (Except Failure c.Reply) := do
  enter c token
  let reaction ← h.consult c
  h.runNested reaction.nested
  let reply ← conclude reaction
  leave c reply
  return reply

/-- Asks for a socket by a call that reports a descriptor. -/
def socketFrom (reply : Except Failure Int) : Act ω (Except Failure Socket) := do
  match reply with
  | .ok descriptor => return .ok (← Act.newSocket descriptor)
  | .error f => return .error f

end Host
end TcpSessions
