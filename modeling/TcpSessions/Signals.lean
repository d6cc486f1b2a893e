import TcpSessions.Work.Request
/-!
# Signals and cancellation tokens

A token may be put in charge of a signal while some steps run. A signal that arrives then cancels
the token and breaks off the step with an interruption; afterwards the handler that was there
before is back, however the steps ended.

| here | `application.cancellation` |
| --- | --- |
| `SignalBoard.cancel`, `.reset` | `CancellationToken.cancel`, `.reset` |
| `SignalBoard.isCancelled` | `.cancelled` |
| `SignalHandler.token` | `.interrupt` |
| `SignalStep.guarded` | `.interrupt_on` |
-/
namespace TcpSessions

inductive SignalHandler
  /-- Whatever the system does by itself. -/
  | system
  /-- A handler that only notes the number of the signal. -/
  | note
  | token (t : TokenId)
  deriving DecidableEq, Repr

/-- The tokens that are set, the handlers that are installed, and the signals noted so far. -/
structure SignalBoard where
  cancelled : List TokenId := []
  handlers : List (Int × SignalHandler) := []
  noted : List Int := []
  deriving Repr

/-- The first signal that is free for any use. -/
def firstUserSignal : Int := 10

def secondUserSignal : Int := 12

namespace SignalBoard

/-- A board on which the two free signals are noted. -/
def start : SignalBoard :=
  { handlers := [(firstUserSignal, .note), (secondUserSignal, .note)] }

def handler (b : SignalBoard) (signal : Int) : SignalHandler :=
  (b.handlers.lookup signal).getD .system

def install (b : SignalBoard) (signal : Int) (h : SignalHandler) : SignalBoard :=
  { b with handlers := (signal, h) :: b.handlers.filter (·.1 ≠ signal) }

def isCancelled (b : SignalBoard) (t : TokenId) : Bool := b.cancelled.contains t

def cancel (b : SignalBoard) (t : TokenId) : SignalBoard :=
  { b with cancelled := t :: b.cancelled.filter (· ≠ t) }

def reset (b : SignalBoard) (t : TokenId) : SignalBoard :=
  { b with cancelled := b.cancelled.filter (· ≠ t) }

end SignalBoard

def lastSignal : Int := 64

/-- Signals whose handler cannot be changed. -/
def fixedSignals : List Int := [9, 19, 32, 33]

def Failure.invalidArgument : Failure :=
  .of (.system .general (.coded Errno.invalidArgument (Errno.text Errno.invalidArgument)))

/-- Why no handler can be installed for a signal, if so. -/
def installFailure? (signal : Int) : Option Failure :=
  if ¬ Errno.fits signal then some (.of .numberTooWide)
  else if signal < 1 ∨ lastSignal < signal then some (.of .signalOutOfRange)
  else if fixedSignals.contains signal then some .invalidArgument
  else none

inductive SignalAction
  | cancel (t : TokenId)
  | reset (t : TokenId)
  /-- Cancels a token and breaks off. -/
  | interrupt (t : TokenId)
  /-- Sends a signal, which is handled at once. -/
  | send (signal : Int)
  | fail (f : Failure)

/-- How an action ends: with a failure or without, and the board after it. -/
def SignalAction.perform (b : SignalBoard) : SignalAction → Option Failure × SignalBoard
  | cancel t => (none, b.cancel t)
  | reset t => (none, b.reset t)
  | interrupt t => (some .interrupt, b.cancel t)
  | send signal =>
    if ¬ Errno.fits signal then (some (.of .numberTooWide), b)
    else if signal < 0 ∨ lastSignal < signal then (some .invalidArgument, b)
    else match b.handler signal with
      | .system => (none, b)
      | .note => (none, { b with noted := b.noted ++ [signal] })
      | .token t => (some .interrupt, b.cancel t)
  | fail f => (some f, b)

inductive SignalStep
  /-- An action; if it escapes, its failure ends the steps around it instead of being answered. -/
  | act (action : SignalAction) (escapes : Bool)
  /-- Steps during which a signal interrupts a token. -/
  | guarded (signal : Int) (t : TokenId) (body : List SignalStep)

/-- What a step is answered with, and the board at that time. -/
inductive SignalAnswer
  | acted (failure : Option Failure) (now : SignalBoard)
  /-- The answers inside of the guard if it could be set up, and the failure that ended it. -/
  | guarded (inside : Option (List SignalAnswer)) (escaped : Option Failure) (now : SignalBoard)

mutual

/-- Runs a step: its answer, or the failure that escapes from it. -/
def SignalStep.run (b : SignalBoard) : SignalStep → Except Failure SignalAnswer × SignalBoard
  | .act action escapes =>
    match action.perform b with
    | (some f, b') => (if escapes then .error f else .ok (.acted (some f) b'), b')
    | (none, b') => (.ok (.acted none b'), b')
  | .guarded signal t body =>
    match installFailure? signal with
    | some f => (.ok (.guarded none (some f) b), b)
    | none =>
      let (answers, escaped, b') := runAll (b.install signal (.token t)) body
      let b'' := b'.install signal (b.handler signal)
      (.ok (.guarded (some answers) escaped b''), b'')

def SignalStep.runAll (b : SignalBoard) :
    List SignalStep → List SignalAnswer × Option Failure × SignalBoard
  | [] => ([], none, b)
  | s :: rest =>
    match s.run b with
    | (.error f, b') => ([], some f, b')
    | (.ok a, b') =>
      let (answers, escaped, b'') := runAll b' rest
      (a :: answers, escaped, b'')

end

end TcpSessions
