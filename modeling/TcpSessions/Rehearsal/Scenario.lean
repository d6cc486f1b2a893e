import TcpSessions.Rehearsal.Script
import TcpSessions.Manager.Service
/-!
# Scenarios

A scenario drives the library by a list of steps over scripted surroundings and reports after each
step what it answered, what happened, and how the sessions stand.
-/
namespace TcpSessions

/-- One step: a request, or a failure raised out of the scenario. -/
inductive Step
  | request (q : Request)
  | raise (f : Failure)

/-- What one step led to; no answer means that the bound on nested work was reached. -/
structure StepReport where
  answer : Option (Except Failure Answer)
  events : List Event
  now : Situation

namespace Scenario

/-- The events of a world, oldest first. -/
def events (w : World Script) : List Event := w.past.reverse

def afresh (w : World Script) : World Script := { w with past := [] }

/-- The result of an outcome, unless it stalled. -/
def result? {α : Type} : Outcome α → Option (Except Failure α)
  | .returned a => some (.ok a)
  | .failed f => some (.error f)
  | .stalled => none

def step (m : Manager) (bound : Nat) (q : Request) (w : World Script) :
    StepReport × World Script :=
  let (outcome, w) := perform Script.environment m bound q (afresh w)
  (⟨result? outcome, events w, w.now⟩, w)

/-- Carries out steps up to the first raised failure. -/
def run (m : Manager) (bound : Nat) :
    List Step → World Script → List StepReport × Option Failure × World Script
  | [], w => ([], none, w)
  | .raise f :: _, w => ([], some f, afresh w)
  | .request q :: rest, w =>
    let (report, w) := step m bound q w
    let (reports, raised, w) := run m bound rest w
    (report :: reports, raised, w)

/-- The host on which requests of the outermost level are carried out. -/
def host (m : Manager) (bound : Nat) : Host Script :=
  ⟨Script.environment, perform Script.environment m bound, bound + 1⟩

/-- Leaves a scope whose body ended normally or in a failure. -/
def leaveScope (m : Manager) (bound : Nat) (raised : Option Failure) : Act Script Unit :=
  inScope (host m bound) (raised.elim (pure ()) Act.fail)

end Scenario

/-- What a scenario drives: a manager, or a service with or without a scope around the steps. -/
inductive Setup
  | manager (plan : ManagerPlan) (label : String)
  | service (plan : ServicePlan) (hasScope : Bool)

inductive Escape
  | failure (f : Failure)
  | settings (issues : List Settings.Issue)

structure ScenarioReport where
  label : String := Listing.managedLabel
  /-- What happened while a service was built. -/
  start : Option (List Event) := none
  steps : List StepReport := []
  raised : Option Escape := none
  /-- What happened while the scope was left, and how the sessions stand then. -/
  exit : Option (List Event × Situation) := none

namespace Scenario

def playManager (m : Manager) (label : String) (steps : List Step) (script : Script) :
    ScenarioReport :=
  let (reports, raised, _) := run m script.bound steps { outside := script }
  { label, steps := reports, raised := raised.map .failure }

def playService (settings : Settings) (report hasScope : Bool) (lookup : LookupMode)
    (steps : List Step) (script : Script) : ScenarioReport :=
  let m := settings.manager lookup
  let (_, w) := ServicePlan.start report settings { outside := script }
  let start := events w
  let (reports, raised, w) := run m script.bound steps (afresh w)
  let label := settings.managedLabel
  if hasScope then
    let (outcome, w) := leaveScope m script.bound raised (afresh w)
    let raised := match outcome with
      | .failed f => some f
      | _ => none
    { label, start, steps := reports, raised := raised.map .failure
      exit := some (events w, w.now) }
  else { label, start, steps := reports, raised := raised.map .failure }

def play (setup : Setup) (lookup : LookupMode) (steps : List Step) (script : Script) :
    ScenarioReport :=
  match setup with
  | .manager plan label =>
    match plan.manager lookup with
    | .error f => { label, raised := some (.failure f) }
    | .ok m => playManager m label steps script
  | .service plan hasScope =>
    match plan.settings with
    | .error issues => { raised := some (.settings issues) }
    | .ok (settings, report) => playService settings report hasScope lookup steps script

end Scenario
end TcpSessions
