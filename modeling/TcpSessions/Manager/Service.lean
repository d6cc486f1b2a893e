import TcpSessions.Settings.Sources
import TcpSessions.Settings.Standard
import TcpSessions.Work.Perform
/-!
# Building and leaving a service

A service is a manager configured by settings. Settings that are loaded rather than given are
reported. A scope hands out a service and tears every session down when it is left.

| here | `runtime.bootstrap` |
| --- | --- |
| `ServicePlan.settings`, `ServicePlan.start`, `Settings.manager` | `build_runtime` |
| `inScope` | `runtime_scope` |
| `ManagerPlan.manager` | `ConnectionManager.__init__` |
-/
namespace TcpSessions

def Settings.manager (s : Settings) (lookup : LookupMode) : Manager where
  defaultPort := s.defaultPort
  defaultFamily := s.family
  oobInline := s.oobInline
  lookup := lookup

/-- What a service is built from: values given directly, or whatever is configured. -/
structure ServicePlan where
  /-- Builds the settings from these values; nothing is reported. -/
  given : Option (List (String × Json)) := none
  env : List (String × String) := []
  envFile : Option String := none

/-- The settings of a service, and whether their loading is reported. -/
def ServicePlan.settings (p : ServicePlan) (lib : Settings.Library := .standard) :
    Except (List Settings.Issue) (Settings × Bool) :=
  match Settings.ofSources lib ⟨p.given.getD [], p.env, p.envFile⟩ with
  | .ok s => .ok (s, p.given.isNone)
  | .error issues => .error issues

/-- What a manager is built from when no settings are involved; a missing part has its default. -/
structure ManagerPlan where
  defaultPort : Option Int := none
  defaultFamily : Option Int := none
  oobInline : Option Bool := none

def ManagerPlan.manager (p : ManagerPlan) (lookup : LookupMode) : Except Failure Manager :=
  let base : Manager := {}
  match Manager.checkFamily base p.defaultFamily with
  | .error f => .error f
  | .ok defaultFamily =>
    .ok {
      defaultPort := p.defaultPort.getD base.defaultPort
      defaultFamily := defaultFamily
      oobInline := p.oobInline.getD base.oobInline
      lookup := lookup }

variable {ω : Type}

/-- Does some work in a scope: however the work ends, every session is torn down after it. -/
def inScope {α : Type} (h : Host ω) (body : Act ω α) : Act ω α := do
  let result ← Act.attempt body
  let _ ← Manager.shutdown h
  Act.ofExcept result

def ServicePlan.start (report : Bool) (s : Settings) : Act ω Unit :=
  if report then Act.notice (.settingsLoaded s.shown) else pure ()

end TcpSessions
