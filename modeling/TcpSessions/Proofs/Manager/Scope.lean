import TcpSessions.Manager.Service
import TcpSessions.Rehearsal.Script
import TcpSessions.Proofs.Manager.QuietTeardown
import TcpSessions.Proofs.Manager.Settling
import TcpSessions.Proofs.Session.Discipline
import TcpSessions.Proofs.Session.Retention
/-!
# Leaving a scope

A scope ends as its body does once the sessions are torn down (`inScope_fst`). The teardown leaves
no session tracked, and since a run loses no socket (`World.Retains`) and keeps the order of the
calls on each (`World.Orderly`), every socket was closed, and sessions that are still open are those
whose close failed (`World.swept_of_empty`).
-/
namespace TcpSessions

open Act World

variable {ω : Type} {h : Host ω} {env : Environment ω} {w w₁ : World ω}

instance {α : Type} (o : Outcome α) : Decidable (o = .stalled) :=
  match o with
  | .returned _ | .failed _ => isFalse nofun
  | .stalled => isTrue rfl

/-- Whether an event is no failure of a close, or a plain one. -/
def Event.closesPlainly : Event → Bool
  | .left (.close _) (.error f) _ => f.Plain
  | _ => true

/-- What happened since an earlier world, latest first. -/
def World.newsSince (w₁ w : World ω) : List Event := w₁.past.take (w₁.past.length - w.past.length)

theorem World.newsSince_of_append {later : List Event} (hp : w₁.past = later ++ w.past) :
    w₁.newsSince w = later := by
  simp [World.newsSince, hp]

theorem World.Strayed.not_plainly (hs : Strayed env w w₁) :
    ¬ ∀ e ∈ w₁.newsSince w, e.closesPlainly = true := by
  obtain ⟨later, hp, socket, f, now, hmem, -, hf⟩ := hs.past
  rw [newsSince_of_append hp]
  intro hall
  have he := hall _ hmem
  simp [Event.closesPlainly, hf] at he

/-! ## How a scope ends -/

section
variable {α : Type} {body : Act ω α}

theorem inScope_snd (hb : (body w).1 ≠ .stalled) :
    (inScope h body w).2 = (Manager.shutdown h (body w).2).2 := by
  have leave : ∀ (result : Except Failure α) (u : World ω),
      ((Manager.shutdown h >>= fun _ => Act.ofExcept result) u).2 = (Manager.shutdown h u).2 := by
    intro result u
    rcases hs : Manager.shutdown h u with ⟨o, u'⟩
    cases o with
    | returned n => rw [bind_eq hs]; cases result <;> rfl
    | failed f => rw [bind_failed hs]
    | stalled => rw [bind_stalled hs]
  unfold inScope
  rcases hbody : body w with ⟨o, w'⟩
  cases o with
  | returned a =>
    rw [bind_eq (attempt_returned hbody)]
    exact leave (.ok a) w'
  | failed f =>
    rw [bind_eq (attempt_failed hbody)]
    exact leave (.error f) w'
  | stalled => exact absurd (by rw [hbody]) hb

/-- A scope whose sessions could be torn down ends as its body does. -/
theorem inScope_fst {n : Nat} (hs : (Manager.shutdown h (body w).2).1 = .returned n) :
    (inScope h body w).1 = (body w).1 := by
  unfold inScope
  rcases hbody : body w with ⟨o, w'⟩
  rw [hbody] at hs
  have hshut : Manager.shutdown h w' = (.returned n, (Manager.shutdown h w').2) := by
    rw [← hs]
  cases o with
  | returned a =>
    rw [bind_eq (attempt_returned hbody), bind_eq hshut]
    rfl
  | failed f =>
    rw [bind_eq (attempt_failed hbody), bind_eq hshut]
    rfl
  | stalled => rw [bind_stalled (attempt_stalled hbody)]

end

/-! ## What a scope leaves -/

/-- Nothing is left behind but sessions whose close failed. -/
structure World.Swept (w : World ω) : Prop where
  table : w.now.registry.table.entries = []
  /-- The sockets are those that the factory returned. -/
  accounted : w.Accounted
  tried : ∀ socket ∈ w.now.sockets, Attempted w.past socket
  closed : ∀ {ref x}, w.now.registry.get? ref = some x → x.handle = none ∨
    ∃ socket f, x.socket = some socket ∧ ⟨.close socket, .failed f⟩ ∈ socketCalls socket w.past

/-- When no session is tracked any more, nothing is left behind. -/
theorem World.swept_of_empty (hw : w.Orderly) (hr : w.Retains) (ha : w.Accounted)
    (hempty : w.now.registry.table.refs = []) : w.Swept := by
  have htried : ∀ socket ∈ w.now.sockets, Attempted w.past socket := by
    intro socket hmem
    rcases hr.holds socket hmem with ⟨ref, href, -⟩ | htried
    · rw [hempty] at href
      cases href
    · exact htried
  refine ⟨List.map_eq_nil_iff.1 hempty, ha, htried, fun {ref x} hx => ?_⟩
  cases ho : x.isOpen with
  | false => exact .inl (by simpa [Session.isOpen] using ho)
  | true =>
    obtain ⟨handle, socket, hs⟩ := hw.valid.hasSocket hx ho
    have hmade := hw.valid.coherent.made hx hs.socket
    obtain ⟨d, hd, hcall⟩ := List.mem_map.1 (htried socket hmade).mem_socketCalls
    obtain ⟨f, hf⟩ := hw.attached hx hs.socket d hd (by simp [hcall, Call.isClose])
    refine .inr ⟨socket, f, hs.socket, ?_⟩
    rwa [← hcall, ← hf]

/-! ## Services in a scope -/

/-- A body that carries out some requests and then ends, normally or in a failure. -/
def Host.body (h : Host ω) (qs : List Request) (raised : Option Failure) : Act ω Unit := do
  h.runNested qs
  raised.elim (pure ()) Act.fail

/-- A body that does not give up reaches its end, in an orderly world. -/
theorem Environment.Quiet.body_eq (henv : env.Quiet) (m : Manager) (bound patience : Nat)
    {qs : List Request} (hqs : ∀ q ∈ qs, q.OfManager) (raised : Option Failure) {w₀ : World ω}
    (hw : w.Orderly) (hsince : Since env w₀ w) :
    let h : Host ω := ⟨env, perform env m bound, patience⟩
    (h.body qs raised w).1 ≠ .stalled →
      ∃ w₁, h.body qs raised w = (raised.elim (.returned ()) .failed, w₁) ∧ w₁.Orderly ∧
        Since env w₀ w₁ := by
  intro h hsettled
  obtain ⟨hsteps, -, hfails⟩ := (henv.nests.sound m bound patience).runNested_ends qs w hqs hsince
  obtain ⟨-, hkeeps, -⟩ := runNested_keeps (fun bound => henv.maintains_orderly m bound (bound + 1))
    bound patience qs hqs w hw
  rcases hnested : h.runNested qs w with ⟨o, w₁⟩
  rw [hnested] at hsteps hfails hkeeps
  cases o with
  | returned u =>
    refine ⟨w₁, ?_, hkeeps u rfl, hsteps⟩
    have hbody : h.body qs raised w = (raised.elim (pure ()) Act.fail : Act ω Unit) w₁ :=
      bind_eq hnested _
    rw [hbody]
    cases raised <;> rfl
  | failed f => exact (hfails f rfl).elim
  | stalled => exact absurd (congrArg Prod.fst (bind_stalled hnested _)) hsettled

/-- Starting a service creates no session. -/
theorem orderly_serviceStart (env : Environment ω) (report : Bool) (settings : Settings)
    (start : ω) :
    (ServicePlan.start report settings { outside := start }).2.Orderly ∧
      Since env { outside := start } (ServicePlan.start report settings { outside := start }).2 := by
  have hfirst := orderly_start start
  cases report with
  | false => exact ⟨hfirst, .refl _⟩
  | true =>
    exact ⟨hfirst.congr hfirst.valid.indexed rfl rfl fun _ => rfl, Since.note (.refl _) trivial⟩

/-- However the body of a scope ends, the scope ends in the same way and leaves nothing behind, if
the closes on the way out return or are plainly refused; shutting down again changes nothing. -/
theorem Environment.scope_leaves_nothing (settings : Settings) (report : Bool)
    (lookup : LookupMode) (bound : Nat) {qs : List Request} (raised : Option Failure) (start : ω)
    (henv : env.Quiet) (hqs : ∀ q ∈ qs, q.OfManager) :
    let h : Host ω := ⟨env, perform env (settings.manager lookup) (bound + 1), bound + 2⟩
    let w := (ServicePlan.start report settings { outside := start }).2
    let body := h.body qs raised
    let scope := inScope h body w
    (body w).1 ≠ .stalled → (∀ socket ∈ scope.2.now.sockets, socket.descriptor ≠ -1) →
    (∀ e ∈ scope.2.newsSince (body w).2, e.closesPlainly = true) →
      scope.1 = raised.elim (.returned ()) .failed ∧ scope.2.Swept ∧
        Manager.shutdown h scope.2 =
          (.returned 0, scope.2.push (.noticed (.shutDown 0))) := by
  intro h w body scope hsettled hd hplain
  obtain ⟨hstart, hstarted⟩ := orderly_serviceStart env report settings start
  obtain ⟨w₁, (hbody : body w = (raised.elim (.returned ()) .failed, w₁)), horderly, hsince⟩ :=
    henv.body_eq _ _ _ hqs raised hstart hstarted hsettled
  have hworld : scope.2 = (Manager.shutdown h w₁).2 := by
    show (inScope h body w).2 = _
    rw [inScope_snd hsettled, hbody]
  -- the plain closes let the teardown come to its end
  have hshut := Manager.shutdown_quiet (henv.host _ _ _ : h.Quiet) horderly.valid
  obtain ⟨n, hn⟩ : ∃ n, (Manager.shutdown h w₁).1 = .returned n := by
    cases ho : (Manager.shutdown h w₁).1 with
    | returned n => exact ⟨n, rfl⟩
    | failed f =>
      rw [hworld, hbody] at hplain
      exact absurd hplain (hshut.failed f ho).not_plainly
    | stalled => exact absurd ho (Manager.shutdown_settles (henv.prompt _ _ _) w₁)
  have hempty : scope.2.now.registry.table.refs = [] := hworld ▸ hshut.returned n hn
  have hall : Since env { outside := start } scope.2 :=
    hworld ▸ (Manager.shutdown_ends (henv.nests.sound _ _ _) hsince).always
  have hend : scope.2.Orderly :=
    hworld ▸ ((henv.maintains_orderly _ _ _).keeps_shutdown w₁ horderly).returned n hn
  have haccounted : scope.2.Accounted :=
    hall.induct (P := Accounted) rfl fun hs hu => hs.accounted hu
  refine ⟨?_, swept_of_empty hend (hall.retains henv (retains_start start) hd) haccounted hempty,
    Manager.shutdown_of_empty hempty⟩
  have hfst : scope.1 = (body w).1 := inScope_fst (n := n) (by rw [hbody, hn])
  rw [hfst, hbody]

/-- Of two sockets the system refuses to close the first. -/
def Script.unyielding : Script where
  hosts := [("gate", { addresses := [[192, 0, 2, 1]] })]
  coming := [{ close := [{ failure := some (.of (.system .general (.coded 5 "busy"))) }] }, {}]

theorem Environment.scope_leaves_nothing_unyielding :
    let env := Script.environment.nesting Request.OfToken
    let h : Host Script := ⟨env, perform env (Settings.manager {} .external) 4, 5⟩
    let w := (ServicePlan.start true {} { outside := Script.unyielding }).2
    let body := h.body [.operation (.openSession { host := "gate" }),
      .operation (.openSession { host := "gate" })] (some .interrupt)
    let scope := inScope h body w
    scope.2.now.registry.sessions.map (·.fd) = [10, -1] ∧
      scope.1 = .failed .interrupt ∧ scope.2.Swept ∧
      Manager.shutdown h scope.2 = (.returned 0, scope.2.push (.noticed (.shutDown 0))) := by
  refine ⟨by decide +kernel, ?_⟩
  exact Environment.scope_leaves_nothing {} true .external 3 (some .interrupt) Script.unyielding
    (Script.environment.nesting_nests Request.OfToken) (by decide) (by decide +kernel)
    (by decide +kernel) (by decide +kernel)

end TcpSessions
