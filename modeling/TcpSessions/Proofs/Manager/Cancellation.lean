import TcpSessions.Rehearsal.Script
import TcpSessions.Proofs.Manager.Exchanges
/-!
# Cancellation

No call of an open to the factory or to connect is entered while the token of the open is set
(`World.Heeds`), whatever was cancelled or reset in calls before it; each of these calls is noted
with the token that it obeys, so the whole history shows the same (`World.Obeys`). While a token
stays set its opens therefore start nothing more, and one that is still resolving ends with that.
-/
namespace TcpSessions

open Act World

variable {ω : Type} {env : Environment ω} {h : Host ω} {n : Nat} {w w' : World ω}

/-- Every attempt so far was started while its token was not set. -/
def World.Obeys (w : World ω) : Prop :=
  ∀ c token now, .entered c token now ∈ w.past → c.startsAttempt = true → now.isSet token = false

/-- A token is set at all moments that some events keep. -/
def StaysSet (token : Option TokenId) (events : List Event) : Prop :=
  ∀ e ∈ events, ∀ s, e.situation? = some s → s.isSet token = true

theorem World.Step.obeys (h : Step env n w w') (hw : w.Obeys) : w'.Obeys := by
  intro c token now hmem hc
  cases h with
  | note e he =>
    rcases List.mem_cons.1 hmem with rfl | hmem
    · obtain ⟨rfl, hset⟩ := he
      exact hset hc
    · exact hw c token now hmem hc
  | attach f d ref x _ _ _ _ =>
    rcases List.mem_cons.1 hmem with heq | hmem
    · cases heq
    · exact hw c token now hmem hc
  | close socket ref x _ _ _ =>
    rcases List.mem_cons.1 hmem with heq | hmem
    · cases heq
    · exact hw c token now hmem hc
  | _ => exact hw c token now hmem hc

/-- While a token stays set its opens start no attempt. -/
theorem World.Obeys.not_startsAttempt {later earlier : List Event} {token : Option TokenId}
    {c : Call} {now : Situation} (hw : w.Obeys) (hp : w.past = later ++ earlier)
    (hset : StaysSet token later) (he : .entered c token now ∈ later) :
    c.startsAttempt = false := by
  have hmem : .entered c token now ∈ w.past := by
    rw [hp]
    exact List.mem_append_left earlier he
  have hnow : now.isSet token = true := hset _ he now rfl
  cases hc : c.startsAttempt with
  | false => rfl
  | true =>
    rw [hw c token now hmem hc] at hnow
    cases hnow

/-! ## The attempts of one open -/

variable {token : Option TokenId} {u : World ω}

/-- An attempt obeys a token, which is not set when it starts. -/
def Start.Heeds (token : Option TokenId) (s : Start) : Prop :=
  s.call.startsAttempt = true → s.token = token ∧ s.now.isSet token = false

/-- From `w` to `u` an operation started each attempt of its own under a token that was not set. -/
structure World.Heeds (token : Option TokenId) (w u : World ω) : Prop where
  starts : ∀ s ∈ u.startsSince w, s.Heeds token
  /-- It starts none any more once the token is set, unless that is reset. -/
  stopped : ∀ later earlier, u.past = later ++ earlier → StaysSet token later →
    ∀ s ∈ u.startsSince w, s.event ∈ later → s.call.startsAttempt = false

theorem World.Making.heeds (hw : w.Making (Start.Heeds token) u) : w.Heeds token u where
  starts := fun _ hs => hw.of_mem_startsSince hs
  stopped := by
    intro later earlier _ hset s hs hmem
    cases hc : s.call.startsAttempt with
    | false => rfl
    | true =>
      have hunset := (hw.of_mem_startsSince hs hc).2
      rw [hset s.event hmem s.now rfl] at hunset
      cases hunset

/-- From `w` to `u` an operation made its attempts while a token was not set, nor is it now. -/
def World.MadeUnset (token : Option TokenId) (w u : World ω) : Prop :=
  w.Made (Start.Heeds token) u ∧ u.now.isSet token = false

namespace Manager

section
variable (hn : h.environment.Nests Request.OfManager) (hh : h.Closed)

include hn hh

/-- Calls that start no attempt, notices and changes of sessions may come at any time. -/
theorem preserves_heeds (token : Option TokenId) (w : World ω) :
    h.Preserves (fun c => c.startsAttempt = false) (w.Making (Start.Heeds token))
      (w.Made (Start.Heeds token)) :=
  Host.preserves_made hn hh (fun _ hs hc => absurd hc (by simp [hs])) w

/-- An attempt is made while the token is not set. -/
theorem attempt_heeds {c : Call} (hu : w.MadeUnset token u) :
    Ends (w.Making (Start.Heeds token)) (h.call token c) u (fun _ v => w.Made (Start.Heeds token) v)
      (fun _ v => w.Made (Start.Heeds token) v) :=
  Host.call_made hn hh hu.1 fun _ => ⟨rfl, hu.2⟩

omit hn hh in
/-- A session changes while the token stays as it is. -/
theorem changeSession_heeds (hu : w.MadeUnset token u) (ref : SessionRef)
    (f : Session → Except LifecycleError Session) :
    Ends (w.Making (Start.Heeds token)) (Act.changeSession ref f) u (fun _ v => w.MadeUnset token v)
      (fun _ v => w.Made (Start.Heeds token) v) := by
  have hkeeps : Keeps (w.Making (Start.Heeds token)) (w.MadeUnset token) (Act.changeSession ref f) :=
    Act.keeps_changeSession (fun _ hv => hv.1.making) ref fun _ _ _ hv _ _ => hv
  exact (hkeeps u hu).mono (fun _ _ hv => hv) fun _ _ hv => hv.1

theorem register_heeds (hu : w.MadeUnset token u) (family : Family) (flags : SessionFlags) :
    Ends (w.Making (Start.Heeds token)) (register h token family flags) u
      (fun _ v => w.Made (Start.Heeds token) v) (fun _ v => w.Made (Start.Heeds token) v) := by
  have hp := preserves_heeds hn hh token w
  unfold register
  refine .onRegistry_bind ?_
  have hcreated : w.MadeUnset token (u.setRegistry (u.now.registry.create flags).2) := hu
  refine .bind (attempt_heeds hn hh hcreated) fun reply v _ hv => ?_
  refine .bind (hp.keeps_socketFrom reply v hv) fun result v' _ hv' => ?_
  cases result with
  | error f =>
    dsimp only
    split
    · exact .onRegistry_bind (.fail (hp.remove _ _ hv').making (hp.remove _ _ hv'))
    · exact .fail hv'.making hv'
  | ok socket =>
    refine .bind (Act.keeps_changeSession hp.always _ (fun _ _ _ hx _ _ => hx) v' hv') ?_
    exact fun _ _ _ hx => .pure hx.making hx

theorem connectSocket_heeds (socket : Socket) (peer : Peer) : ∀ (patience : Nat) (u : World ω),
    w.MadeUnset token u →
    Ends (w.Making (Start.Heeds token)) (connectSocket h token socket peer patience) u
      (fun _ v => w.Made (Start.Heeds token) v) (fun _ v => w.Made (Start.Heeds token) v)
  | 0, _, hu => .of_stalled rfl hu.1.making
  | patience + 1, u, hu => by
    unfold connectSocket
    refine .bind (attempt_heeds hn hh hu) fun reply v _ hv => ?_
    cases reply with
    | ok a => exact .pure hv.making hv
    | error f =>
      dsimp only
      split
      · refine .isCancelled_bind ?_
        cases hset : v.now.isSet token with
        | true =>
          simp only [if_true]
          exact .pure hv.making hv
        | false =>
          simp only [Bool.false_eq_true, if_false]
          exact connectSocket_heeds socket peer patience v ⟨hv, hset⟩
      · exact .pure hv.making hv

theorem connectSession_heeds (hu : w.MadeUnset token u) (ref : SessionRef) (peer : Peer) :
    Ends (w.Making (Start.Heeds token)) (connectSession h token ref peer) u
      (fun _ v => w.Made (Start.Heeds token) v) (fun _ v => w.Made (Start.Heeds token) v) := by
  unfold connectSession
  refine .session_bind (fun x _ => ?_) (fun _ => ⟨hu.1.making, fun _ => hu.1⟩)
  cases x.socket with
  | none => exact .fail hu.1.making hu.1
  | some socket => exact connectSocket_heeds hn hh socket peer h.patience u hu

/-- Before each candidate it is seen again that the token is not set. -/
theorem tryCandidates_heeds (a : Attempt) : ∀ (candidates : List Address.Bytes)
    (last : Option Failure) (u : World ω), w.Made (Start.Heeds a.token) u →
    Ends (w.Making (Start.Heeds a.token)) (tryCandidates h a last candidates) u
      (fun _ v => w.Made (Start.Heeds a.token) v) (fun _ v => w.Made (Start.Heeds a.token) v)
  | [], last, u, hu =>
    (preserves_heeds hn hh a.token w).keeps_tryCandidates a [] (by simp) last u hu
  | bytes :: rest, last, u, hu => by
    have hp := preserves_heeds hn hh a.token w
    unfold tryCandidates
    dsimp only
    split
    · exact .fail hu.making hu
    rename_i peer _
    refine .isCancelled_bind ?_
    cases hset : u.now.isSet a.token with
    | true =>
      simp only [if_true]
      exact hp.keeps_failCancelled _ _ _ _ _ u hu
    | false =>
    simp only [Bool.false_eq_true, if_false]
    refine .bind (changeSession_heeds ⟨hu, hset⟩ a.ref _) fun _ v _ hv => ?_
    refine .bind (connectSession_heeds hn hh hv a.ref peer) fun result v' _ hv' => ?_
    cases result with
    | ok x =>
      refine .bind (Act.keeps_changeSession hp.always _ (fun _ _ _ hx _ _ => hx) v' hv') ?_
      intro _ v'' _ hv''
      exact ((keeps_session hp.always a.ref).bind fun _ => (hp.keeps_notice _).bind fun _ =>
        keeps_pure hp.always a.ref) v'' hv''
    | error f =>
      dsimp only
      split
      · exact hp.keeps_failCancelled _ _ _ _ _ v' hv'
      split
      · exact .notice_bind (tryCandidates_heeds a rest _ _ (hp.notice _ _ hv'))
      · exact .fail hv'.making hv'

/-- An open looks its host up, sees that the token is not set, and starts its attempts then. -/
theorem openSession_heeds (m : Manager) (hs : h.Sound) (r : OpenRequest) (w : World ω) :
    Ends (w.Making (Start.Heeds r.token)) (m.openSession h r) w
      (fun _ v => w.Made (Start.Heeds r.token) v) (fun _ v => w.Made (Start.Heeds r.token) v) := by
  have hp := preserves_heeds hn hh r.token w
  have hw : w.Made (Start.Heeds r.token) w := made_refl _ w
  unfold openSession
  refine .ofExcept_bind (fun port _ => ?_) (fun _ _ => ⟨hw.making, hw⟩)
  refine .ofExcept_bind (fun family _ => ?_) (fun _ _ => ⟨hw.making, hw⟩)
  have hmade : Ends _ (m.candidatesOf h r.token r.host family) w _ _ :=
    Host.Preserves.candidatesOf_ends (hp.keeps_resolve rfl rfl w hw)
  have hlookup := hmade.and (candidatesOf_ends m hs (.refl w) r.host family)
  refine .bind (hlookup.imp (fun _ hr => hr.1) (fun _ _ _ he => he) fun _ _ _ he => he.1) ?_
  rintro candidates u - ⟨⟨hu, -⟩, hset⟩
  refine .bind (register_heeds hn hh ⟨hu, hset⟩ family r.flags) fun ref u' _ hu' => ?_
  refine .bind (hp.keeps_enableInline (fun _ => rfl) r.token ref u' hu') fun _ u'' _ hu'' => ?_
  exact tryCandidates_heeds hn hh ⟨ref, r.host, port, family, r.token, candidates.length⟩ candidates
    none u'' hu''

end

/-- An open that is carried out anywhere, at the top of a run or nested in a call. -/
theorem perform_openSession_heeds (m : Manager) (henv : env.Nests Request.OfManager)
    (r : OpenRequest) (w : World ω) : ∀ bound : Nat,
    w.Heeds r.token (perform env m bound (.operation (.openSession r)) w).2
  | 0 => (made_refl _ w).making.heeds
  | bound + 1 =>
    have hopen := openSession_heeds henv (perform_closed henv m bound (bound + 1)) m
      (henv.sound m bound (bound + 1)) r w
    (m.serve_openSession_making hopen).heeds

/-! ## Ending -/

/-- Resolution that ends while the token is set yields no candidates. -/
theorem candidatesOf_ends_of_isSet (m : Manager) {token : Option TokenId} {host : String}
    {family : Family} (hset : (m.resolve h token host family w).2.now.isSet token = true) :
    Ends (fun u => u = (m.resolve h token host family w).2) (m.candidatesOf h token host family) w
      (fun _ _ => False) (fun _ _ => True) := by
  unfold candidatesOf
  have hresolve : Ends (fun u => u = (m.resolve h token host family w).2)
      (m.resolve h token host family) w (fun _ _ => True) (fun _ _ => True) :=
    ⟨rfl, fun _ _ => trivial, fun _ _ => trivial⟩
  refine .attempt_bind hresolve (fun candidates u hu _ => ?_) (fun f u hu _ => ?_)
  · refine .isCancelled_bind ?_
    rw [hu, hset]
    exact .fail rfl trivial
  · dsimp only
    split
    · exact .fail hu trivial
    · exact .fail hu trivial

/-- An open whose token is set when resolution ends does nothing after it. -/
theorem openSession_ends_of_isSet (m : Manager) {r : OpenRequest} {port : Int} {family : Family}
    (hport : checkPort (r.port.getD m.defaultPort) = .ok port)
    (hfamily : m.checkFamily r.family = .ok family)
    (hset : (m.resolve h r.token r.host family w).2.now.isSet r.token = true) :
    Ends (fun u => u = (m.resolve h r.token r.host family w).2) (m.openSession h r) w
      (fun _ _ => False) (fun _ _ => True) := by
  unfold openSession
  rw [hport, hfamily]
  refine .ofExcept_bind (fun port' _ => ?_) (fun f hf => by cases hf)
  refine .ofExcept_bind (fun family' hf => ?_) (fun f hf => by cases hf)
  obtain rfl := Except.ok.inj hf
  exact .bind (candidatesOf_ends_of_isSet m hset) fun _ _ _ hfalse => hfalse.elim

end Manager

/-- No open starts a connect or asks for a socket while its token is set, wherever it is carried
out; while a token stays set its opens start no more of them, and one still resolving registers no
session. -/
theorem Environment.cancellation_obeyed (m : Manager) (bound : Nat) {qs : List Request} (start : ω)
    (henv : env.Nests Request.OfManager) (hqs : ∀ q ∈ qs, q.OfManager) :
    (∀ (depth : Nat) (r : OpenRequest) (w : World ω),
      w.Heeds r.token (perform env m depth (.operation (.openSession r)) w).2) ∧
    (env.after m bound qs start).Obeys ∧
    (∀ later earlier token, (env.after m bound qs start).past = later ++ earlier →
      StaysSet token later → ∀ c now, .entered c token now ∈ later → c.startsAttempt = false) ∧
    ∀ (h : Host ω) (r : OpenRequest) (port : Int) (family : Family) (w : World ω),
      Manager.checkPort (r.port.getD m.defaultPort) = .ok port →
      m.checkFamily r.family = .ok family →
      (m.resolve h r.token r.host family w).2.now.isSet r.token = true →
      (m.openSession h r w).2 = (m.resolve h r.token r.host family w).2 ∧
        ∀ ref, (m.openSession h r w).1 ≠ .returned ref := by
  have hobeys : (env.after m bound qs start).Obeys :=
    (env.after_since m bound start henv hqs).induct (P := World.Obeys)
      (by intro c token now hmem; cases hmem) fun hs hu => hs.obeys hu
  refine ⟨fun depth r w => Manager.perform_openSession_heeds m henv r w depth, hobeys, ?_, ?_⟩
  · intro later earlier token hp hset c now he
    exact hobeys.not_startsAttempt hp hset he
  · intro h r port family w hport hfamily hset
    have hends := Manager.openSession_ends_of_isSet m hport hfamily hset
    exact ⟨hends.always, fun ref href => hends.returned ref href⟩

/-- One host whose first candidate refuses when the token has just been set, and one whose
resolution sets the token. -/
def Script.cancelling : Script where
  hosts := [
    ("gate", { addresses := [[192, 0, 2, 1], [192, 0, 2, 2]] }),
    ("slow", { cue := { nested := [.token 1 .cancel] }, addresses := [[192, 0, 2, 3]] })]
  connect := [("192.0.2.1",
    [{ nested := [.token 1 .cancel], failure := some (.of (.system .refused .nothing)) }])]

theorem Environment.cancellation_obeyed_cancelling :
    let env := Script.environment.nesting Request.OfManager
    let gate : OpenRequest := { host := "gate", token := some 1 }
    let slow : OpenRequest := { host := "slow", token := some 1 }
    let qs : List Request := [.operation (.openSession gate), .token 1 .reset,
      .operation (.openSession gate), .operation (.openSession slow)]
    let w := env.after {} 4 qs Script.cancelling
    let h : Host Script := ⟨env, perform env {} 3, 4⟩
    let start : World Script := { outside := Script.cancelling }
    let alone := (perform env {} 4 (.operation (.openSession gate)) start).2
    w.now.registry.sessions.map (·.state) = [.socketAllocated, .connected] ∧ w.Obeys ∧
      (alone.startsSince start).map (·.call) = [.resolve "gate" .inet, .createSocket .inet,
        .setInline ⟨0, 10⟩, .connect ⟨0, 10⟩ (.inet "192.0.2.1" 23)] ∧
      start.Heeds (some 1) alone ∧
      (Manager.openSession {} h slow start).2 =
        (Manager.resolve {} h (some 1) "slow" .inet start).2 := by
  intro env gate slow qs w h start alone
  have hqs : ∀ q ∈ qs, q.OfManager := by decide
  obtain ⟨hheeds, hobeys, -, hopen⟩ := Environment.cancellation_obeyed {} 4 Script.cancelling
    (Script.environment.nesting_nests Request.OfManager) hqs
  exact ⟨by decide +kernel, hobeys, by decide +kernel, hheeds 4 gate start,
    (hopen h slow 23 .inet start rfl rfl (by decide +kernel)).1⟩

end TcpSessions
