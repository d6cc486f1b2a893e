import TcpSessions.Proofs.Session.Validity
import TcpSessions.Proofs.Work.SocketCalls
/-!
# Closing on a quiet host

Exactly what a close of a session with a socket does when no operation is nested in it: the socket
is closed once, and by the reply the session is marked as closed or stays as it is
(`World.Closing`).
-/
namespace TcpSessions

open Act World

variable {ω : Type} {h : Host ω} {env : Environment ω} {w w' : World ω}
variable {ref : SessionRef} {x : Session} {handle : Handle} {socket : Socket}

/-- The system refused a call, and left no code or one that fits. -/
structure Failure.Plain (f : Failure) : Prop where
  system : f.isSystem = true
  code : f.reason.errno?.all Errno.fits = true

instance (f : Failure) : Decidable f.Plain :=
  decidable_of_iff (f.isSystem = true ∧ f.reason.errno?.all Errno.fits = true)
    ⟨fun h => ⟨h.1, h.2⟩, fun h => ⟨h.system, h.code⟩⟩

/-- A plain failure becomes the cause of one with its code. -/
theorem Failure.Plain.backed_eq {f : Failure} (hf : f.Plain) (reason : Option Int → Reason)
    (cause : Option Failure) :
    Failure.backed reason (some f.errnoOr) cause = ⟨reason (some f.errnoOr), cause, none⟩ := by
  have hfits : Errno.fits f.errnoOr = true := by
    have hcode := hf.code
    unfold errnoOr
    cases hr : f.reason.errno? with
    | none => decide
    | some n => simpa [hr] using hcode
  simp [Failure.backed, hfits]

/-- What the close of a session with a handle fails with when the close of its socket failed. -/
def closeFailure (handle : Int) (f : Failure) : Failure :=
  if f.isSystem then .backed (.closing handle ·) (some f.errnoOr) (some f) else f

theorem Failure.Plain.closeFailure_eq {f : Failure} (hf : f.Plain) (handle : Int) :
    closeFailure handle f = ⟨.closing handle (some f.errnoOr), some f, none⟩ := by
  simp only [closeFailure, hf.system, if_true, hf.backed_eq]

/-- A session has a handle and a socket. -/
structure World.HasSocket (w : World ω) (ref : SessionRef) (x : Session) (handle : Handle)
    (socket : Socket) : Prop where
  session : w.now.registry.get? ref = some x
  handle : x.handle = some handle
  socket : x.socket = some socket

/-- The session after its socket was closed with a reply. -/
def Session.afterClose (x : Session) : Except Failure Unit → Session
  | .ok _ => x.markClosed
  | .error _ => x

/-- From `w` to `w'` the socket of a session was closed, with a reply, and that was reported. -/
structure World.Closing (env : Environment ω) (ref : SessionRef) (x : Session) (socket : Socket)
    (reply : Except Failure Unit) (w w' : World ω) : Prop where
  registry : w'.now.registry = w.now.registry.set ref (x.afterClose reply)
  sockets : w'.now.sockets = w.now.sockets
  called : ∃ (w₁ : World ω) (notices : List Notice), w.Called env none (.close socket) reply w₁ ∧
    w'.past = notices.map Event.noticed ++ w₁.past

theorem World.HasSocket.isOpen (hx : w.HasSocket ref x handle socket) : x.isOpen := by
  simp [Session.isOpen, hx.handle]

/-- An open session of a valid situation has a socket. -/
theorem Situation.Valid.hasSocket (hw : w.now.Valid) (hx : w.now.registry.get? ref = some x)
    (ho : x.isOpen) : ∃ handle socket, w.HasSocket ref x handle socket := by
  obtain ⟨handle, hh⟩ := Option.isSome_iff_exists.1 ho
  obtain ⟨-, socket, hs, -⟩ := (hw.coherent.sessions hx).opened handle hh
  exact ⟨handle, socket, hx, hh, hs⟩

namespace World.Closing

variable {reply : Except Failure Unit} (hc : w.Closing env ref x socket reply w')

include hc

theorem table : w'.now.registry.table = w.now.registry.table := by
  rw [hc.registry]
  rfl

theorem get? (hx : w.now.registry.get? ref = some x) (ref' : SessionRef) :
    w'.now.registry.get? ref' =
      if ref' = ref then some (x.afterClose reply) else w.now.registry.get? ref' := by
  rw [hc.registry, Registry.get?_set hx]

theorem mayAnswer : env.MayAnswer (.close socket) reply := by
  obtain ⟨w₁, notices, hcalled, -⟩ := hc.called
  exact hcalled.mayAnswer

/-- The socket was called once, and no other was. -/
theorem socketCalls_eq (s : Socket) :
    socketCalls s w'.past = if socket = s then ⟨.close socket, .of reply⟩ :: socketCalls s w.past
      else socketCalls s w.past := by
  obtain ⟨w₁, notices, hcalled, hp⟩ := hc.called
  rw [hp, socketCalls_notices]
  simpa [Call.socket?] using hcalled.socketCalls_eq s

/-- The reply is in the history. -/
theorem noted :
    ∃ later now, w'.past = later ++ w.past ∧ .left (.close socket) reply now ∈ later := by
  obtain ⟨w₁, notices, hcalled, hp⟩ := hc.called
  obtain ⟨later, hp₁, hmem⟩ := hcalled.noted
  exact ⟨notices.map Event.noticed ++ later, w₁.now, by simp [hp, hp₁], by simp [hmem]⟩

theorem valid (hx : w.HasSocket ref x handle socket) (hw : w.now.Valid) : w'.now.Valid where
  coherent := by
    cases reply with
    | ok u =>
      -- the close itself is one of the steps that keep sessions coherent
      have ha : Attempted (w.push (.entered (.close socket) none w.now)).past socket :=
        attempted_cons.2 (.inl (by simp [Event.attemptsClose]))
      have hstep : Step env 0 (w.push (.entered (.close socket) none w.now)) _ :=
        .close socket ref x hx.session ha (.inl ⟨hx.isOpen, hx.socket⟩)
      exact (hstep.coherent hw.coherent).congr (congrArg Registry.sessions hc.registry) hc.sockets
    | error f =>
      refine hw.coherent.congr (congrArg Registry.sessions ?_) hc.sockets
      rw [hc.registry]
      exact Registry.set_self hx.session
  indexed := by
    rw [hc.registry]
    exact hw.indexed.set hx.session (by cases reply <;> rfl)

end World.Closing

theorem World.Entered.length_lt {token : Option TokenId} {c : Call} (hc : w.Entered token c w') :
    w.past.length < w'.past.length := by
  obtain ⟨answers, hp, -⟩ := hc.past
  rw [hp, List.length_append, List.length_cons]
  omega

/-- A close leaves a trace. -/
theorem World.Closing.length_lt {reply : Except Failure Unit}
    (hc : w.Closing env ref x socket reply w') : w.past.length < w'.past.length := by
  obtain ⟨later, now, hp, hmem⟩ := hc.noted
  have hpos := List.length_pos_of_mem hmem
  rw [hp, List.length_append]
  omega

namespace Manager

theorem closeSession_eq_of_not_open (hx : w.now.registry.get? ref = some x)
    (hn : x.handle = none ∨ x.socket = none) :
    closeSession h ref w = (.failed (.of .notOpen), w) := by
  unfold closeSession
  rw [bind_eq (session_some hx)]
  cases hh : x.handle with
  | none => rfl
  | some handle =>
    cases hs : x.socket with
    | none => rfl
    | some socket => simp [hh, hs] at hn

/-- Once the socket of a session was closed, its close goes by the reply. -/
theorem closeSession_of_call {reply : Except Failure Unit} {w₁ : World ω}
    (hx : w.HasSocket ref x handle socket)
    (hcall : h.call none (.close socket) w = (.returned reply, w₁))
    (hc : w.Called h.environment none (.close socket) reply w₁) :
    ∃ w', closeSession h ref w =
        (Outcome.ofExcept (reply.mapError (closeFailure handle.number)), w') ∧
      w.Closing h.environment ref x socket reply w' := by
  have hx₁ : w₁.now.registry.get? ref = some x := by rw [hc.registry, hx.session]
  unfold closeSession
  rw [bind_eq (session_some hx.session)]
  simp only [hx.handle, hx.socket]
  rw [bind_eq hcall]
  cases reply with
  | error f =>
    have hsame : w₁.now.registry = w.now.registry.set ref x := by
      rw [hc.registry, Registry.set_self hx.session]
    dsimp only
    split
    · rename_i hs
      refine ⟨w₁.push (.noticed (.closeFailed handle.number f.reason.errno?)), ?_,
        ⟨hsame, hc.sockets, w₁, [_], hc, rfl⟩⟩
      show _ = (Outcome.failed (closeFailure handle.number f), _)
      simp only [closeFailure, hs, if_true]
      rfl
    · rename_i hs
      refine ⟨w₁, ?_, ⟨hsame, hc.sockets, w₁, [], hc, rfl⟩⟩
      show _ = (Outcome.failed (closeFailure handle.number f), _)
      simp only [closeFailure, hs]
      rfl
  | ok a =>
    have hmarked : changeSession ref (fun s => .ok s.markClosed) w₁ =
        (.returned (), w₁.setRegistry (w₁.now.registry.set ref x.markClosed)) :=
      changeSession_ok hx₁ rfl
    refine ⟨(w₁.setRegistry (w₁.now.registry.set ref x.markClosed)).push
      (.noticed (.closed handle.number)), bind_eq hmarked _, ?_⟩
    exact ⟨by simp [push, setRegistry, hc.registry, Session.afterClose], hc.sockets, w₁, [_], hc,
      rfl⟩

/-- A close of a session with a socket closes that socket. -/
theorem closeSession_quiet (hh : h.Quiet) (hx : w.HasSocket ref x handle socket) :
    Ends (fun w' => w.Entered none (.close socket) w' ∨
        ∃ reply, w.Closing h.environment ref x socket reply w')
      (closeSession h ref) w
      (fun _ w' => w.Closing h.environment ref x socket (.ok ()) w')
      (fun f w' => ∃ g, w.Closing h.environment ref x socket (.error g) w' ∧
        f = closeFailure handle.number g) := by
  rcases hh.call_cases none (.close socket) w with ⟨reply, w₁, hcall, hc⟩ | ⟨w₁, hcall, hc⟩
  · obtain ⟨w', heq, hclosing⟩ := closeSession_of_call hx hcall hc
    cases reply with
    | ok a => exact .of_returned heq (.inr ⟨_, hclosing⟩) hclosing
    | error g => exact .of_failed heq (.inr ⟨_, hclosing⟩) ⟨g, hclosing, rfl⟩
  · refine .of_stalled ?_ (.inl hc)
    unfold closeSession
    rw [bind_eq (session_some hx.session)]
    simp only [hx.handle, hx.socket]
    exact bind_stalled hcall _

end Manager

/-! ## Closing by handle -/

/-- From `w` to `w'` a session was dropped, and no other was touched. -/
structure World.Dropped (w : World ω) (ref : SessionRef) (w' : World ω) : Prop where
  valid : w'.now.Valid
  tracked : w'.now.registry.table.refs = w.now.registry.table.refs.filter (· ≠ ref)
  others : ∀ ref', ref' ≠ ref → w'.now.registry.get? ref' = w.now.registry.get? ref'

theorem World.Closing.dropped {reply : Except Failure Unit}
    (hc : w.Closing env ref x socket reply w') (hx : w.HasSocket ref x handle socket)
    (hw : w.now.Valid) : w.Dropped ref (w'.setRegistry (w'.now.registry.remove ref).2) where
  valid := valid_untrack (hc.valid hx hw) ref
  tracked := by
    have hx' : w'.now.registry.get? ref = some (x.afterClose reply) := by
      rw [hc.get? hx.session, if_pos rfl]
    rw [← hc.table]
    exact ((hc.valid hx hw).indexed.remove_eq hx').2
  others := by
    intro ref' hne
    show (w'.now.registry.remove ref).2.get? ref' = _
    rw [Registry.get?_remove, hc.get? hx.session, if_neg hne]

namespace Manager

variable {number : Int} {force : Bool}

theorem closeByHandle_eq_of_none (hf : w.now.registry.findByHandle? number = none) :
    closeByHandle h number force w = (.failed (.of (.handleNotFound number)), w) := by
  unfold closeByHandle
  rw [bind_eq (m := Act.registry) (w := w) rfl, hf]
  rfl

theorem closeByHandle_eq_of_protected (hf : w.now.registry.findByHandle? number = some ref)
    (hx : w.now.registry.get? ref = some x) (hp : x.isProtected = true) :
    closeByHandle h number false w = (.failed (.of (.protectedHandle number)), w) := by
  unfold closeByHandle
  rw [bind_eq (m := Act.registry) (w := w) rfl, hf]
  dsimp only
  rw [bind_eq (session_some hx), hp]
  rfl

/-- Closing by handle closes the socket of the session and drops it either way. -/
theorem closeByHandle_quiet (hh : h.Quiet) (hw : w.now.Valid)
    (hf : w.now.registry.findByHandle? number = some ref) (hx : w.HasSocket ref x handle socket)
    (hp : (x.isProtected && !force) = false) :
    Ends (fun w' => w.past.length < w'.past.length) (closeByHandle h number force) w
      (fun _ w' => w.Dropped ref w')
      (fun f w' => w.Dropped ref w' ∧ ∃ g, h.environment.MayAnswer (.close socket) (.error g) ∧
        f = closeFailure handle.number g) := by
  unfold closeByHandle
  refine .registry_bind ?_
  rw [hf]
  dsimp only
  refine .of_eq (bind_eq (session_some hx.session) _) ?_
  simp only [hp]
  have hclose := (closeSession_quiet hh hx).imp (R := fun w' => w.past.length < w'.past.length)
    (by
      rintro w' (hc | ⟨reply, hc⟩)
      · exact hc.length_lt
      · exact hc.length_lt)
    (fun _ _ _ hp => hp) (fun _ _ _ he => he)
  refine .attempt_bind hclose (fun _ w' hr hc => ?_) ?_
  · exact .onRegistry_bind (.of_returned rfl hr (hc.dropped hx hw))
  · rintro f w' hr ⟨g, hc, rfl⟩
    exact .onRegistry_bind (.fail hr ⟨hc.dropped hx hw, g, hc.mayAnswer, rfl⟩)

end Manager
end TcpSessions
