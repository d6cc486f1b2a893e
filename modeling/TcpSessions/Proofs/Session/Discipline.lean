import TcpSessions.Rehearsal.Script
import TcpSessions.Proofs.Manager.QuietClosing
import TcpSessions.Proofs.Manager.QuietOpening
import TcpSessions.Proofs.Work.Keeps
/-!
# The order of the calls on a socket

While no operation is nested in a call, the calls on each socket come in a fixed order: an option,
connects until one succeeds, closes until one succeeds. Operations far apart in a run take part in
it; what ties them together is `World.Orderly`: a socket that a session still has was never closed
successfully, and one that was not made yet was never called. Every part of every operation keeps
that (`Environment.Quiet.maintains_orderly`).
-/
namespace TcpSessions

open Act World

variable {ω : Type} {h : Host ω} {env : Environment ω} {w u : World ω}
variable {ref : SessionRef} {x : Session} {handle : Handle} {socket : Socket}
variable {flags : SessionFlags} {calls : List SocketCall}

/-- On every socket, each call was allowed by the earlier ones. -/
def World.Tidy (w : World ω) : Prop :=
  ∀ s, (socketCalls s w.past).Pairwise fun later earlier => earlier.MayPrecede later

/-- The calls on all sockets so far came in order, and the order can go on. -/
structure World.Orderly (w : World ω) : Prop where
  valid : w.now.Valid
  tidy : w.Tidy
  /-- Sockets that were not made yet were not called. -/
  fresh : ∀ s, s ∉ w.now.sockets → socketCalls s w.past = []
  /-- No close of a socket that a session still has succeeded. -/
  attached : ∀ {ref x s}, w.now.registry.get? ref = some x → x.socket = some s →
    ∀ d ∈ socketCalls s w.past, d.call.isClose → ∃ f, d.ending = .failed f

theorem World.orderly_start (start : ω) : World.Orderly { outside := start } where
  valid := Situation.valid_start
  tidy := fun _ => .nil
  fresh := fun _ _ => rfl
  attached := by
    intro ref x s hx
    simp [Registry.get?] at hx

namespace World.Orderly

/-! ## Changes that call no socket -/

/-- The sessions and the calls stay as they are. -/
theorem congr (hw : w.Orderly) (hi : u.now.registry.Indexed)
    (hr : u.now.registry.sessions = w.now.registry.sessions) (hs : u.now.sockets = w.now.sockets)
    (hc : ∀ s, socketCalls s u.past = socketCalls s w.past) : u.Orderly where
  valid := ⟨hw.valid.coherent.congr hr hs, hi⟩
  tidy := by
    intro s
    rw [hc]
    exact hw.tidy s
  fresh := by
    intro s hmem
    rw [hc]
    exact hw.fresh s (hs ▸ hmem)
  attached := by
    intro ref x s hx hsock
    rw [hc]
    rw [Registry.get?, hr] at hx
    exact hw.attached hx hsock

theorem lookedUp (hw : w.Orderly) (hl : w.LookedUp u) : u.Orderly :=
  hw.congr (hl.registry ▸ hw.valid.indexed) (congrArg Registry.sessions hl.registry) hl.sockets
    hl.calls

/-! ## A close -/

/-- A close may follow whatever was called on the socket of a session. -/
theorem tidy_of_close (hw : w.Orderly) (hx : w.HasSocket ref x handle socket) {e : CallEnd}
    (hc : ∀ s, socketCalls s u.past =
      if socket = s then ⟨.close socket, e⟩ :: socketCalls s w.past else socketCalls s w.past) :
    u.Tidy := by
  intro s
  rw [hc]
  split
  · rename_i hs
    subst hs
    refine List.pairwise_cons.2 ⟨fun d hd => ?_, hw.tidy socket⟩
    exact SocketCall.mayPrecede_of_isClose rfl (by simp [socket?_of_mem_socketCalls hd])
      (hw.attached hx.session hx.socket d hd)
  · exact hw.tidy s

theorem closing {reply : Except Failure Unit} (hw : w.Orderly)
    (hx : w.HasSocket ref x handle socket) (hc : w.Closing env ref x socket reply u) :
    u.Orderly where
  valid := hc.valid hx hw.valid
  tidy := hw.tidy_of_close hx hc.socketCalls_eq
  fresh := by
    intro s hs
    rw [hc.sockets] at hs
    have hne : socket ≠ s := by
      rintro rfl
      exact hs (hw.valid.coherent.made hx.session hx.socket)
    rw [hc.socketCalls_eq, if_neg hne]
    exact hw.fresh s hs
  attached := by
    intro ref' x' s hx' hs d hd hclose
    rw [hc.get? hx.session] at hx'
    rw [hc.socketCalls_eq] at hd
    cases reply with
    | ok r =>
      -- the session has lost its socket, and no other session has it
      split at hx'
      · obtain rfl := Option.some.inj hx'
        simp [Session.afterClose, Session.markClosed] at hs
      · rename_i hne
        have hother : socket ≠ s := by
          rintro rfl
          exact hne (hw.valid.coherent.owner hx' hx.session hs hx.socket)
        rw [if_neg hother] at hd
        exact hw.attached hx' hs d hd hclose
    | error f =>
      have hold : w.now.registry.get? ref' = some x' := by
        split at hx'
        · rename_i he
          rw [he, hx.session, ← hx']
          rfl
        · exact hx'
      split at hd
      · rcases List.mem_cons.1 hd with rfl | hd
        · exact ⟨f, rfl⟩
        · exact hw.attached hold hs d hd hclose
      · exact hw.attached hold hs d hd hclose

/-! ## An open -/

theorem notMem_of_opening (hw : w.Orderly) (ho : w.Opening flags socket x calls u) :
    socket ∉ w.now.sockets := by
  intro hmem
  have hlt := hw.valid.coherent.serials hmem
  rw [ho.serial] at hlt
  exact Nat.lt_irrefl _ hlt

theorem tidy_of_opening (hw : w.Orderly) (ho : w.Opening flags socket x calls u)
    (ht : Tried calls) : u.Tidy := by
  intro s
  by_cases hs : s = socket
  · rw [hs, ho.calls, hw.fresh socket (hw.notMem_of_opening ho), List.append_nil]
    exact ht.order
  · rw [ho.others s hs]
    exact hw.tidy s

theorem tidy_of_part (hw : w.Orderly) (hp : w.OpenPart flags u) : u.Tidy := by
  rcases hp with hcalls | ⟨socket, x, calls, ho, ht⟩
  · intro s
    rw [hcalls]
    exact hw.tidy s
  · exact hw.tidy_of_opening ho ht

theorem opening (hw : w.Orderly) (hv : u.now.Valid) (ho : w.Opening flags socket x calls u)
    (ht : Tried calls) : u.Orderly where
  valid := hv
  tidy := hw.tidy_of_opening ho ht
  fresh := by
    intro s hs
    rw [ho.sockets, List.mem_append, List.mem_singleton] at hs
    obtain ⟨hold, hne⟩ := not_or.1 hs
    rw [ho.others s hne]
    exact hw.fresh s hold
  attached := by
    intro ref x' s hx' hs d hd hclose
    by_cases hr : ref = w.newcomer
    · rw [hr, ho.get?] at hx'
      obtain rfl := Option.some.inj hx'
      obtain rfl := Option.some.inj (ho.socket_eq.symm.trans hs)
      rw [ho.calls, hw.fresh socket (hw.notMem_of_opening ho), List.append_nil] at hd
      rw [ht.not_close d hd] at hclose
      cases hclose
    · rw [ho.get?_of_ne hr] at hx'
      have hne : s ≠ socket := by
        rintro rfl
        exact hw.notMem_of_opening ho (hw.valid.coherent.made hx' hs)
      rw [ho.others s hne] at hd
      exact hw.attached hx' hs d hd hclose

theorem unmade (hw : w.Orderly) (hv : u.now.Valid) (hu : w.Unmade flags u) : u.Orderly where
  valid := hv
  tidy := by
    intro s
    rw [hu.calls]
    exact hw.tidy s
  fresh := by
    intro s hs
    rw [hu.calls]
    exact hw.fresh s (hu.sockets ▸ hs)
  attached := by
    intro ref x s hx hs
    have hcreated : (w.now.registry.create flags).2.get? ref = some x := by
      rcases hu.registry with hr | hr
      · rwa [hr] at hx
      · rwa [hr, Registry.get?_remove] at hx
    rw [hu.calls]
    cases hold : w.now.registry.get? ref with
    | some y =>
      have hsame : (w.now.registry.create flags).2.get? ref = some y :=
        Registry.get?_create_of_some hold
      obtain rfl := Option.some.inj (hsame.symm.trans hcreated)
      exact hw.attached hold hs
    | none =>
      -- the new session has no socket
      rw [(Registry.eq_of_get?_create hcreated hold).2] at hs
      cases hs

theorem openFails {m : Manager} {r : OpenRequest} {f : Failure} (hw : w.Orderly)
    (hv : u.now.Valid) (hf : m.OpenFails h r w f u) : u.Orderly := by
  cases hf with
  | check f hf => exact hw
  | unresolved family f u hl _ hf => exact hw.lookedUp hl
  | unmade family f u hu hf => exact hw.unmade hv hu
  | option socket x calls f u ho ht hf hs => exact hw.opening hv ho ht
  | attempt a candidates d x calls f u _ _ _ _ ho ht hf => exact hw.opening hv ho ht

end World.Orderly

/-! ## Runs -/

theorem Manager.closeSession_keeps_orderly (hh : h.Quiet) (ref : SessionRef) :
    Keeps Tidy Orderly (closeSession h ref) := by
  intro w hw
  cases hx : w.now.registry.get? ref with
  | none => exact .of_failed (bind_failed (session_none hx) _) hw.tidy hw
  | some x =>
    cases ho : x.isOpen with
    | false =>
      have hn : x.handle = none := by simpa [Session.isOpen] using ho
      exact .of_failed (closeSession_eq_of_not_open hx (.inl hn)) hw.tidy hw
    | true =>
      obtain ⟨handle, socket, hs⟩ := hw.valid.hasSocket hx ho
      refine (closeSession_quiet hh hs).imp ?_ (fun _ u _ hc => hw.closing hs hc) ?_
      · rintro u (hentered | ⟨reply, hc⟩)
        · refine hw.tidy_of_close hs (e := .running) fun s => ?_
          simpa [Call.socket?] using hentered.socketCalls_eq s
        · exact (hw.closing hs hc).tidy
      · rintro f u - ⟨g, hc, -⟩
        exact hw.closing hs hc

theorem Manager.openSession_keeps_orderly (m : Manager) (hsound : h.Sound) (hh : h.Quiet)
    (r : OpenRequest) : Keeps Tidy Orderly (m.openSession h r) := by
  intro w hw
  have hv : (m.openSession h r w).2.now.Valid :=
    (m.openSession_ends hsound (.refl w) r).always.valid hw.valid
  have hends := m.openSession_quiet (w := w) hh r
  refine ⟨hw.tidy_of_part hends.always, fun ref hr => ?_, fun f hf => ?_⟩
  · obtain ⟨-, socket, x, calls, ho, ht, -⟩ := hends.returned ref hr
    exact hw.opening hv ho ht
  · exact hw.openFails hv (hends.failed f hf)

theorem Environment.Quiet.maintains_orderly (henv : env.Quiet) (m : Manager)
    (bound patience : Nat) :
    Host.Maintains ⟨env, perform env m bound, patience⟩ m Tidy Orderly where
  always := fun _ hw => hw.tidy
  notice := fun w n hw => hw.congr hw.valid.indexed rfl rfl fun _ => rfl
  answered := fun w now answer hw => hw.congr hw.valid.indexed rfl rfl fun _ => rfl
  tokens := fun w ts hw => hw.congr hw.valid.indexed rfl rfl fun _ => rfl
  untrack := fun w ref hw =>
    hw.congr (hw.valid.indexed.remove ref) Registry.sessions_remove rfl fun _ => rfl
  close := Manager.closeSession_keeps_orderly (henv.host m bound patience)
  reverse := by
    intro address w hw
    refine (m.reverse_quiet (henv.host m bound patience) address).imp ?_ ?_ ?_
    · exact fun u hl => (hw.lookedUp hl).tidy
    · exact fun _ u hl _ => hw.lookedUp hl
    · exact fun _ u hl _ => hw.lookedUp hl
  openSession := m.openSession_keeps_orderly (henv.nests.sound m bound patience)
    (henv.host m bound patience)

/-- The later call is not a connect if the earlier one is a connect that returned or a close, and
there is none after a close that returned. -/
def SocketCall.LeavesRoomFor (earlier later : SocketCall) : Prop :=
  (later.call.isConnect → earlier.call.isClose = false ∧
    (earlier.call.isConnect → earlier.ending.isReturned = false)) ∧
  (earlier.call.isClose → earlier.ending.isReturned = false)

theorem SocketCall.MayPrecede.leavesRoomFor {d e : SocketCall} (h : d.MayPrecede e) :
    d.LeavesRoomFor e := by
  refine ⟨fun he => ⟨?_, fun hd => ?_⟩, fun hd => ?_⟩
  · cases hd : d.call.isClose with
    | false => rfl
    | true =>
      have hclose := (h.after_close hd).1
      cases hc : e.call <;> simp [hc, Call.isClose, Call.isConnect] at hclose he
  · obtain ⟨f, hf, -⟩ := h.system hd he
    rw [hf]
    rfl
  · obtain ⟨-, f, hf⟩ := h.after_close hd
    rw [hf]
    rfl

/-- The calls on every socket of a run come in order: at most one option, then connects of which
only the last did not fail by the system, then closes of which only the last did not fail. So
nothing connects a socket that is connected or was closed, and nothing calls one after its close
returned. -/
theorem Environment.calls_disciplined (m : Manager) (bound : Nat) {qs : List Request} (start : ω)
    (henv : env.Quiet) (hqs : ∀ q ∈ qs, q.OfManager) (socket : Socket) :
    Disciplined (socketCalls socket (env.after m bound qs start).past).reverse ∧
      (socketCalls socket (env.after m bound qs start).past).reverse.Pairwise
        SocketCall.LeavesRoomFor := by
  have hm : ∀ bound, Host.Maintains ⟨env, perform env m bound, bound + 1⟩ m Tidy Orderly :=
    fun bound => henv.maintains_orderly m bound (bound + 1)
  have htidy : (env.after m bound qs start).Tidy :=
    (runNested_keeps hm bound bound qs hqs _ (orderly_start start)).always
  have horder : (socketCalls socket (env.after m bound qs start).past).reverse.Pairwise
      SocketCall.MayPrecede := List.pairwise_reverse.2 (htidy socket)
  refine ⟨disciplined_of_pairwise (fun d hd => ?_) horder, horder.imp fun h => h.leavesRoomFor⟩
  simp [socket?_of_mem_socketCalls (List.mem_reverse.1 hd)]

/-- The first connect is interrupted, then its candidate refuses. Of two closes the first fails. -/
def Script.stubborn : Script where
  hosts := [("gate", { addresses := [[192, 0, 2, 1], [192, 0, 2, 2]] })]
  coming := [{
    connect := some [("192.0.2.1", [{ failure := some .interrupt },
      { failure := some (.of (.system .refused .nothing)) }])]
    close := [{ failure := some (.of (.fault .runtime .nothing)) }] }]

theorem Environment.calls_disciplined_stubborn :
    let w := (Script.environment.nesting Request.OfToken).after {} 4
      [.operation (.openSession { host := "gate" }), .operation (.remove 1),
        .operation (.closeByHandle 10 true), .operation (.close 1)] Script.stubborn
    let socket : Socket := ⟨0, 10⟩
    let calls := (socketCalls socket w.past).reverse
    calls.map (·.call) = [.setInline socket, .connect socket (.inet "192.0.2.1" 23),
        .connect socket (.inet "192.0.2.1" 23), .connect socket (.inet "192.0.2.2" 23),
        .close socket, .close socket] ∧
      calls.map (·.ending.isReturned) = [true, false, false, true, false, true] ∧
      Disciplined calls ∧ calls.Pairwise SocketCall.LeavesRoomFor := by
  refine ⟨by decide +kernel, by decide +kernel, ?_⟩
  exact Environment.calls_disciplined {} 4 Script.stubborn
    (Script.environment.nesting_nests Request.OfToken) (by decide) ⟨0, 10⟩

end TcpSessions
