import TcpSessions.Proofs.Session.Lifecycle
/-!
# No socket is lost

Every socket that a factory returned is attached to a tracked session, or its close was tried
(`World.Holds`). Each step keeps that, since a session is given up only when it has no handle or its
close was tried. It needs that no operation is nested in a call: a nested teardown drops a session
that an outer open then goes on with.
-/
namespace TcpSessions

open World

variable {ω : Type} {env : Environment ω} {n : Nat} {w w' : World ω} {socket : Socket}

/-- A tracked session has the socket and its descriptor as its handle. -/
def World.Keeps (w : World ω) (socket : Socket) : Prop :=
  ∃ ref ∈ w.now.registry.table.refs, ∃ x, w.now.registry.get? ref = some x ∧
    x.socket = some socket ∧ ∃ h, x.handle = some h ∧ h.number = socket.descriptor

/-- A tracked session has the socket, or its close was tried. -/
def World.Holds (w : World ω) (socket : Socket) : Prop := w.Keeps socket ∨ Attempted w.past socket

/-- No socket is lost so far. -/
structure World.Retains (w : World ω) : Prop where
  coherent : w.now.Coherent
  ordered : w.now.registry.table.Ordered
  holds : ∀ socket ∈ w.now.sockets, w.Holds socket

namespace World

theorem Step.holds (h : Step env n w w') (hw : w.Retains) (hs : w.Holds socket) :
    w'.Holds socket := by
  rcases hs with ⟨ref, hr, x, hx, hsock, k, hk, hd⟩ | ha
  · rcases h.tracked hw.ordered hr with hr' | hf
    · obtain ⟨x', hx', hc⟩ := h.change hx
      cases hc with
      | same => exact .inl ⟨ref, hr', x, hx', hsock, k, hk, hd⟩
      | bound s _ hcreated _ _ =>
        -- a session that gets a socket has no handle yet
        have hnone := ((hw.coherent.sessions hx).created hcreated).1
        rw [hnone] at hk
        cases hk
      | target peer _ _ => exact .inl ⟨ref, hr', _, hx', hsock, k, hk, hd⟩
      | joined peer _ _ => exact .inl ⟨ref, hr', _, hx', hsock, k, hk, hd⟩
      | closed s _ hs ha _ =>
        obtain rfl : s = socket := by simpa [hs] using hsock
        exact .inr ha
    · have ho : x.isOpen := by simp [Session.isOpen, hk]
      exact .inr ((hf x hx ho socket hsock).mono h.past_suffix)
  · exact .inr (ha.mono h.past_suffix)

/-- A new socket is the handle of the session that it was made for. -/
theorem keeps_attach {family : Family} {d : Int} {ref : SessionRef} {x : Session}
    (hx : w.now.registry.get? ref = some x) (hr : ref ∈ w.now.registry.table.refs) (hd : d ≠ -1) :
    (w.attach family d ref x).Keeps (w.nextSocket d) := by
  refine ⟨ref, hr, x.bound (w.nextSocket d), Registry.get?_set_self hx _, rfl, ⟨d, hd⟩, ?_, rfl⟩
  simp [Session.bound, nextSocket, Handle.ofInt?, hd]

theorem Step.retains (henv : env.Quiet) (h : Step env n w w')
    (hd : ∀ socket ∈ w'.now.sockets, socket.descriptor ≠ -1) (hw : w.Retains) : w'.Retains where
  coherent := h.coherent hw.coherent
  ordered := h.ordered hw.ordered
  holds := by
    intro socket hs
    by_cases hold : socket ∈ w.now.sockets
    · exact h.holds hw (hw.holds socket hold)
    · obtain ⟨family, d, ref, x, hx, _, ht, rfl, rfl⟩ := h.made hs hold
      exact .inl (keeps_attach hx (ht henv) (hd _ hs))

theorem retains_start (start : ω) : World.Retains { outside := start } where
  coherent := Situation.coherent_start
  ordered := Table.ordered_empty
  holds := by intro socket hs; cases hs

/-- A run loses no socket if none of its new sockets is without a descriptor. -/
theorem Since.retains (henv : env.Quiet) (h : Since env w w') (hw : w.Retains)
    (hd : ∀ socket ∈ w'.now.sockets, socket.descriptor ≠ -1) : w'.Retains :=
  h.induct_assuming (H := fun u => ∀ socket ∈ u.now.sockets, socket.descriptor ≠ -1)
    (fun hs hd' socket hmem => hd' socket (hs.sockets_prefix.subset hmem)) hw
    (fun hs hd' hu => hs.retains henv hd' hu) hd

end World

/-- The sockets of a run are those that the factory returned, and however operations end, each of
them is attached to a tracked session or its close was tried. -/
theorem Environment.no_socket_lost (m : Manager) (bound : Nat) {qs : List Request} (start : ω)
    (henv : env.Quiet) (hqs : ∀ q ∈ qs, q.OfManager)
    (hd : ∀ socket ∈ (env.after m bound qs start).now.sockets, socket.descriptor ≠ -1) :
    (env.after m bound qs start).Accounted ∧
      ∀ socket ∈ (env.after m bound qs start).now.sockets,
        (env.after m bound qs start).Holds socket := by
  have hsince := env.after_since m bound start henv.nests hqs
  have hretains : (env.after m bound qs start).Retains :=
    hsince.induct_assuming (H := fun u => ∀ socket ∈ u.now.sockets, socket.descriptor ≠ -1)
      (fun hs hd' socket hmem => hd' socket (hs.sockets_prefix.subset hmem))
      (retains_start start) (fun hs hd' hu => hs.retains henv hd' hu) hd
  exact ⟨hsince.induct (P := Accounted) rfl fun hs hu => hs.accounted hu, hretains.holds⟩

/-- Three sockets whose opens fail: after a candidate that is too short, by a fault of the option,
and by an interrupt. The close of the first fails as well. -/
def Script.failing : Script where
  hosts := [("gate", { addresses := [[192, 0, 2, 1], [192, 0, 2]] })]
  coming := [
    { connect := some [("192.0.2.1", [{ failure := some (.of (.system .refused .nothing)) }])]
      close := [{ failure := some (.of (.system .general .nothing)) }] },
    { setInline := { failure := some (.of (.fault .runtime .nothing)) } },
    { connect := some [("192.0.2.1",
        [{ nested := [.token 1 .cancel], failure := some .interrupt }])] }]

theorem Environment.no_socket_lost_failing :
    let w := (Script.environment.nesting Request.OfToken).after {} 4
      [.operation (.openSession { host := "gate" }), .operation (.openSession { host := "gate" }),
        .operation (.openSession { host := "gate", token := some 1 }),
        .operation (.closeByHandle 10 true), .operation (.remove 2)] Script.failing
    w.now.sockets.map (·.descriptor) = [10, 11, 12] ∧ w.now.registry.trackedIds = [3] ∧
      w.Accounted ∧ ∀ socket ∈ w.now.sockets, w.Holds socket := by
  refine ⟨by decide +kernel, by decide +kernel, ?_⟩
  exact Environment.no_socket_lost {} 4 Script.failing
    (Script.environment.nesting_nests Request.OfToken) (by decide) (by decide +kernel)

end TcpSessions
