import TcpSessions.Rehearsal.Script
import TcpSessions.Proofs.Work.Perform
/-!
# The lifecycle of a session

`Session.Coherent` says that the fields of a session fit its state, `Session.Advances` that a
session only moves on: forward through its states, with one handle in its life. Both are kept by
every step that a run takes (`Step.coherent`, `Step.precedes`), so they hold at all its moments,
also while opens and closes of the same session are half done (`Environment.lifecycle`).
-/
namespace TcpSessions

open World

variable {ω : Type} {env : Environment ω} {n : Nat} {w w' : World ω}

/-- The place of a state in the order in which sessions pass them. -/
def SessionState.rank : SessionState → Nat
  | created => 0
  | socketAllocated => 1
  | connected => 2
  | closed => 3

/-- The fields of a session fit its state. -/
structure Session.Coherent (x : Session) : Prop where
  created : x.state = .created → x.handle = none ∧ x.socket = none ∧ x.peer = none
  /-- A handle is the descriptor of the socket attached. -/
  opened : ∀ h, x.handle = some h → (x.state = .socketAllocated ∨ x.state = .connected) ∧
    ∃ socket, x.socket = some socket ∧ socket.descriptor = h.number
  connected : x.state = .connected → x.handle.isSome ∧ x.peer.isSome
  closed : x.state = .closed → x.handle = none ∧ x.socket = none

/-- What a session may become. -/
structure Session.Advances (x x' : Session) : Prop where
  id : x'.id = x.id
  flags : x'.flags = x.flags
  state : x.state.rank ≤ x'.state.rank
  /-- A session that has left its first state gets no handle any more. -/
  handle : x.state ≠ .created → x'.handle = x.handle ∨ x'.handle = none

/-- All sessions ever created are coherent, and no two of them share a socket. -/
structure Situation.Coherent (s : Situation) : Prop where
  sessions : ∀ {ref x}, s.registry.get? ref = some x → x.Coherent
  /-- Sockets are numbered in the order in which they were made. -/
  serials : ∀ {socket}, socket ∈ s.sockets → socket.serial < s.sockets.length
  made : ∀ {ref x socket}, s.registry.get? ref = some x → x.socket = some socket →
    socket ∈ s.sockets
  owner : ∀ {ref ref' x x' socket}, s.registry.get? ref = some x →
    s.registry.get? ref' = some x' → x.socket = some socket → x'.socket = some socket → ref = ref'

/-- The second situation can come after the first: all sessions advance, and a session only gets
sockets made for it. -/
structure Situation.Precedes (s s' : Situation) : Prop where
  sessions : ∀ {ref x}, s.registry.get? ref = some x →
    ∃ x', s'.registry.get? ref = some x' ∧ x.Advances x'
  sockets : s.sockets <+: s'.sockets
  /-- A socket that was there before is attached only where it was. -/
  owner : ∀ {ref x' socket}, s'.registry.get? ref = some x' → x'.socket = some socket →
    socket ∈ s.sockets → ∃ x, s.registry.get? ref = some x ∧ x.socket = some socket

/-! ## One session -/

theorem Handle.number_of_ofInt? {d : Int} {h : Handle} (hd : Handle.ofInt? d = some h) :
    d = h.number := by
  unfold Handle.ofInt? at hd
  split at hd
  · rw [← Option.some.inj hd]
  · cases hd

theorem SessionState.rank_le_closed (s : SessionState) : s.rank ≤ closed.rank := by
  cases s <;> decide

namespace Session

variable {x x' x'' : Session} {owned : Prop}

theorem coherent_new (id : Int) (flags : SessionFlags) : Coherent { id, flags } := by
  constructor <;> simp

theorem Coherent.rank_le_of_isOpen (hx : x.Coherent) (ho : x.isOpen) :
    x.state.rank ≤ SessionState.connected.rank := by
  obtain ⟨h, hh⟩ := Option.isSome_iff_exists.1 ho
  rcases (hx.opened h hh).1 with hs | hs
  · simp [hs, SessionState.rank]
  · simp [hs]

theorem Change.coherent (hc : x.Change owned w w' x') (hx : x.Coherent) : x'.Coherent := by
  cases hc with
  | same => exact hx
  | bound socket _ _ _ _ => exact {
      created := nofun
      opened := fun h hh => ⟨.inl rfl, socket, rfl, Handle.number_of_ofInt? hh⟩
      connected := nofun
      closed := nofun }
  | target peer _ hs => exact {
      created := fun hcreated => absurd hcreated hs
      opened := hx.opened
      connected := fun hconnected => ⟨(hx.connected hconnected).1, rfl⟩
      closed := hx.closed }
  | joined peer _ ho => exact {
      created := nofun
      opened := fun h hh => ⟨.inr rfl, (hx.opened h hh).2⟩
      connected := fun _ => ⟨ho, rfl⟩
      closed := nofun }
  | closed socket _ _ _ _ => exact {
      created := nofun
      opened := nofun
      connected := nofun
      closed := fun _ => ⟨rfl, rfl⟩ }

theorem Advances.refl (x : Session) : x.Advances x := ⟨rfl, rfl, Nat.le_refl _, fun _ => .inl rfl⟩

theorem Advances.state_ne_created (h : x.Advances x') (hs : x.state ≠ .created) :
    x'.state ≠ .created := by
  intro hs'
  have hrank := h.state
  rw [hs'] at hrank
  cases hx : x.state <;> simp_all [SessionState.rank]

theorem Advances.trans (h : x.Advances x') (h' : x'.Advances x'') : x.Advances x'' where
  id := h'.id.trans h.id
  flags := h'.flags.trans h.flags
  state := Nat.le_trans h.state h'.state
  handle hs := by
    rcases h'.handle (h.state_ne_created hs) with he | he
    · rw [he]; exact h.handle hs
    · exact .inr he

theorem Change.advances (hc : x.Change owned w w' x') (hx : x.Coherent) : x.Advances x' := by
  cases hc with
  | same => exact .refl x
  | bound socket _ hs _ _ => exact ⟨rfl, rfl, by simp [hs, SessionState.rank], fun h => absurd hs h⟩
  | target peer _ _ => exact ⟨rfl, rfl, Nat.le_refl _, fun _ => .inl rfl⟩
  | joined peer _ ho => exact ⟨rfl, rfl, hx.rank_le_of_isOpen ho, fun _ => .inl rfl⟩
  | closed socket _ _ _ _ => exact ⟨rfl, rfl, x.state.rank_le_closed, fun _ => .inr rfl⟩

/-- A session has the socket it had before or one just made. -/
theorem Change.socket_eq {socket : Socket} (hc : x.Change owned w w' x')
    (hs : x'.socket = some socket) :
    x.socket = some socket ∨ socket.serial = w.now.sockets.length ∧ socket ∈ w'.now.sockets := by
  cases hc with
  | same => exact .inl hs
  | bound s _ _ hserial hmem =>
    obtain rfl : s = socket := by simpa [Session.bound] using hs
    exact .inr ⟨hserial, hmem⟩
  | target peer _ _ => exact .inl hs
  | joined peer _ _ => exact .inl hs
  | closed s _ _ _ _ => simp [Session.markClosed] at hs

end Session

/-! ## All sessions -/

theorem Situation.coherent_start : Situation.Coherent {} where
  sessions := by intro ref x hx; simp [Registry.get?] at hx
  serials := by intro socket hs; cases hs
  made := by intro ref x socket hx; simp [Registry.get?] at hx
  owner := by intro ref ref' x x' socket hx; simp [Registry.get?] at hx

namespace Situation

variable {s s' s'' : Situation}

theorem Precedes.trans (h : s.Precedes s') (h' : s'.Precedes s'') : s.Precedes s'' where
  sessions := by
    intro ref x hx
    obtain ⟨x', hx', ha⟩ := h.sessions hx
    obtain ⟨x'', hx'', ha'⟩ := h'.sessions hx'
    exact ⟨x'', hx'', ha.trans ha'⟩
  sockets := h.sockets.trans h'.sockets
  owner := by
    intro ref x'' socket hx'' hs hmem
    obtain ⟨x', hx', hs'⟩ := h'.owner hx'' hs (h.sockets.subset hmem)
    exact h.owner hx' hs' hmem

end Situation

namespace World

variable {ref ref' : SessionRef} {x' y' : Session} {socket : Socket}

theorem Step.serials (h : Step env n w w') (hw : w.now.Coherent) (hs : socket ∈ w'.now.sockets) :
    socket.serial < w'.now.sockets.length := by
  cases h with
  | attach f d s x hn hx hcreated ht =>
    simp only [World.attach, List.mem_append, List.mem_singleton, List.length_append,
      List.length_singleton] at hs ⊢
    rcases hs with hs | rfl
    · have := hw.serials hs
      omega
    · simp [World.nextSocket]
  | _ => exact hw.serials hs

/-- A session after a step has a socket that it had before, or the step made it for it. -/
theorem Step.socket_origin (h : Step env n w w') (hx' : w'.now.registry.get? ref = some x')
    (hs : x'.socket = some socket) :
    ∃ x, w.now.registry.get? ref = some x ∧ (x.socket = some socket ∨
      socket.serial = w.now.sockets.length ∧ socket ∈ w'.now.sockets) := by
  rcases h.origin hx' with ⟨x, hx, hc⟩ | ⟨id, flags, rfl⟩
  · exact ⟨x, hx, hc.socket_eq hs⟩
  · cases hs

theorem Step.owner (h : Step env n w w') (hw : w.now.Coherent)
    (hx' : w'.now.registry.get? ref = some x') (hy' : w'.now.registry.get? ref' = some y')
    (hs : x'.socket = some socket) (hs' : y'.socket = some socket) : ref = ref' := by
  obtain ⟨x, hx, hxs⟩ := h.socket_origin hx' hs
  obtain ⟨y, hy, hys⟩ := h.socket_origin hy' hs'
  -- a socket that a session had before has a smaller number than a new one
  have old_lt : ∀ {r : SessionRef} {z : Session}, w.now.registry.get? r = some z →
      z.socket = some socket → socket.serial < w.now.sockets.length :=
    fun hz hzs => hw.serials (hw.made hz hzs)
  have ne_of_new : ∀ {r : SessionRef} {z z' : Session}, w.now.registry.get? r = some z →
      z'.socket = some socket → socket.serial = w.now.sockets.length → z' ≠ z := by
    rintro r z z' hz hzs hnew rfl
    have := old_lt hz hzs
    omega
  rcases hxs with hxs | ⟨hnew, _⟩ <;> rcases hys with hys | ⟨hnew', _⟩
  · exact hw.owner hx hy hxs hys
  · have := old_lt hx hxs
    omega
  · have := old_lt hy hys
    omega
  · exact h.eq_of_changed hx hx' hy hy' (ne_of_new hx hs hnew) (ne_of_new hy hs' hnew')

theorem Step.coherent (h : Step env n w w') (hw : w.now.Coherent) : w'.now.Coherent where
  sessions := by
    intro ref x' hx'
    rcases h.origin hx' with ⟨x, hx, hc⟩ | ⟨id, flags, rfl⟩
    · exact hc.coherent (hw.sessions hx)
    · exact Session.coherent_new id flags
  serials := h.serials hw
  made := by
    intro ref x' socket hx' hs
    obtain ⟨x, hx, hxs | ⟨_, hmem⟩⟩ := h.socket_origin hx' hs
    · exact h.sockets_prefix.subset (hw.made hx hxs)
    · exact hmem
  owner := h.owner hw

theorem Step.precedes (h : Step env n w w') (hw : w.now.Coherent) : w.now.Precedes w'.now where
  sessions := by
    intro ref x hx
    obtain ⟨x', hx', hc⟩ := h.change hx
    exact ⟨x', hx', hc.advances (hw.sessions hx)⟩
  sockets := h.sockets_prefix
  owner := by
    intro ref x' socket hx' hs hmem
    obtain ⟨x, hx, hxs | ⟨hnew, _⟩⟩ := h.socket_origin hx' hs
    · exact ⟨x, hx, hxs⟩
    · have := hw.serials hmem
      omega

end World

/-! ## Runs -/

/-- At every moment of a run all sessions are coherent, and each moment precedes the later ones:
sessions never go back, keep their ids and flags, and have one handle in their life. -/
theorem Environment.lifecycle (m : Manager) (bound : Nat) {qs : List Request} (start : ω)
    (henv : env.Nests Request.OfManager) (hqs : ∀ q ∈ qs, q.OfManager) :
    (∀ s ∈ (env.after m bound qs start).moments, s.Coherent) ∧
      (env.after m bound qs start).moments.Pairwise fun later earlier =>
        earlier.Precedes later := by
  have hsince := env.after_since m bound start henv hqs
  have hstart : (World.mk {} [] start).now.Coherent := Situation.coherent_start
  constructor
  · exact hsince.forall_moments (H := fun _ => True) (P := fun u => u.now.Coherent)
      (fun _ _ => trivial) hstart (fun hs _ hu => hs.coherent hu) trivial (fun hu => hu)
      (by simpa [World.moments] using hstart)
  · exact hsince.moments_pairwise (P := fun u => u.now.Coherent) Situation.Precedes.trans
      (fun hs hu => ⟨hs.coherent hu, hs.precedes hu⟩) hstart (by simp [World.moments])

/-- A session is closed while it connects, and that close is re-entered. -/
def Script.closedWhileConnecting : Script where
  hosts := [("gate", { addresses := [[192, 0, 2, 1]] })]
  coming := [{
    connect := some [("192.0.2.1",
      [{ nested := [.operation (.close 1)], failure := some .interrupt }])]
    close := [{ nested := [.operation (.close 1)] }] }]

theorem Environment.lifecycle_reentrant :
    let env := Script.environment.nesting Request.OfManager
    let w := env.after {} 4 [.operation (.openSession { host := "gate" }), .operation .listAll]
      Script.closedWhileConnecting
    (w.moments.map fun s => s.registry.sessions.map (·.state)).eraseReps =
        [[.closed], [.socketAllocated], [.created], []] ∧
      (∀ s ∈ w.moments, s.Coherent) ∧
      w.moments.Pairwise fun later earlier => earlier.Precedes later := by
  refine ⟨by decide +kernel, ?_⟩
  exact Environment.lifecycle {} 4 Script.closedWhileConnecting
    (Script.environment.nesting_nests Request.OfManager) (by decide)

end TcpSessions
