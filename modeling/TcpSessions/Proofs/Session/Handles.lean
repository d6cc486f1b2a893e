import TcpSessions.Proofs.Session.Lifecycle
/-!
# Handles identify sessions

The system hands out descriptors again once their sockets are closed. As long as it hands out none
that is in use (`DescriptorsFresh`), no two sessions have the same handle, tracked or not: a session
that has a handle has a socket whose close has not returned, and no two such sockets have the same
descriptor (`World.Exclusive`).
-/
namespace TcpSessions

open World

variable {ω : Type} {env : Environment ω} {n : Nat} {w w' : World ω} {socket : Socket}

/-- The sockets that there were when an event was noted. -/
def Event.sockets (e : Event) : List Socket := e.situation?.elim [] (·.sockets)

/-- A factory only returns a descriptor that is not in use: every socket made before that has it was
closed. -/
def Event.Fresh (earlier : List Event) (e : Event) : Prop :=
  ∀ d ∈ e.descriptor?, d ≠ -1 ∧ ∀ socket ∈ e.sockets, socket.descriptor = d → Released earlier socket

/-- No descriptor was handed out while it was in use. -/
def DescriptorsFresh : List Event → Prop
  | [] => True
  | e :: past => e.Fresh past ∧ DescriptorsFresh past

instance (earlier : List Event) (e : Event) : Decidable (e.Fresh earlier) :=
  inferInstanceAs (Decidable (∀ d ∈ e.descriptor?, d ≠ -1 ∧
    ∀ socket ∈ e.sockets, socket.descriptor = d → Released earlier socket))

instance decidableFresh : (past : List Event) → Decidable (DescriptorsFresh past)
  | [] => isTrue trivial
  | e :: past =>
    have := decidableFresh past
    inferInstanceAs (Decidable (e.Fresh past ∧ DescriptorsFresh past))

theorem DescriptorsFresh.of_suffix {past past' : List Event} (hs : past <:+ past')
    (h : DescriptorsFresh past') : DescriptorsFresh past := by
  obtain ⟨later, rfl⟩ := hs
  induction later with
  | nil => exact h
  | cons e later ih => exact ih h.2

/-- No two sessions have the same handle. -/
def Situation.HandlesDistinct (s : Situation) : Prop :=
  ∀ ref ref' x x' h, s.registry.get? ref = some x → s.registry.get? ref' = some x' →
    x.handle = some h → x'.handle = some h → ref = ref'

/-- Sessions with a handle have a socket in use: no close of it has returned. -/
structure World.Engaged (w : World ω) : Prop where
  coherent : w.now.Coherent
  released : ∀ {socket}, Released w.past socket → socket ∈ w.now.sockets
  inUse : ∀ {ref x socket}, w.now.registry.get? ref = some x → x.isOpen →
    x.socket = some socket → ¬ Released w.past socket

/-- Moreover, sockets in use have different descriptors. -/
structure World.Exclusive (w : World ω) : Prop extends w.Engaged where
  descriptors : ∀ {socket socket'}, socket ∈ w.now.sockets → socket' ∈ w.now.sockets →
    ¬ Released w.past socket → ¬ Released w.past socket' →
    socket.descriptor = socket'.descriptor → socket = socket'

/-! ## One step -/

theorem Event.Fits.not_closes {s : Situation} {e : Event} (he : e.Fits s) (socket : Socket) :
    e.closes socket = false := by
  cases e with
  | left c reply now =>
    cases c with
    | close s =>
      cases reply with
      | ok d => cases he.2
      | error f => rfl
    | _ => rfl
  | _ => rfl

/-- A session that is open with a socket it had before was open before. -/
theorem Session.Change.isOpen {owned : Prop} {x x' : Session} (hc : x.Change owned w w' x')
    (hx : x.Coherent) (hs : x.socket = some socket) (ho : x'.isOpen) : x.isOpen := by
  cases hc with
  | bound s _ hcreated _ _ =>
    rw [(hx.created hcreated).2.1] at hs
    cases hs
  | closed s _ _ _ _ => cases ho
  | _ => exact ho

namespace World

/-- A socket whose close has returned was closed before, or the step closes the session that had
it. -/
theorem Step.released (h : Step env n w w') (hr : Released w'.past socket) :
    Released w.past socket ∨ ∃ ref x, w.now.registry.get? ref = some x ∧ x.isOpen ∧
      x.socket = some socket ∧ w'.now.registry.get? ref = some x.markClosed := by
  cases h with
  | note e he =>
    rcases released_cons.1 hr with hc | hr
    · rw [he.not_closes socket] at hc
      cases hc
    · exact .inl hr
  | attach f d ref x _ _ _ _ =>
    rcases released_cons.1 hr with hc | hr
    · cases hc
    · exact .inl hr
  | close s ref x hx _ hs =>
    rcases released_cons.1 hr with hc | hr
    · obtain rfl : s = socket := by simpa [Event.closes] using hc
      rcases hs with ⟨ho, hsock⟩ | ⟨hr, _⟩
      · exact .inr ⟨ref, x, hx, ho, hsock, Registry.get?_set_self hx _⟩
      · exact .inl hr
    · exact .inl hr
  | _ => exact .inl hr

theorem Step.engaged (h : Step env n w w') (hw : w.Engaged) : w'.Engaged where
  coherent := h.coherent hw.coherent
  released := by
    intro socket hr
    rcases h.released hr with hr | ⟨ref, x, hx, _, hsock, _⟩
    · exact h.sockets_prefix.subset (hw.released hr)
    · exact h.sockets_prefix.subset (hw.coherent.made hx hsock)
  inUse := by
    intro ref x' socket hx' ho hsock hr
    obtain ⟨x, hx, hxs⟩ := h.socket_origin hx' hsock
    have hmem : socket ∈ w.now.sockets := by
      rcases h.released hr with hr | ⟨_, y, hy, _, hys, _⟩
      · exact hw.released hr
      · exact hw.coherent.made hy hys
    have hxs : x.socket = some socket := by
      rcases hxs with hxs | ⟨hnew, _⟩
      · exact hxs
      · have := hw.coherent.serials hmem
        omega
    -- the socket was in use before, so the step itself closes the session that has it
    rcases h.released hr with hr | ⟨ref', y, hy, hyo, hys, hy'⟩
    · obtain ⟨z, hz, hc⟩ := h.change hx
      obtain rfl := Option.some.inj (hx'.symm.trans hz)
      exact hw.inUse hx (hc.isOpen (hw.coherent.sessions hx) hxs ho) hxs hr
    · obtain rfl := hw.coherent.owner hx hy hxs hys
      obtain rfl := Option.some.inj (hx'.symm.trans hy')
      cases ho

theorem Step.exclusive (h : Step env n w w') (hd : DescriptorsFresh w'.past) (hw : w.Exclusive) :
    w'.Exclusive where
  toEngaged := h.engaged hw.toEngaged
  descriptors := by
    have old : ∀ {socket}, ¬ Released w'.past socket → ¬ Released w.past socket :=
      fun hn hr => hn (hr.mono h.past_suffix)
    -- a new socket has the descriptor of no other that is in use
    have new : ∀ {socket socket'}, socket ∈ w'.now.sockets → socket ∉ w.now.sockets →
        socket' ∈ w.now.sockets → ¬ Released w'.past socket' →
        socket.descriptor ≠ socket'.descriptor := by
      intro socket socket' hs hn hs' hr' heq
      obtain ⟨family, d, ref, x, _, _, _, rfl, rfl⟩ := h.made hs hn
      exact old hr' ((hd.1 d rfl).2 socket' hs' heq.symm)
    intro socket socket' hs hs' hr hr' heq
    by_cases hold : socket ∈ w.now.sockets <;> by_cases hold' : socket' ∈ w.now.sockets
    · exact hw.descriptors hold hold' (old hr) (old hr') heq
    · exact absurd heq.symm (new hs' hold' hold hr)
    · exact absurd heq (new hs hold hold' hr')
    · obtain ⟨family, d, ref, x, _, _, _, rfl, rfl⟩ := h.made hs hold
      simp only [World.attach, List.mem_append, List.mem_singleton] at hs'
      exact (hs'.resolve_left hold').symm

/-! ## All sessions -/

theorem Exclusive.handlesDistinct (hw : w.Exclusive) : w.now.HandlesDistinct := by
  intro ref ref' x x' h hx hx' hh hh'
  obtain ⟨-, socket, hs, hd⟩ := (hw.coherent.sessions hx).opened h hh
  obtain ⟨-, socket', hs', hd'⟩ := (hw.coherent.sessions hx').opened h hh'
  have ho : x.isOpen := by simp [Session.isOpen, hh]
  have ho' : x'.isOpen := by simp [Session.isOpen, hh']
  obtain rfl : socket = socket' :=
    hw.descriptors (hw.coherent.made hx hs) (hw.coherent.made hx' hs') (hw.inUse hx ho hs)
      (hw.inUse hx' ho' hs') (hd.trans hd'.symm)
  exact hw.coherent.owner hx hx' hs hs'

theorem exclusive_start (start : ω) : World.Exclusive { outside := start } where
  coherent := Situation.coherent_start
  released := by rintro socket ⟨e, he, _⟩; cases he
  inUse := by intro ref x socket hx; simp [Registry.get?] at hx
  descriptors := by intro socket socket' hs; cases hs

end World

theorem Handle.eq_iff_number {h k : Handle} : h = k ↔ h.number = k.number := by
  cases h
  cases k
  simp

theorem Session.handle_eq_iff_fd {x : Session} {h : Handle} :
    x.handle = some h ↔ x.fd = h.number := by
  unfold Session.fd
  cases x.handle with
  | none => simp [Handle.toInt, h.isSet.symm]
  | some k => simp [Handle.toInt, Handle.eq_iff_number]

namespace Registry

variable {r : Registry} {ref : SessionRef} {x : Session} {number : Int}

/-- A search by handle finds a tracked session that has it. -/
theorem mem_of_findByHandle? (hf : r.findByHandle? number = some ref) :
    ref ∈ r.table.refs ∧ ∃ x, r.get? ref = some x ∧ x.isOpen ∧ x.fd = number := by
  unfold findByHandle? at hf
  split at hf
  · cases hf
  · rename_i k hk
    refine ⟨List.mem_of_find?_eq_some hf, ?_⟩
    have hany : (r.get? ref).any (·.handle = some k) = true := by simpa using List.find?_some hf
    obtain ⟨x, hx, hh⟩ := (Option.any_eq_true _ _).1 hany
    have hh : x.handle = some k := by simpa using hh
    exact ⟨x, hx, by simp [Session.isOpen, hh],
      (Session.handle_eq_iff_fd.1 hh).trans (Handle.number_of_ofInt? hk).symm⟩

/-- The handle of a tracked session is found, at it or at another that has it. -/
theorem exists_findByHandle? (hr : ref ∈ r.table.refs) (hx : r.get? ref = some x)
    (ho : x.isOpen) : ∃ ref', r.findByHandle? x.fd = some ref' := by
  obtain ⟨k, hk⟩ := Option.isSome_iff_exists.1 ho
  have hof : Handle.ofInt? x.fd = some k := by
    rw [Session.handle_eq_iff_fd.1 hk]
    simp [Handle.ofInt?, k.isSet]
  have hfound : (r.table.refs.find? fun s => (r.get? s).any (·.handle = some k)).isSome :=
    List.find?_isSome.2 ⟨ref, hr, by simp [hx, hk]⟩
  simpa only [findByHandle?, hof] using Option.isSome_iff_exists.1 hfound

end Registry

/-- Looking up a handle finds the one tracked session that has it. -/
theorem Situation.HandlesDistinct.findByHandle?_eq_some {s : Situation} (hs : s.HandlesDistinct)
    {handle : Int} (hh : handle ≠ -1) {ref : SessionRef} :
    s.registry.findByHandle? handle = some ref ↔
      ref ∈ s.registry.table.refs ∧ ∃ x, s.registry.get? ref = some x ∧ x.fd = handle := by
  constructor
  · intro hf
    obtain ⟨hr, x, hx, -, hfd⟩ := Registry.mem_of_findByHandle? hf
    exact ⟨hr, x, hx, hfd⟩
  · rintro ⟨hr, x, hx, hfd⟩
    have hset : ∀ y : Session, y.fd = handle → y.handle = some ⟨handle, hh⟩ :=
      fun y hy => Session.handle_eq_iff_fd.2 hy
    have ho : x.isOpen := by simp [Session.isOpen, hset x hfd]
    obtain ⟨ref', hf⟩ := Registry.exists_findByHandle? hr hx ho
    obtain ⟨-, y, hy, -, hfd'⟩ := Registry.mem_of_findByHandle? hf
    obtain rfl : ref' = ref :=
      hs ref' ref y x ⟨handle, hh⟩ hy hx (hset y (hfd'.trans hfd)) (hset x hfd)
    rwa [hfd] at hf

/-! ## Runs -/

/-- While no descriptor is handed out that is in use, sessions with a handle have different ones at
every moment, and looking up a handle finds the one tracked session that has it. -/
theorem Environment.handles_distinct (m : Manager) (bound : Nat) {qs : List Request} (start : ω)
    (henv : env.Nests Request.OfManager) (hqs : ∀ q ∈ qs, q.OfManager)
    (hd : DescriptorsFresh (env.after m bound qs start).past) :
    ∀ s ∈ (env.after m bound qs start).moments, s.HandlesDistinct ∧
      ∀ handle ref, handle ≠ -1 → (s.registry.findByHandle? handle = some ref ↔
        ref ∈ s.registry.table.refs ∧ ∃ x, s.registry.get? ref = some x ∧ x.fd = handle) := by
  have hstart := exclusive_start start
  have hdistinct : ∀ s ∈ (env.after m bound qs start).moments, s.HandlesDistinct :=
    (env.after_since m bound start henv hqs).forall_moments
      (H := fun u => DescriptorsFresh u.past) (P := World.Exclusive)
      (fun hs hu' => hu'.of_suffix hs.past_suffix) hstart
      (fun hs hu' hu => hs.exclusive hu' hu) hd (fun hu => hu.handlesDistinct)
      (by simpa [World.moments] using hstart.handlesDistinct)
  intro s hs
  exact ⟨hdistinct s hs, fun handle ref hh => (hdistinct s hs).findByHandle?_eq_some hh⟩

/-- A close that is re-entered, after which its descriptor is handed out again, and a close that
fails, after which its descriptor stays in use. -/
def Script.reusing : Script where
  hosts := [("gate", { addresses := [[192, 0, 2, 1]] })]
  coming := [
    { descriptor := some 7, close := [{ nested := [.operation (.close 1)] }] },
    { descriptor := some 8,
      close := [{ failure := some (.of (.system .general .nothing)) }] },
    { descriptor := some 7 }]

theorem Environment.handles_distinct_reusing :
    let w := (Script.environment.nesting Request.OfManager).after {} 4
      [.operation (.openSession { host := "gate" }), .operation (.openSession { host := "gate" }),
        .operation (.closeByHandle 8 false), .operation (.remove 1),
        .operation (.openSession { host := "gate" })] Script.reusing
    w.now.registry.sessions.map (·.fd) = [-1, 8, 7] ∧ w.now.registry.trackedIds = [3] ∧
      ∀ s ∈ w.moments, s.HandlesDistinct ∧
        ∀ handle ref, handle ≠ -1 → (s.registry.findByHandle? handle = some ref ↔
          ref ∈ s.registry.table.refs ∧ ∃ x, s.registry.get? ref = some x ∧ x.fd = handle) := by
  refine ⟨by decide +kernel, by decide +kernel, ?_⟩
  exact Environment.handles_distinct {} 4 Script.reusing
    (Script.environment.nesting_nests Request.OfManager) (by decide) (by decide +kernel)

end TcpSessions
