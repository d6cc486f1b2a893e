import Mathlib.Data.List.Nodup
import Mathlib.Logic.Relation
import TcpSessions.Proofs.Session.Registry
import TcpSessions.Proofs.Work.History
/-!
# Steps of a run

All that requests to the manager ever do to a world, in small steps. A step is taken by work that
owns the sessions from the `n`-th on: it attaches, directs and connects only those, while any
session may be closed. Invariants of runs are proved step by step; `Proofs/Work/Perform` shows that
runs consist of such steps.
-/
namespace TcpSessions

variable {ω : Type} {env : Environment ω} {n m : Nat} {w w' w'' : World ω}

/-- A session with a new socket. -/
def Session.bound (socket : Socket) (x : Session) : Session :=
  { x with
    socket := some socket
    handle := Handle.ofInt? socket.descriptor
    state := .socketAllocated }

/-- A session that is connected to an endpoint. -/
def Session.joined (peer : Peer) (x : Session) : Session :=
  { x with peer := some peer, state := .connected }

/-- What a step from `w` to `w'` may make of a session. Its owner alone binds, directs and joins it;
it is closed only when a close of its socket has returned. -/
inductive Session.Change (owned : Prop) (w w' : World ω) (x : Session) : Session → Prop
  | same : Change owned w w' x x
  | bound (socket : Socket) (hn : owned) (hs : x.state = .created)
    (hserial : socket.serial = w.now.sockets.length) (hmem : socket ∈ w'.now.sockets) :
    Change owned w w' x (x.bound socket)
  | target (peer : Peer) (hn : owned) (hs : x.state ≠ .created) :
    Change owned w w' x (x.target peer)
  | joined (peer : Peer) (hn : owned) (ho : x.isOpen) : Change owned w w' x (x.joined peer)
  | closed (socket : Socket) (ho : x.isOpen) (hs : x.socket = some socket)
    (ha : Attempted w'.past socket) (hr : Released w'.past socket) :
    Change owned w w' x x.markClosed

/-- How many sessions were ever created. -/
def World.count (w : World ω) : Nat := w.now.registry.sessions.length

/-- Giving a session up loses no socket: it has no handle, or closing its socket was tried. -/
def World.MayForget (w : World ω) (ref : SessionRef) : Prop :=
  ∀ x, w.now.registry.get? ref = some x → x.isOpen →
    ∀ socket, x.socket = some socket → Attempted w.past socket

/-- What an event says about the situation it is noted in. A call of an open is entered only while
its token is not set; replies that change what a session owns are part of other steps. -/
def Event.Fits (s : Situation) : Event → Prop
  | .noticed _ => True
  | @answered now _ => now = s
  | .entered c token now => now = s ∧ (c.startsAttempt = true → s.isSet token = false)
  | .left c reply now => now = s ∧ c.settles reply = false

theorem Event.Fits.descriptor?_eq_none {s : Situation} {e : Event} (he : e.Fits s) :
    e.descriptor? = none := by
  cases e with
  | left c reply now =>
    cases c with
    | createSocket family =>
      cases reply with
      | ok d => cases he.2
      | error f => rfl
    | _ => rfl
  | _ => rfl

namespace World

/-- The socket that a factory returns next, with its descriptor. -/
def nextSocket (w : World ω) (d : Int) : Socket := ⟨w.now.sockets.length, d⟩

/-- The factory returns a socket, which becomes that of a session. -/
def attach (w : World ω) (family : Family) (d : Int) (ref : SessionRef) (x : Session) : World ω :=
  { w with
    now := { w.now with
      registry := w.now.registry.set ref (x.bound (w.nextSocket d))
      sockets := w.now.sockets ++ [w.nextSocket d] }
    past := .left (.createSocket family) (.ok d) w.now :: w.past }

/-- The close of a socket returns, and the session is marked as closed. -/
def close (w : World ω) (socket : Socket) (ref : SessionRef) (x : Session) : World ω :=
  (w.push (.left (.close socket) (.ok ()) w.now)).setRegistry (w.now.registry.set ref x.markClosed)

/-- One step of work that owns the sessions from the `n`-th on. -/
inductive Step (env : Environment ω) (n : Nat) (w : World ω) : World ω → Prop
  /-- The surroundings or the tokens change. -/
  | around (o : ω) (ts : List TokenId) :
    Step env n w { w with now := { w.now with cancelled := ts }, outside := o }
  | note (e : Event) (he : e.Fits w.now) : Step env n w (w.push e)
  | create (flags : SessionFlags) : Step env n w (w.setRegistry (w.now.registry.create flags).2)
  | untrack (ref : SessionRef) (hf : w.MayForget ref) :
    Step env n w (w.setRegistry (w.now.registry.remove ref).2)
  | attach (family : Family) (d : Int) (ref : SessionRef) (x : Session) (hn : n ≤ ref.index)
    (hx : w.now.registry.get? ref = some x) (hs : x.state = .created)
    (ht : env.Quiet → ref ∈ w.now.registry.table.refs) : Step env n w (w.attach family d ref x)
  | target (peer : Peer) (ref : SessionRef) (x : Session) (hn : n ≤ ref.index)
    (hx : w.now.registry.get? ref = some x) (hs : x.state ≠ .created) :
    Step env n w (w.setRegistry (w.now.registry.set ref (x.target peer)))
  | join (peer : Peer) (ref : SessionRef) (x : Session) (hn : n ≤ ref.index)
    (hx : w.now.registry.get? ref = some x) (ho : x.isOpen) :
    Step env n w (w.setRegistry (w.now.registry.set ref (x.joined peer)))
  /-- The session still has the socket that was closed, or a nested request closed it before. -/
  | close (socket : Socket) (ref : SessionRef) (x : Session)
    (hx : w.now.registry.get? ref = some x) (ha : Attempted w.past socket)
    (hs : x.isOpen ∧ x.socket = some socket ∨ Released w.past socket ∧ x.markClosed = x) :
    Step env n w (w.close socket ref x)

theorem Step.mono (hmn : m ≤ n) (h : Step env n w w') : Step env m w w' := by
  cases h with
  | around o ts => exact .around o ts
  | note e he => exact .note e he
  | create flags => exact .create flags
  | untrack ref hf => exact .untrack ref hf
  | attach f d ref x hn hx hs ht => exact .attach f d ref x (Nat.le_trans hmn hn) hx hs ht
  | target peer ref x hn hx hs => exact .target peer ref x (Nat.le_trans hmn hn) hx hs
  | join peer ref x hn hx ho => exact .join peer ref x (Nat.le_trans hmn hn) hx ho
  | close socket ref x hx ha hs => exact .close socket ref x hx ha hs

/-! ## What a step leaves as it is -/

theorem Step.past_suffix (h : Step env n w w') : w.past <:+ w'.past := by
  cases h with
  | note e he => exact List.suffix_cons e w.past
  | attach f d ref x hn hx hs ht => exact List.suffix_cons _ w.past
  | close socket ref x hx ha hs => exact List.suffix_cons _ w.past
  | _ => exact List.suffix_rfl

theorem Step.sockets_prefix (h : Step env n w w') : w.now.sockets <+: w'.now.sockets := by
  cases h with
  | attach f d ref x hn hx hs ht => exact List.prefix_append _ _
  | _ => exact List.prefix_rfl

theorem Step.count_le (h : Step env n w w') : w.count ≤ w'.count := by
  cases h with
  | create flags => simp [count, setRegistry]
  | untrack ref hf => simp [count, setRegistry]
  | attach f d ref x hn hx hs ht => simp [count, World.attach]
  | target peer ref x hn hx hs => simp [count, setRegistry]
  | join peer ref x hn hx ho => simp [count, setRegistry]
  | close socket ref x hx ha hs => simp [count, World.close, setRegistry]
  | _ => exact Nat.le_refl _

/-- A socket that was not there before is made for a session that was created before. -/
theorem Step.made {socket : Socket} (h : Step env n w w') (hs : socket ∈ w'.now.sockets)
    (hn : socket ∉ w.now.sockets) :
    ∃ family d ref x, w.now.registry.get? ref = some x ∧ x.state = .created ∧
      (env.Quiet → ref ∈ w.now.registry.table.refs) ∧ socket = w.nextSocket d ∧
      w' = w.attach family d ref x := by
  cases h with
  | attach f d ref x _ hx hcreated ht =>
    rcases List.mem_append.1 hs with hs | hs
    · exact absurd hs hn
    · exact ⟨f, d, ref, x, hx, hcreated, ht, List.mem_singleton.1 hs, rfl⟩
  | _ => exact absurd hs hn

/-- The sockets are those that a factory returned, in order. -/
def Accounted (w : World ω) : Prop :=
  w.now.sockets.map (·.descriptor) = (w.past.filterMap Event.descriptor?).reverse

theorem Step.accounted (h : Step env n w w') (hw : w.Accounted) : w'.Accounted := by
  unfold Accounted at hw ⊢
  cases h with
  | note e he => simpa [push, List.filterMap_cons, he.descriptor?_eq_none] using hw
  | attach f d ref x _ _ _ _ =>
    simp [World.attach, nextSocket, Event.descriptor?, hw]
  | close socket ref x _ _ _ =>
    simpa [World.close, push, setRegistry, List.filterMap_cons, Event.descriptor?] using hw
  | _ => exact hw

/-- The sockets are numbered in the order in which they were made. -/
def Numbered (w : World ω) : Prop :=
  w.now.sockets.map (·.serial) = List.range w.now.sockets.length

theorem Step.numbered (h : Step env n w w') (hw : w.Numbered) : w'.Numbered := by
  unfold Numbered at hw ⊢
  cases h with
  | attach f d ref x _ _ _ _ => simp [World.attach, nextSocket, List.range_succ, hw]
  | _ => exact hw

theorem Numbered.nodup (hw : w.Numbered) : w.now.sockets.Nodup := by
  refine List.Nodup.of_map (·.serial) ?_
  rw [hw]
  exact List.nodup_range

/-! ## What a step does to the table -/

theorem Step.ordered (h : Step env n w w') (ho : w.now.registry.table.Ordered) :
    w'.now.registry.table.Ordered := by
  cases h with
  | create flags => exact Registry.ordered_create ho
  | untrack ref hf => exact Registry.ordered_remove ho
  | _ => exact ho

/-- A tracked session stays so unless it may be given up. -/
theorem Step.tracked {ref : SessionRef} (h : Step env n w w') (ho : w.now.registry.table.Ordered)
    (hr : ref ∈ w.now.registry.table.refs) :
    ref ∈ w'.now.registry.table.refs ∨ w.MayForget ref := by
  cases h with
  | create flags => exact .inl (Registry.mem_refs_create hr)
  | untrack s hf =>
    by_cases he : ref = s
    · subst he; exact .inr hf
    · exact .inl (Registry.mem_refs_remove ho hr he)
  | _ => exact .inl hr

/-- The past situations are those before, and the one that a step starts from if it notes it. -/
theorem Step.moments (h : Step env n w w') :
    w'.moments = w'.now :: w.moments ∨ w'.moments = w'.now :: w.moments.tail := by
  cases h with
  | note e he =>
    cases e with
    | noticed x => exact .inr rfl
    | answered a => obtain rfl := he; exact .inl rfl
    | entered c token now => obtain ⟨rfl, -⟩ := he; exact .inl rfl
    | left c reply now => obtain ⟨rfl, -⟩ := he; exact .inl rfl
  | attach f d ref x hn hx hs ht => exact .inl rfl
  | close socket ref x hx ha hs => exact .inl rfl
  | _ => exact .inr rfl

/-! ## What a step makes of the sessions -/

variable {ref : SessionRef} {x x' : Session}

theorem Step.change (h : Step env n w w') (hx : w.now.registry.get? ref = some x) :
    ∃ x', w'.now.registry.get? ref = some x' ∧
      x.Change (n ≤ ref.index) w w' x' := by
  -- what `set` does to `ref` when the step changes the session of `s`
  have set_cases : ∀ {s : SessionRef} {y y' : Session}, w.now.registry.get? s = some y →
      (s = ref → y.Change (n ≤ s.index) w w' y') →
      ∃ x', (w.now.registry.set s y').get? ref = some x' ∧
        x.Change (n ≤ ref.index) w w' x' := by
    intro s y y' hy hc
    rw [Registry.get?_set hy]
    by_cases he : ref = s
    · subst he
      obtain rfl : x = y := by simpa [hx] using hy
      exact ⟨y', by simp, hc rfl⟩
    · exact ⟨x, by simp [he, hx], .same⟩
  cases h with
  | around o ts => exact ⟨x, hx, .same⟩
  | note e he => exact ⟨x, hx, .same⟩
  | create flags => exact ⟨x, Registry.get?_create_of_some hx, .same⟩
  | untrack s hf => exact ⟨x, Registry.get?_remove.trans hx, .same⟩
  | attach f d s y hn hy hs ht =>
    exact set_cases hy fun _ => .bound _ hn hs rfl (by simp [World.attach])
  | target peer s y hn hy hs => exact set_cases hy fun _ => .target peer hn hs
  | join peer s y hn hy ho => exact set_cases hy fun _ => .joined peer hn ho
  | close socket s y hy ha hs =>
    refine set_cases hy fun _ => ?_
    rcases hs with ⟨ho, hsock⟩ | ⟨_, hsame⟩
    · exact .closed socket ho hsock (ha.mono (List.suffix_cons _ w.past))
        (released_cons.2 (.inl (by simp [Event.closes])))
    · rw [hsame]; exact .same

/-- A session that was not there before has just been created. -/
theorem Step.created (h : Step env n w w') (hx : w'.now.registry.get? ref = some x)
    (hn : w.now.registry.get? ref = none) : ∃ id flags, x = { id, flags } := by
  have set_none : ∀ {s : SessionRef} {y y' : Session}, w.now.registry.get? s = some y →
      (w.now.registry.set s y').get? ref ≠ some x := by
    intro s y y' hy
    have he : ref ≠ s := by rintro rfl; simp [hn] at hy
    simp [Registry.get?_set hy, he, hn]
  cases h with
  | around o ts => simp [hn] at hx
  | note e he => simp [push, hn] at hx
  | create flags => exact ⟨_, _, (Registry.eq_of_get?_create hx hn).2⟩
  | untrack s hf => simp [setRegistry, hn] at hx
  | attach f d s y hs hy ho ht => exact absurd hx (set_none hy)
  | target peer s y hs hy ho => exact absurd hx (set_none hy)
  | join peer s y hs hy ho => exact absurd hx (set_none hy)
  | close socket s y hy ha hs => exact absurd hx (set_none hy)

/-- A session after a step was changed by it or has just been created. -/
theorem Step.origin (h : Step env n w w') (hx' : w'.now.registry.get? ref = some x') :
    (∃ x, w.now.registry.get? ref = some x ∧ x.Change (n ≤ ref.index) w w' x') ∨
      ∃ id flags, x' = { id, flags } := by
  cases hx : w.now.registry.get? ref with
  | none => exact .inr (h.created hx' hx)
  | some x =>
    obtain ⟨y, hy, hc⟩ := h.change hx
    obtain rfl : x' = y := by simpa [hx'] using hy
    exact .inl ⟨x, rfl, hc⟩

/-- A step changes one session at most. -/
theorem Step.eq_of_changed {ref' : SessionRef} {y y' : Session} (h : Step env n w w')
    (hx : w.now.registry.get? ref = some x) (hx' : w'.now.registry.get? ref = some x')
    (hy : w.now.registry.get? ref' = some y) (hy' : w'.now.registry.get? ref' = some y')
    (hxx : x' ≠ x) (hyy : y' ≠ y) : ref = ref' := by
  have of_set : ∀ {s : SessionRef} {z z' : Session}, w.now.registry.get? s = some z →
      (w.now.registry.set s z').get? ref = some x' →
      (w.now.registry.set s z').get? ref' = some y' → ref = ref' := by
    intro s z z' hz h₁ h₂
    rw [Registry.get?_set hz] at h₁ h₂
    have hr : ref = s :=
      Decidable.byContradiction fun he => hxx (by simpa [he, hx] using h₁.symm)
    have hr' : ref' = s :=
      Decidable.byContradiction fun he => hyy (by simpa [he, hy] using h₂.symm)
    rw [hr, hr']
  cases h with
  | around o ts => exact absurd (by simpa [hx] using hx'.symm) hxx
  | note e he => exact absurd (by simpa [push, hx] using hx'.symm) hxx
  | create flags =>
    have hkeep : (w.now.registry.create flags).2.get? ref = some x :=
      Registry.get?_create_of_some hx
    exact absurd (Option.some.inj (hx'.symm.trans hkeep)) hxx
  | untrack s hf => exact absurd (by simpa [setRegistry, hx] using hx'.symm) hxx
  | attach f d s z hn hz hs ht => exact of_set hz hx' hy'
  | target peer s z hn hz hs => exact of_set hz hx' hy'
  | join peer s z hn hz ho => exact of_set hz hx' hy'
  | close socket s z hz ha hs => exact of_set hz hx' hy'

end World
end TcpSessions
