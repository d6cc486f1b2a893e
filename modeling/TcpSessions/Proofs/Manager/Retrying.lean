import TcpSessions.Proofs.Manager.ClosingOne
import TcpSessions.Proofs.Manager.Failures
/-!
# Closing and removing can be tried again

A session is got rid of by closing it, which leaves its record in the table, or by removing it.
While its socket cannot be closed both leave everything as it is, so that they can be tried again,
in any order and as often as one likes: the first attempt that succeeds does what it would have done
at once (`Manager.close_and_remove_retryable`).
-/
namespace TcpSessions

open Act World

variable {ω : Type} {h : Host ω} {env : Environment ω} {m : Manager} {bound : Nat}
variable {w w₁ u v : World ω} {n : Int} {ref : SessionRef} {x : Session} {handle : Handle}
variable {socket : Socket}

/-- Nothing is nested in the closes of a session's socket. -/
def Session.ClosesAlone (env : Environment ω) (x : Session) : Prop :=
  ∀ socket, x.socket = some socket → ∀ o, (env.react (.close socket) o).nested = []

/-- The ways of getting rid of a session that a caller may try again. -/
inductive Disposal
  | close | remove
  deriving DecidableEq, Repr

namespace Disposal

/-- The request that gets rid of the session with a number. -/
def request (n : Int) : Disposal → Request
  | close => .operation (.close n)
  | remove => .operation (.remove n)

/-- What it does once the session is closed. -/
def finish (ref : SessionRef) : Disposal → Act ω Answer
  | close => return .done
  | remove => do return .flag (← Manager.untrack ref)

/-- What it answers when it succeeds. -/
def answer (ref : SessionRef) (r : Registry) : Disposal → Answer
  | close => .done
  | remove => .flag (decide (ref ∈ r.table.refs))

/-- What it makes of all sessions and of the table when it succeeds. -/
def registry (ref : SessionRef) (x : Session) (r : Registry) : Disposal → Registry
  | close => r.set ref x.markClosed
  | remove => ((if x.isOpen then r.set ref x.markClosed else r).remove ref).2

/-- The state that is left when it succeeds. -/
def leave (ref : SessionRef) (w : World ω) : Disposal → World ω
  | close => w
  | remove => w.without ref

theorem finish_eq (hw : w.now.registry.Indexed) (d : Disposal) :
    d.finish ref w = (.returned (d.answer ref w.now.registry), d.leave ref w) := by
  cases d with
  | close => rfl
  | remove =>
    rw [answer, ← (hw.remove_spec ref).1]
    rfl

/-- A removal closes its session first exactly if it is open. -/
theorem perform_remove (env : Environment ω) (m : Manager) (bound : Nat)
    (hr : w.now.registry.nth? n = some ref) (hx : w.now.registry.get? ref = some x) :
    perform env m (bound + 1) (remove.request n) w =
      (if x.isOpen then Manager.closeSession ⟨env, perform env m bound, bound + 1⟩ ref >>= fun _ =>
        remove.finish ref else remove.finish ref) w := by
  have hremove : Manager.removeSession ⟨env, perform env m bound, bound + 1⟩ ref w =
      (if x.isOpen then Manager.closeSession ⟨env, perform env m bound, bound + 1⟩ ref >>= fun _ =>
        Manager.untrack ref else Manager.untrack ref) w := by
    unfold Manager.removeSession
    rw [bind_eq (session_some hx)]
  have hserve : perform env m (bound + 1) (remove.request n) w =
      (Manager.removeSession ⟨env, perform env m bound, bound + 1⟩ ref >>= fun dropped =>
        pure (Answer.flag dropped)) w := bind_eq (Manager.nth_eq hr) _
  rw [hserve, bind_congr_left hremove]
  split
  · rw [Act.bind_assoc]
    rfl
  · rfl

/-- A session that is open is closed first. -/
theorem perform_of_open (hr : w.now.registry.nth? n = some ref)
    (hx : w.now.registry.get? ref = some x) (ho : x.isOpen = true) (d : Disposal) :
    perform env m (bound + 1) (d.request n) w =
      (Manager.closeSession ⟨env, perform env m bound, bound + 1⟩ ref >>= fun _ =>
        d.finish ref) w := by
  cases d with
  | close => exact bind_eq (Manager.nth_eq hr) _
  | remove => rw [perform_remove env m bound hr hx, if_pos ho]

/-- Where nothing is nested in its close, an attempt at an open session goes by the reply of the
socket. -/
theorem perform_of_unnested (m : Manager) (bound : Nat) (hn : x.ClosesAlone env) (hw : w.now.Valid)
    (hr : w.now.registry.nth? n = some ref) (hs : w.HasSocket ref x handle socket) (d : Disposal) :
    ∃ w₁, w.Closing env ref x socket (env.reply (.close socket) w.outside) w₁ ∧
      (∀ f, env.reply (.close socket) w.outside = .error f →
        perform env m (bound + 1) (d.request n) w = (.failed (closeFailure handle.number f), w₁)) ∧
      (env.reply (.close socket) w.outside = .ok () →
        perform env m (bound + 1) (d.request n) w =
          (.returned (d.answer ref w.now.registry), d.leave ref w₁)) := by
  obtain ⟨w₁, hclose, hc⟩ := Manager.closeSession_of_unnested
    (h := ⟨env, perform env m bound, bound + 1⟩) hs (hn socket hs.socket w.outside)
  refine ⟨w₁, hc, fun f hf => ?_, fun hok => ?_⟩
  · rw [perform_of_open hr hs.session hs.isOpen]
    dsimp only at hclose
    rw [hf] at hclose
    exact bind_failed hclose _
  · rw [perform_of_open hr hs.session hs.isOpen]
    dsimp only at hclose
    rw [hok] at hclose
    have htable : w₁.now.registry.table = w.now.registry.table := hc.table
    have hanswer : d.answer ref w.now.registry = d.answer ref w₁.now.registry := by
      cases d with
      | close => rfl
      | remove => rw [answer, answer, htable]
    rw [hanswer]
    exact (bind_eq hclose _).trans (finish_eq (hc.valid hs hw).indexed d)

/-- An attempt at a session without a handle makes no call. -/
theorem perform_of_not_open (env : Environment ω) (m : Manager) (bound : Nat)
    (hr : w.now.registry.nth? n = some ref) (hx : w.now.registry.get? ref = some x)
    (hhandle : x.handle = none) :
    perform env m (bound + 1) (close.request n) w = (.failed (.of .notOpen), w) ∧
      perform env m (bound + 1) (remove.request n) w = remove.finish ref w := by
  have ho : x.isOpen = false := by simp [Session.isOpen, hhandle]
  constructor
  · have hclose := Manager.closeSession_eq_of_not_open (h := ⟨env, perform env m bound, bound + 1⟩)
      hx (.inl hhandle)
    exact (bind_eq (Manager.nth_eq hr) _).trans (bind_failed hclose _)
  · rw [perform_remove env m bound hr hx, ho]
    rfl

/-- A removal of a session that is neither open nor tracked does nothing. -/
theorem perform_of_gone (hr : w.now.registry.nth? n = some ref)
    (hx : w.now.registry.get? ref = some x) (hhandle : x.handle = none)
    (hgone : ref ∉ w.now.registry.table.refs) :
    perform env m (bound + 1) (remove.request n) w = (.returned (.flag false), w) := by
  rw [(perform_of_not_open env m bound hr hx hhandle).2]
  have hnothing : Manager.untrack ref w = (.returned false, w) := by
    show (Outcome.returned (w.now.registry.remove ref).1, w.without ref) = _
    rw [without, Registry.remove_of_notMem hgone]
    rfl
  exact bind_eq hnothing _

/-- An attempt fails and leaves all sessions as they are, or it succeeds. -/
theorem perform_cases (m : Manager) (bound : Nat) (hn : x.ClosesAlone env) (hw : w.now.Valid)
    (hr : w.now.registry.nth? n = some ref) (hx : w.now.registry.get? ref = some x) (d : Disposal) :
    (∃ f u, perform env m (bound + 1) (d.request n) w = (.failed f, u) ∧
        u.now.registry = w.now.registry ∧ u.now.sockets = w.now.sockets) ∨
      ∃ u, perform env m (bound + 1) (d.request n) w =
          (.returned (d.answer ref w.now.registry), u) ∧
        u.now.registry = d.registry ref x w.now.registry ∧ u.now.sockets = w.now.sockets := by
  cases ho : x.isOpen with
  | true =>
    obtain ⟨handle, socket, hs⟩ := hw.hasSocket hx ho
    obtain ⟨w₁, hc, hfailed, hok⟩ := perform_of_unnested m bound hn hw hr hs d
    have hregistry := hc.registry
    cases hreply : env.reply (.close socket) w.outside with
    | error f =>
      rw [hreply] at hregistry
      refine .inl ⟨_, w₁, hfailed f hreply, ?_, hc.sockets⟩
      rw [hregistry]
      exact Registry.set_self hx
    | ok a =>
      rw [hreply] at hregistry
      refine .inr ⟨_, hok hreply, ?_, ?_⟩
      · cases d with
        | close => exact hregistry
        | remove =>
          show (w₁.now.registry.remove ref).2 = _
          rw [registry, ho, if_pos rfl, hregistry]
          rfl
      · cases d with
        | close => exact hc.sockets
        | remove => exact hc.sockets
  | false =>
    have hhandle : x.handle = none := by simpa [Session.isOpen] using ho
    obtain ⟨hclose, hremove⟩ := perform_of_not_open env m bound hr hx hhandle
    cases d with
    | close => exact .inl ⟨_, w, hclose, rfl, rfl⟩
    | remove =>
      refine .inr ⟨_, hremove.trans (finish_eq hw.indexed remove), ?_, rfl⟩
      rw [registry, ho]
      rfl

/-- From `w` to `u` some attempts were made one after another, and all of them failed. -/
inductive Failing (env : Environment ω) (m : Manager) (bound : Nat) (n : Int) :
    World ω → List Disposal → World ω → Prop
  | start (w : World ω) : Failing env m bound n w [] w
  | next {w v u : World ω} {d : Disposal} {ds : List Disposal} (f : Failure)
    (hfails : perform env m (bound + 1) (d.request n) w = (.failed f, v))
    (hrest : Failing env m bound n v ds u) : Failing env m bound n w (d :: ds) u

/-- Attempts that fail leave all sessions and the table as they are. -/
theorem Failing.unchanged {ds : List Disposal} (hf : Failing env m bound n w ds u)
    (hn : x.ClosesAlone env) (hw : w.now.Valid)
    (hr : w.now.registry.nth? n = some ref) (hx : w.now.registry.get? ref = some x) :
    u.now.registry = w.now.registry ∧ u.now.sockets = w.now.sockets := by
  induction hf with
  | start w => exact ⟨rfl, rfl⟩
  | @next w v u d ds f hfails hrest ih =>
    rcases perform_cases m bound hn hw hr hx d with
      ⟨g, v', hrun, hregistry, hsockets⟩ | ⟨v', hrun, -⟩
    · obtain ⟨-, rfl⟩ := Prod.mk.inj (hfails.symm.trans hrun)
      have hv : v.now.Valid := hw.congr hregistry hsockets
      rw [← hregistry] at hr hx
      obtain ⟨hregistry', hsockets'⟩ := ih hv hr hx
      exact ⟨hregistry'.trans hregistry, hsockets'.trans hsockets⟩
    · cases hfails.symm.trans hrun

/-- One attempt at a session that has a handle: its socket is closed once, before anything is
changed, and by the reply the attempt succeeds, or fails and leaves all sessions and the table as
they are. -/
structure Tried (env : Environment ω) (m : Manager) (bound : Nat) (w : World ω) (n : Int)
    (ref : SessionRef) (handle : Handle) (socket : Socket) (d : Disposal) : Prop where
  called : ∃ now, (perform env m (bound + 1) (d.request n) w).2.exchangesSince w =
    [⟨.close socket, env.reply (.close socket) w.outside, now⟩] ∧ now.registry = w.now.registry
  refused : ∀ f, env.reply (.close socket) w.outside = .error f → f.Plain →
    ∃ u, perform env m (bound + 1) (d.request n) w =
        (.failed ⟨.closing handle.number (some f.errnoOr), some f, none⟩, u) ∧
      u.now.registry = w.now.registry ∧ u.now.sockets = w.now.sockets
  done : env.reply (.close socket) w.outside = .ok () →
    ∃ u, perform env m (bound + 1) (d.request n) w = (.returned (d.answer ref w.now.registry), u)

theorem tried_of_unnested (hn : x.ClosesAlone env) (hw : w.now.Valid)
    (hr : w.now.registry.nth? n = some ref)
    (hs : w.HasSocket ref x handle socket) (d : Disposal) :
    Tried env m bound w n ref handle socket d := by
  obtain ⟨w₁, hc, hfailed, hok⟩ := perform_of_unnested m bound hn hw hr hs d
  obtain ⟨w₂, notices, hcalled, hp⟩ := hc.called
  have hexchanged := hcalled.exchanged.notices hp
  refine ⟨⟨w₂.now, ?_, hcalled.registry⟩, fun f hf hplain => ?_, fun hreply => ⟨_, hok hreply⟩⟩
  · cases hreply : env.reply (.close socket) w.outside with
    | error f =>
      rw [hfailed f hreply, ← hreply]
      exact hexchanged.since_eq
    | ok a =>
      have hleft : w.Exchanged _ (d.leave ref w₁) := hexchanged.congr (by cases d <;> rfl)
      rw [hok hreply, ← hreply]
      exact hleft.since_eq
  · rw [hfailed f hf, hplain.closeFailure_eq]
    refine ⟨w₁, rfl, ?_, hc.sockets⟩
    rw [hc.registry, hf]
    exact Registry.set_self hs.session

end Disposal

/-- From `w` to `u` a session was closed at its place in the table; nothing else changed. -/
structure World.ClosedInPlace (w : World ω) (ref : SessionRef) (x : Session) (u : World ω) :
    Prop where
  table : u.now.registry.table = w.now.registry.table
  session : u.now.registry.get? ref =
    some { x with handle := none, socket := none, state := .closed }
  others : ∀ ref', ref' ≠ ref → u.now.registry.get? ref' = w.now.registry.get? ref'
  sockets : u.now.sockets = w.now.sockets

/-! ## Attempts that succeed -/

namespace Disposal

theorem lost_of_removed (hw : w.now.Valid) (hx : w.now.registry.get? ref = some x)
    (hregistry : u.now.registry = remove.registry ref x w.now.registry)
    (hsockets : u.now.sockets = w.now.sockets) :
    w.Lost ref (if x.isOpen then x.markClosed else x) u := by
  -- the registry in which the session has been closed, if it was open
  have hclosed : ∃ r : Registry, u.now.registry = (r.remove ref).2 ∧ r.Indexed ∧
      r.table = w.now.registry.table ∧
      r.get? ref = some (if x.isOpen then x.markClosed else x) ∧
      ∀ ref', ref' ≠ ref → r.get? ref' = w.now.registry.get? ref' := by
    rw [registry] at hregistry
    refine ⟨_, hregistry, ?_⟩
    split
    · refine ⟨hw.indexed.set hx rfl, rfl, Registry.get?_set_self hx _, fun ref' hne => ?_⟩
      rw [Registry.get?_set hx, if_neg hne]
    · exact ⟨hw.indexed, rfl, hx, fun _ _ => rfl⟩
  obtain ⟨r, hu, hindexed, htable, hself, hothers⟩ := hclosed
  constructor
  · rw [hu, hindexed.entries_remove hself, htable]
  · rw [hu, Registry.nextId_remove, htable]
  · rw [hu, Registry.get?_remove, hself]
  · intro ref' hne
    rw [hu, Registry.get?_remove, hothers ref' hne]
  · exact hsockets

section
variable (hn : x.ClosesAlone env) (hw : w.now.Valid)
variable (hr : w.now.registry.nth? n = some ref) (hx : w.now.registry.get? ref = some x)
include hn hw hr hx

/-- What an attempt answers and does when it succeeds does not depend on the surroundings. -/
theorem perform_eq_returned {d : Disposal} {a : Answer}
    (hrun : perform env m (bound + 1) (d.request n) w = (.returned a, u)) :
    a = d.answer ref w.now.registry ∧ u.now.registry = d.registry ref x w.now.registry ∧
      u.now.sockets = w.now.sockets := by
  rcases perform_cases m bound hn hw hr hx d with
    ⟨f, v, hfailed, -⟩ | ⟨v, hdone, hregistry, hsockets⟩
  · cases hrun.symm.trans hfailed
  · obtain ⟨ha, rfl⟩ := Prod.mk.inj (hrun.symm.trans hdone)
    exact ⟨Outcome.returned.inj ha, hregistry, hsockets⟩

theorem closed_in_place {a : Answer}
    (hrun : perform env m (bound + 1) (close.request n) w = (.returned a, u)) :
    a = .done ∧ w.ClosedInPlace ref x u := by
  obtain ⟨ha, hregistry, hsockets⟩ := perform_eq_returned hn hw hr hx hrun
  rw [registry] at hregistry
  refine ⟨ha, ?_⟩
  constructor
  · rw [hregistry]
    rfl
  · rw [hregistry]
    exact Registry.get?_set_self hx _
  · intro ref' hne
    rw [hregistry, Registry.get?_set hx, if_neg hne]
  · exact hsockets

/-- Once a session was removed, a removal finds nothing as long as it has no handle. -/
theorem removed_again {a : Answer}
    (hrun : perform env m (bound + 1) (remove.request n) w = (.returned a, u))
    {env' : Environment ω} (hlater : u.Later env' v) {y : Session}
    (hy : v.now.registry.get? ref = some y) (hhandle : y.handle = none) :
    perform env m (bound + 1) (remove.request n) v = (.returned (.flag false), v) := by
  obtain ⟨-, hregistry, hsockets⟩ := perform_eq_returned hn hw hr hx hrun
  have hlength : u.count = w.count := by
    rw [count, hregistry, registry, Registry.sessions_remove]
    split
    · exact List.length_set
    · rfl
  have hgone : ref ∉ u.now.registry.table.refs := by
    rw [Table.refs, (lost_of_removed hw hx hregistry hsockets).entries]
    intro hmem
    obtain ⟨e, he, heq⟩ := List.mem_map.1 hmem
    exact absurd heq (by simpa using (List.mem_filter.1 he).2)
  have hindex : ref.index < u.count := by
    rw [hlength]
    exact Registry.index_lt hx
  have hcount : w.count ≤ v.count := by
    rw [← hlength]
    exact hlater.count_le
  exact perform_of_gone (Manager.nth?_of_le hr hcount) hy hhandle (hlater.untracked hindex hgone)

end

end Disposal

/-! ## The contract -/

namespace Manager

/-- What closing and removing come to for the session `x` with the number `n`. -/
structure Retryable (env : Environment ω) (m : Manager) (bound : Nat) (w : World ω) (n : Int)
    (ref : SessionRef) (x : Session) : Prop where
  notOpen : perform env m (bound + 1) (.operation (.close n)) w = (.failed (.of .notOpen), w) ↔
    x.handle = none
  tried : ∀ handle, x.handle = some handle → ∃ socket, x.socket = some socket ∧
    ∀ d, Disposal.Tried env m bound w n ref handle socket d
  /-- Without a handle there is nothing to close, and a removal makes no call. -/
  unset : x.handle = none → perform env m (bound + 1) (.operation (.remove n)) w =
    (.returned (.flag (decide (ref ∈ w.now.registry.table.refs))), w.without ref)
  closed : ∀ a u, perform env m (bound + 1) (.operation (.close n)) w = (.returned a, u) →
    a = .done ∧ w.ClosedInPlace ref x u
  removed : ∀ a u, perform env m (bound + 1) (.operation (.remove n)) w = (.returned a, u) →
    a = .flag (decide (ref ∈ w.now.registry.table.refs)) ∧
      w.Lost ref (if x.isOpen then x.markClosed else x) u
  /-- A removal that is repeated answers that it found nothing and does nothing, at once or later,
  as long as the session has got no socket meanwhile. -/
  repeated : ∀ a u, perform env m (bound + 1) (.operation (.remove n)) w = (.returned a, u) →
    perform env m (bound + 1) (.operation (.remove n)) u = (.returned (.flag false), u) ∧
    ∀ (env' : Environment ω) v y, u.Later env' v → v.now.registry.get? ref = some y →
      y.handle = none →
      perform env m (bound + 1) (.operation (.remove n)) v = (.returned (.flag false), v)
  /-- After any attempts that failed, one that succeeds answers and does what it would have answered
  and done at first, had it succeeded then, in whatever surroundings. -/
  retried : ∀ (ds : List Disposal) (d : Disposal) (u v : World ω) (a : Answer),
    Disposal.Failing env m bound n w ds u →
    perform env m (bound + 1) (d.request n) u = (.returned a, v) →
    (u.now.registry = w.now.registry ∧ u.now.sockets = w.now.sockets) ∧
    ∀ {ω' : Type} (env' : Environment ω') (m' : Manager) (bound' : Nat) (w' v' : World ω')
      (a' : Answer), x.ClosesAlone env' → w'.now = w.now →
      perform env' m' (bound' + 1) (d.request n) w' = (.returned a', v') →
      a = a' ∧ v.now.registry = v'.now.registry ∧ v.now.sockets = v'.now.sockets

/-- In every state that a run passes through, closing and removing a session can be tried again, if
nothing is nested in the closes of its socket. -/
theorem close_and_remove_retryable (m : Manager) (bound : Nat)
    (hn : x.ClosesAlone env) (hw : w.Attainable)
    (hr : w.now.registry.nth? n = some ref) (hx : w.now.registry.get? ref = some x) :
    Retryable env m bound w n ref x := by
  have htried : ∀ handle, x.handle = some handle → ∃ socket, x.socket = some socket ∧
      ∀ d, Disposal.Tried env m bound w n ref handle socket d := by
    intro handle hhandle
    obtain ⟨k, socket, hs⟩ := hw.valid.hasSocket hx (by simp [Session.isOpen, hhandle])
    obtain rfl := Option.some.inj (hs.handle.symm.trans hhandle)
    exact ⟨socket, hs.socket, Disposal.tried_of_unnested hn hw.valid hr hs⟩
  have hlost : ∀ a u, perform env m (bound + 1) (.operation (.remove n)) w = (.returned a, u) →
      a = .flag (decide (ref ∈ w.now.registry.table.refs)) ∧
        w.Lost ref (if x.isOpen then x.markClosed else x) u := by
    intro a u hrun
    obtain ⟨ha, hregistry, hsockets⟩ :=
      Disposal.perform_eq_returned (d := .remove) hn hw.valid hr hx hrun
    exact ⟨ha, Disposal.lost_of_removed hw.valid hx hregistry hsockets⟩
  constructor
  case notOpen =>
    refine ⟨fun hrun => ?_, fun hhandle =>
      (Disposal.perform_of_not_open env m bound hr hx hhandle).1⟩
    cases hhandle : x.handle with
    | none => rfl
    | some handle =>
      -- an attempt at an open session leaves the trace of a call
      obtain ⟨socket, -, htries⟩ := htried handle hhandle
      obtain ⟨now, hcalled, -⟩ := (htries .close).called
      have hnone : w.exchangesSince w = [] := (World.Exchanged.refl w).since_eq
      rw [show perform env m (bound + 1) (Disposal.close.request n) w = _ from hrun, hnone]
        at hcalled
      cases hcalled
  case tried => exact htried
  case unset =>
    intro hhandle
    exact (Disposal.perform_of_not_open env m bound hr hx hhandle).2.trans
      (Disposal.finish_eq hw.valid.indexed .remove)
  case closed => exact fun a u hrun => Disposal.closed_in_place hn hw.valid hr hx hrun
  case removed => exact hlost
  case repeated =>
    intro a u hrun
    have hagain : ∀ (env' : Environment ω) v y, u.Later env' v →
        v.now.registry.get? ref = some y → y.handle = none →
        perform env m (bound + 1) (.operation (.remove n)) v = (.returned (.flag false), v) :=
      fun _ v y hlater hy hhandle =>
        Disposal.removed_again hn hw.valid hr hx hrun hlater hy hhandle
    refine ⟨hagain env u _ .refl (hlost a u hrun).2.session ?_, hagain⟩
    split
    · rfl
    · rename_i ho
      simpa [Session.isOpen] using ho
  case retried =>
    intro ds d u v a hfailing hrun
    obtain ⟨hregistry, hsockets⟩ := hfailing.unchanged hn hw.valid hr hx
    refine ⟨⟨hregistry, hsockets⟩, fun env' m' bound' w' v' a' hn' hnow hrun' => ?_⟩
    have hw' : w'.now.Valid := by rw [hnow]; exact hw.valid
    -- both runs come to what the registry says, which is the same for both
    obtain ⟨ha, hv, hvs⟩ := Disposal.perform_eq_returned hn
      (hw.valid.congr hregistry hsockets) (by rw [hregistry, hr]) (by rw [hregistry, hx]) hrun
    obtain ⟨ha', hv', hvs'⟩ := Disposal.perform_eq_returned hn' hw' (by rw [hnow, hr])
      (by rw [hnow, hx]) hrun'
    refine ⟨?_, ?_, ?_⟩
    · rw [ha, ha', hregistry, hnow]
    · rw [hv, hv', hregistry, hnow]
    · rw [hvs, hvs', hsockets, hnow]

end Manager

/-- The first socket refuses two closes. -/
def Script.refusingTwice : Script where
  hosts := [("gate", { addresses := [[192, 0, 2, 1]] })]
  coming := [{ close := [{ failure := some (.of (.system .general (.coded 9 "bad descriptor"))) },
    { failure := some (.of (.system .general .nothing)) }] }]

/-- A close and a removal fail, and the second removal succeeds. -/
theorem Manager.close_and_remove_retryable_refusing :
    let env := Script.environment.nesting fun _ => False
    let w := env.after {} 3 [.operation (.openSession { host := "gate" })] Script.refusingTwice
    let w₁ := (perform env {} 3 (.operation (.close 1)) w).2
    let w₂ := (perform env {} 3 (.operation (.remove 1)) w₁).2
    let result := perform env {} 3 (.operation (.remove 1)) w₂
    w.now.registry.trackedIds = [1] ∧ w.now.registry.sessions.map (·.fd) = [10] ∧
      w₂.now.registry = w.now.registry ∧
      result.1.value? = some (.flag true) ∧ result.2.now.registry.trackedIds = [] ∧
      ∃ x, w.now.registry.get? ⟨0⟩ = some x ∧ Manager.Retryable env {} 2 w 1 ⟨0⟩ x := by
  intro env w w₁ w₂ result
  have hnone : env.Nests fun _ => False := Script.environment.nesting_nests fun _ => False
  have henv : env.Nests Request.OfManager := fun c o q hq => (hnone c o q hq).elim
  have hw : w.Attainable := Reachable.attainable
    ⟨env, {}, 3, _, Script.refusingTwice, henv, by decide, rfl⟩
  have hr : w.now.registry.nth? 1 = some ⟨0⟩ := by decide +kernel
  obtain ⟨x, hx⟩ := Manager.exists_get?_of_nth? hr
  refine ⟨by decide +kernel, by decide +kernel, by decide +kernel, by decide +kernel,
    by decide +kernel, x, hx, ?_⟩
  refine Manager.close_and_remove_retryable {} 2 (fun socket _ o => ?_) hw hr hx
  exact List.eq_nil_iff_forall_not_mem.2 fun q hq => hnone (.close socket) o q hq

end TcpSessions
