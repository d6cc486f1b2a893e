import TcpSessions.Proofs.Manager.ClosingOrder
import TcpSessions.Proofs.Manager.Exchanges
import TcpSessions.Proofs.Session.Attainable
/-!
# Closing by handle touches one session or none

The first tracked session that has the handle is closed and leaves the table, whatever its close
comes to; all other sessions stay as they are (`World.Lost`). If there is none, or it is protected
and force is not used, nothing happens at all (`Manager.closes_one_or_none`).
-/
namespace TcpSessions

open Act World

variable {ω : Type} {h : Host ω} {env : Environment ω} {m : Manager} {w w' u : World ω}
variable {ref : SessionRef} {x : Session} {handle : Handle} {socket : Socket} {number : Int}

/-! ## Searching by handle -/

namespace Registry

variable {r : Registry}

/-- No tracked session has a handle with this number; minus one is no handle. -/
def NoneWith (r : Registry) (number : Int) : Prop :=
  number = -1 ∨ ∀ ref ∈ r.table.refs, ∀ x, r.get? ref = some x → x.fd ≠ number

/-- The first tracked session that has a handle with this number, and its fields. -/
structure FirstWith (r : Registry) (number : Int) (ref : SessionRef) (x : Session) : Prop where
  isHandle : number ≠ -1
  session : r.get? ref = some x
  fd : x.fd = number
  first : ∃ before after, r.table.refs = before ++ ref :: after ∧
    ∀ s ∈ before, ∀ y, r.get? s = some y → y.fd ≠ number

/-- What a search looks for is that a session is known and has the handle. -/
theorem any_fd_eq_false {s : SessionRef} (hs : ∀ y, r.get? s = some y → y.fd ≠ number) :
    (r.get? s).any (·.fd = number) = false := by
  cases hy : r.get? s with
  | none => rfl
  | some y => simpa using hs y hy

theorem NoneWith.findByHandle?_eq (hr : r.NoneWith number) : r.findByHandle? number = none := by
  rw [findByHandle?_eq_find?]
  split
  · rfl
  · rename_i hset
    rcases hr with hr | hr
    · exact absurd hr hset
    · refine List.find?_eq_none.2 fun s hs => ?_
      rw [any_fd_eq_false (hr s hs)]
      exact Bool.false_ne_true

theorem FirstWith.findByHandle?_eq (hr : r.FirstWith number ref x) :
    r.findByHandle? number = some ref := by
  obtain ⟨before, after, hrefs, hbefore⟩ := hr.first
  rw [findByHandle?_eq_find?, if_neg hr.isHandle, hrefs]
  refine List.find?_eq_some_iff_append.2 ⟨by simp [hr.session, hr.fd], before, after, rfl, ?_⟩
  intro s hs
  rw [any_fd_eq_false (hbefore s hs)]
  rfl

/-- Every number is that of no tracked session, or of a first one. -/
theorem noneWith_or_firstWith (r : Registry) (number : Int) :
    r.NoneWith number ∨ ∃ ref x, r.FirstWith number ref x := by
  by_cases hset : number = -1
  · exact .inl (.inl hset)
  cases hf : r.table.refs.find? fun ref => (r.get? ref).any (·.fd = number) with
  | none =>
    refine .inl (.inr fun ref hr x hx hfd => ?_)
    have hno := List.find?_eq_none.1 hf ref hr
    simp [hx, hfd] at hno
  | some ref =>
    obtain ⟨hfound, before, after, hrefs, hbefore⟩ := List.find?_eq_some_iff_append.1 hf
    obtain ⟨x, hx, hfd⟩ := (Option.any_eq_true _ _).1 hfound
    refine .inr ⟨ref, x, hset, hx, by simpa using hfd, before, after, hrefs, ?_⟩
    intro s hs y hy hyfd
    have hno := hbefore s hs
    simp [hy, hyfd] at hno

end Registry

/-! ## One session is closed and dropped -/

/-- From `w` to `u` one session left the table and became `x'`; nothing else changed. -/
structure World.Lost (w : World ω) (ref : SessionRef) (x' : Session) (u : World ω) : Prop where
  entries : u.now.registry.table.entries = w.now.registry.table.entries.filter (·.ref ≠ ref)
  nextId : u.now.registry.table.nextId = w.now.registry.table.nextId
  session : u.now.registry.get? ref = some x'
  others : ∀ ref', ref' ≠ ref → u.now.registry.get? ref' = w.now.registry.get? ref'
  sockets : u.now.sockets = w.now.sockets

namespace World.Closing

variable {reply : Except Failure Unit} (hc : w.Closing env ref x socket reply w')

include hc

theorem exchanged : ∃ now, w.Exchanged [⟨.close socket, reply, now⟩] w' := by
  obtain ⟨w₁, notices, hcalled, hp⟩ := hc.called
  exact ⟨w₁.now, hcalled.exchanged.notices hp⟩

theorem lost (hx : w.HasSocket ref x handle socket) (hw : w.now.Valid) :
    w.Lost ref (x.afterClose reply) (w'.without ref) := by
  have hx' : w'.now.registry.get? ref = some (x.afterClose reply) := by
    rw [hc.get? hx.session, if_pos rfl]
  constructor
  · show (w'.now.registry.remove ref).2.table.entries = _
    rw [(hc.valid hx hw).indexed.entries_remove hx', hc.table]
  · show (w'.now.registry.remove ref).2.table.nextId = _
    rw [Registry.nextId_remove, hc.table]
  · exact Registry.get?_remove.trans hx'
  · exact (hc.dropped hx hw).others
  · exact hc.sockets

end World.Closing

/-- What a request to close comes to, when the socket of its session was closed with a reply. -/
structure CloseAnswered (number : Int) (reply : Except Failure Unit) (outcome : Outcome Answer) :
    Prop where
  returned : reply = .ok () → outcome = .returned .done
  failed : ∀ f, reply = .error f → ∃ g, outcome = .failed g
  refused : ∀ f, reply = .error f → f.Plain →
    outcome = .failed ⟨.closing number (some f.errnoOr), some f, none⟩
  /-- A failure that does not come from the system gets out as it is. -/
  foreign : ∀ f, reply = .error f → f.isSystem = false → outcome = .failed f

/-- A request to close by handle touches one session or none. -/
structure ClosesOneOrNone (w : World ω) (number : Int) (force : Bool) (outcome : Outcome Answer)
    (u : World ω) : Prop where
  total : w.now.registry.NoneWith number ∨ ∃ ref x, w.now.registry.FirstWith number ref x
  unknown : w.now.registry.NoneWith number →
    outcome = .failed (.of (.handleNotFound number)) ∧ u = w
  guarded : ∀ ref x, w.now.registry.FirstWith number ref x → x.isProtected = true →
    force = false → outcome = .failed (.of (.protectedHandle number)) ∧ u = w
  /-- The socket of the session is closed once, and no other call is made. -/
  closed : ∀ ref x, w.now.registry.FirstWith number ref x → (x.isProtected = true → force = true) →
    ∃ socket reply now, x.socket = some socket ∧
      u.exchangesSince w = [⟨.close socket, reply, now⟩] ∧ w.Lost ref (x.afterClose reply) u ∧
      CloseAnswered number reply outcome

theorem closeAnswered_ok (number : Int) : CloseAnswered number (.ok ()) (.returned .done) := by
  constructor <;> simp

theorem closeAnswered_error (number : Int) (f : Failure) :
    CloseAnswered number (.error f) (.failed (closeFailure number f)) where
  returned := nofun
  failed := fun _ _ => ⟨_, rfl⟩
  refused := by
    intro g hg hplain
    obtain rfl := Except.error.inj hg
    rw [hplain.closeFailure_eq]
  foreign := by
    intro g hg hsys
    obtain rfl := Except.error.inj hg
    simp [closeFailure, hsys]

namespace Manager

/-- Serving the request ends as closing by handle does. -/
theorem serve_closeByHandle {force : Bool} {reply : Except Failure Unit}
    (hclose : closeByHandle h number force w =
      (Outcome.ofExcept (reply.mapError (closeFailure number)), u)) :
    ((Operation.closeByHandle number force).serve h m w).2 = u ∧
      CloseAnswered number reply ((Operation.closeByHandle number force).serve h m w).1 := by
  cases reply with
  | ok a =>
    have hserve : (Operation.closeByHandle number force).serve h m w = (.returned .done, u) :=
      bind_eq hclose _
    rw [hserve]
    exact ⟨rfl, closeAnswered_ok number⟩
  | error f =>
    have hserve : (Operation.closeByHandle number force).serve h m w =
        (.failed (closeFailure number f), u) := bind_failed hclose _
    rw [hserve]
    exact ⟨rfl, closeAnswered_error number f⟩

/-- In every state that a run passes through, a request to close by handle touches one session or
none, if nothing is nested in the closes of sockets. -/
theorem closes_one_or_none (m : Manager) (bound : Nat)
    (hn : ∀ socket o, (env.react (.close socket) o).nested = []) (hw : w.Attainable) (number : Int)
    (force : Bool) :
    ClosesOneOrNone w number force
      (perform env m (bound + 1) (.operation (.closeByHandle number force)) w).1
      (perform env m (bound + 1) (.operation (.closeByHandle number force)) w).2 := by
  have hserve : perform env m (bound + 1) (.operation (.closeByHandle number force)) w =
      (Operation.closeByHandle number force).serve ⟨env, perform env m bound, bound + 1⟩ m w := rfl
  rw [hserve]
  generalize hh : (⟨env, perform env m bound, bound + 1⟩ : Host ω) = h
  obtain rfl : env = h.environment := by rw [← hh]
  have fails : ∀ {reason : Reason},
      closeByHandle h number force w = (.failed (.of reason), w) →
      ((Operation.closeByHandle number force).serve h m w).1 = .failed (.of reason) ∧
        ((Operation.closeByHandle number force).serve h m w).2 = w := by
    intro reason hclose
    have hs : (Operation.closeByHandle number force).serve h m w = (.failed (.of reason), w) :=
      bind_failed hclose _
    exact ⟨by rw [hs], by rw [hs]⟩
  constructor
  · exact w.now.registry.noneWith_or_firstWith number
  · exact fun hnone => fails (closeByHandle_eq_of_none hnone.findByHandle?_eq)
  · rintro ref x hfirst hp rfl
    exact fails (closeByHandle_eq_of_protected hfirst.findByHandle?_eq hfirst.session hp)
  · intro ref x hfirst hp
    obtain ⟨y, handle, socket, hx, -⟩ := hasSocket_of_findByHandle? hw.valid hfirst.findByHandle?_eq
    obtain rfl := Option.some.inj (hx.session.symm.trans hfirst.session)
    have hallowed : (y.isProtected && !force) = false := by
      cases hprotected : y.isProtected with
      | false => rfl
      | true => simp [hp hprotected]
    obtain ⟨w₁, hclosing, hclose⟩ := closeByHandle_of_unnested hw.valid (hn socket w.outside)
      hfirst.findByHandle?_eq hx hallowed
    obtain ⟨hworld, hanswer⟩ := serve_closeByHandle (m := m) hclose
    obtain ⟨now, hexchanged⟩ := hclosing.exchanged
    rw [hworld]
    have hsame : w.Exchanged _ (w₁.without ref) := hexchanged.congr rfl
    exact ⟨socket, _, now, hx.socket, hsame.since_eq, hclosing.lost hx hw.valid, hanswer⟩

end Manager

/-- Surroundings where a host has no address, and where all sockets report the same descriptor and
cannot be closed. -/
def Environment.sharing : Environment Unit := .ofReplies fun
  | .resolve .. => .ok []
  | .reverse _ => .ok none
  | .addressInfo .. => .ok []
  | .hostByAddress _ => .ok none
  | .createSocket _ => .ok 7
  | .spareSocket _ => .ok 7
  | .setInline _ => .ok ()
  | .connect .. => .ok ()
  | .close _ => .error (.of (.system .general .nothing))

/-- Of two sessions with the same handle the first is dropped, with force since it is protected. -/
theorem Manager.closes_one_or_none_sharing :
    let env := Environment.sharing
    let w := env.after {} 2 [.operation (.openSession { host := "gate", flags := .managed }),
      .operation (.openSession { host := "gate" })] ()
    let result := perform env {} 2 (.operation (.closeByHandle 7 true)) w
    w.now.registry.trackedIds = [1, 2] ∧ w.now.registry.sessions.map (·.fd) = [7, 7] ∧
      result.2.now.registry.trackedIds = [2] ∧
      result.2.now.registry.sessions.map (·.fd) = [7, 7] ∧
      ClosesOneOrNone w 7 true result.1 result.2 := by
  refine ⟨by decide +kernel, by decide +kernel, by decide +kernel, by decide +kernel, ?_⟩
  refine Manager.closes_one_or_none {} 1 (fun _ _ => rfl) ?_ 7 true
  exact Reachable.attainable
    ⟨_, {}, 2, _, (), (Environment.ofReplies_quiet _).nests, by decide, rfl⟩

end TcpSessions
