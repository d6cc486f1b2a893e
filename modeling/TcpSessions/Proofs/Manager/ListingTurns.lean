import TcpSessions.Proofs.Manager.Failures
import TcpSessions.Proofs.Manager.Inventory
import TcpSessions.Proofs.Session.Attainable
/-!
# The turns of a listing

A listing goes through the sessions that were tracked when it began. Each has its turn: it is passed
over if it has no handle by then, and otherwise its row is made after its endpoint was looked up. A
session that loses its handle before its turn is thus passed over, whatever closed it; one that is
closed inside its own lookup is shown without a handle (`Manager.shows_handles`).
-/
namespace TcpSessions

open Act World

variable {ω : Type} {h : Host ω} {env : Environment ω} {m : Manager} {w u v : World ω}
variable {ref : SessionRef} {refs : List SessionRef} {rows : List Listing} {row : Listing}
variable {x y : Session} {socket : Socket}

/-- The turn of a session that is shown: the states before and after its row was made. -/
structure Turn (ω : Type) where
  ref : SessionRef
  start : World ω
  stop : World ω
  row : Listing

namespace Manager

/-- A listing of some sessions that starts in `w` and returns in `u` shows some of them in these
turns. -/
inductive Lists (m : Manager) (h : Host ω) :
    World ω → List SessionRef → List (Turn ω) → World ω → Prop
  | done (w : World ω) : Lists m h w [] [] w
  | passed {w u : World ω} {ref : SessionRef} {refs : List SessionRef} {turns : List (Turn ω)}
    (x : Session) (hx : w.now.registry.get? ref = some x) (ho : x.isOpen = false)
    (hrest : Lists m h w refs turns u) : Lists m h w (ref :: refs) turns u
  | shown {w u : World ω} {ref : SessionRef} {refs : List SessionRef} {turns : List (Turn ω)}
    (x : Session) (row : Listing) (v : World ω) (hx : w.now.registry.get? ref = some x)
    (ho : x.isOpen = true) (hrow : m.listingOf h ref w = (.returned row, v))
    (hrest : Lists m h v refs turns u) :
    Lists m h w (ref :: refs) (⟨ref, w, v, row⟩ :: turns) u

/-- The rows that a listing returns are those of its turns. -/
theorem listingsOf_lists (m : Manager) : ∀ {refs : List SessionRef} {w u : World ω}
    {rows : List Listing}, m.listingsOf h refs w = (.returned rows, u) →
    ∃ turns, m.Lists h w refs turns u ∧ turns.map (·.row) = rows
  | [], w, _, rows, hrun => by
    obtain ⟨hrows, rfl⟩ := Prod.mk.inj hrun
    exact ⟨[], .done w, Outcome.returned.inj hrows⟩
  | ref :: refs, w, u, rows, hrun => by
    obtain ⟨x, v, hsession, hgo⟩ := bind_eq_returned.1 hrun
    obtain ⟨hx, rfl⟩ := session_eq_returned hsession
    cases ho : x.isOpen with
    | true =>
      simp only [ho, if_true] at hgo
      obtain ⟨row, v', hrow, hgo⟩ := bind_eq_returned.1 hgo
      obtain ⟨others, u', hrest, hreturned⟩ := bind_eq_returned.1 hgo
      obtain ⟨hrows, rfl⟩ := Prod.mk.inj hreturned
      obtain ⟨turns, hlists, hmap⟩ := listingsOf_lists m hrest
      refine ⟨_, .shown x row v' hx ho hrow hlists, ?_⟩
      rw [List.map_cons, hmap]
      exact Outcome.returned.inj hrows
    | false =>
      simp only [ho, Bool.false_eq_true, if_false] at hgo
      obtain ⟨turns, hlists, hmap⟩ := listingsOf_lists m hgo
      exact ⟨turns, .passed x hx ho hlists, hmap⟩

/-- A row shows the handle that its session has left when it is made. -/
theorem listingOf_fd (m : Manager) (hh : h.Sound) (ref : SessionRef) :
    Ends (Since h.environment w) (m.listingOf h ref) w
      (fun row u => ∃ y, u.now.registry.get? ref = some y ∧ row.handle = y.fd)
      (fun _ _ => True) := by
  unfold listingOf
  refine .session_bind (fun x _ => ?_) (fun _ => ⟨.refl w, fun _ => trivial⟩)
  split
  · refine .session_bind (fun y hy => ?_) (fun _ => ⟨.refl w, fun _ => trivial⟩)
    exact .pure (.refl w) ⟨y, hy, rfl⟩
  · refine .bind (reverse_ends m hh (.refl w) _) fun name v hv _ => ?_
    refine .session_bind (fun y hy => ?_) (fun _ => ⟨hv, fun _ => trivial⟩)
    exact .pure hv ⟨y, hy, rfl⟩

end Manager

/-! ## One turn -/

/-- The session that has its turn still has a socket when the turn begins. Its row shows the
descriptor of that socket, or no handle at all: the latter exactly if a close of the socket returned
inside the turn. -/
structure Turn.Shows (t : Turn ω) (x : Session) (socket : Socket) : Prop where
  session : t.start.now.registry.get? t.ref = some x
  isOpen : x.isOpen = true
  socket_eq : x.socket = some socket
  unreleased : ¬ Released t.start.past socket
  live : ¬ Released t.stop.past socket → t.row.handle = socket.descriptor ∧
    t.stop.now.registry.get? t.ref = some x
  dead : Released t.stop.past socket → t.row.handle = -1

/-- The session that has its turn is closed inside it. -/
def Turn.LosesSession (t : Turn ω) : Prop :=
  ∃ x socket, t.start.now.registry.get? t.ref = some x ∧ x.socket = some socket ∧
    Released t.stop.past socket

/-- A row shows no handle exactly if its session is closed inside its turn. -/
theorem Turn.Shows.handle_eq_iff {t : Turn ω} (hs : t.Shows x socket)
    (hd : socket.descriptor ≠ -1) : t.row.handle = -1 ↔ t.LosesSession := by
  constructor
  · intro hhandle
    by_contra hlive
    have hnot : ¬ Released t.stop.past socket := fun hr =>
      hlive ⟨x, socket, hs.session, hs.socket_eq, hr⟩
    exact hd ((hs.live hnot).1.symm.trans hhandle)
  · rintro ⟨y, s, hy, hsocket, hr⟩
    obtain rfl := Option.some.inj (hs.session.symm.trans hy)
    obtain rfl := Option.some.inj (hs.socket_eq.symm.trans hsocket)
    exact hs.dead hr

namespace Manager

theorem shows_of_listingOf (m : Manager) (hh : h.Sound) (hw : w.now.Valid) (he : w.Engaged)
    (hx : w.now.registry.get? ref = some x) (ho : x.isOpen)
    (hrow : m.listingOf h ref w = (.returned row, v)) :
    ∃ socket, (⟨ref, w, v, row⟩ : Turn ω).Shows x socket ∧ socket.descriptor ≠ -1 := by
  obtain ⟨hsince, y, hy, hfd⟩ := (listingOf_fd m hh ref).of_eq_returned hrow
  obtain ⟨k, hk⟩ := Option.isSome_iff_exists.1 ho
  obtain ⟨-, socket, hsocket, hdescriptor⟩ := (hw.coherent.sessions hx).opened k hk
  have hev := hsince.engaged he
  refine ⟨socket, ?_, by rw [hdescriptor]; exact k.isSet⟩
  obtain ⟨y', hy', hkept⟩ := hsince.kept hx
  obtain rfl := Option.some.inj (hy'.symm.trans hy)
  refine ⟨hx, ho, hsocket, he.inUse hx ho hsocket, fun hlive => ?_, fun hdead => ?_⟩
  · rcases hkept with rfl | ⟨-, -, s, hs, hr⟩
    · refine ⟨?_, hy⟩
      rw [hfd, hdescriptor, Session.fd, hk]
      rfl
    · obtain rfl := Option.some.inj (hsocket.symm.trans hs)
      exact absurd hr hlive
  · rcases hkept with rfl | ⟨-, rfl, -⟩
    · exact absurd hdead (hev.inUse hy ho hsocket)
    · exact hfd

/-! ## All turns -/

/-- Every turn of a listing shows its session as it is when the row is made. -/
theorem Lists.shows {turns : List (Turn ω)} (hl : m.Lists h w refs turns u) (hh : h.Sound)
    (hw : w.now.Valid) (he : w.Engaged) :
    ∀ t ∈ turns, ∃ x socket, t.Shows x socket ∧ socket.descriptor ≠ -1 := by
  induction hl with
  | done w => simp
  | passed x hx ho hrest ih => exact ih hw he
  | @shown w u ref refs turns x row v hx ho hrow hrest ih =>
    have hsince := ((listingOf_fd m hh ref).of_eq_returned hrow).1
    intro t ht
    rcases List.mem_cons.1 ht with rfl | ht
    · obtain ⟨socket, hshows⟩ := shows_of_listingOf m hh hw he hx ho hrow
      exact ⟨x, socket, hshows⟩
    · exact ih (hsince.valid hw) (hsince.engaged he) t ht

/-- The rows of a listing: there is a turn for each, which shows its session as it is when the row
is made, and all rows name a handle exactly if no session is closed inside its own turn. -/
structure ShowsHandles (m : Manager) (h : Host ω) (w : World ω) (turns : List (Turn ω))
    (rows : List Listing) (u : World ω) : Prop where
  lists : m.Lists h w w.now.registry.table.refs turns u
  rows_eq : turns.map (·.row) = rows
  shows : ∀ t ∈ turns, ∃ x socket, t.Shows x socket
  handles : (∀ row ∈ rows, row.handle ≠ -1) ↔ ∀ t ∈ turns, ¬ t.LosesSession

/-- Whatever operations are nested in its lookups, a listing shows the handles that its sessions
have left after their own lookups. -/
theorem shows_handles (m : Manager) (bound : Nat) (henv : env.Nests Request.OfManager)
    (hw : w.Attainable) :
    let h : Host ω := ⟨env, perform env m bound, bound + 1⟩
    let result := perform env m (bound + 1) (.operation .listAll) w
    ∀ rows, result.1 = .returned (.rows rows) →
      ∃ turns, m.ShowsHandles h w turns rows result.2 := by
  intro h result rows hrows
  have hh : h.Sound := henv.sound m bound (bound + 1)
  have hresult : (m.listAll h >>= fun rows => pure (Answer.rows rows)) w =
      (.returned (.rows rows), result.2) := Prod.ext hrows rfl
  obtain ⟨rows', u, hlist, hreturned⟩ := bind_eq_returned.1 hresult
  obtain ⟨hanswer, hu⟩ := Prod.mk.inj hreturned
  obtain rfl := Answer.rows.inj (Outcome.returned.inj hanswer)
  rw [← hu]
  have hlistings : m.listingsOf h w.now.registry.table.refs w = (.returned rows', u) := hlist
  obtain ⟨turns, hlists, rfl⟩ := listingsOf_lists m hlistings
  have hshows := hlists.shows hh hw.valid hw.engaged
  refine ⟨turns, hlists, rfl, fun t ht => ?_, ?_⟩
  · obtain ⟨x, socket, hs, -⟩ := hshows t ht
    exact ⟨x, socket, hs⟩
  · rw [List.forall_mem_map]
    refine forall₂_congr fun t ht => not_congr ?_
    obtain ⟨x, socket, hs, hd⟩ := hshows t ht
    exact hs.handle_eq_iff hd

end Manager

/-- A session is closed while its endpoint is looked up. -/
def Script.closedInLookup : Script where
  hosts := [("gate", { addresses := [[192, 0, 2, 1]] })]
  names := [("192.0.2.1",
    { cue := { nested := [.operation (.close 1)] }, name := some "gate.test" })]

/-- A row without a handle. -/
theorem Manager.lists_closed_session :
    let env := Script.environment.nesting Request.OfManager
    let w := env.after {} 4 [.operation (.openSession { host := "gate" })] Script.closedInLookup
    let result := perform env {} 5 (.operation .listAll) w
    w.now.registry.sessions.map (·.fd) = [10] ∧
      result.1.value? = some (.rows [⟨some "gate.test", 23, -1, false, some "192.0.2.1"⟩]) ∧
      ¬ ∀ rows, result.1 = .returned (.rows rows) → ∀ row ∈ rows, row.handle ≠ -1 := by
  intro env w result
  have hrows : result.1.value? =
      some (.rows [⟨some "gate.test", 23, -1, false, some "192.0.2.1"⟩]) := by decide +kernel
  refine ⟨by decide +kernel, hrows, fun hlive => ?_⟩
  exact hlive _ (Outcome.eq_returned hrows) _ (List.mem_singleton_self _) rfl

/-- The second of three sessions is closed while the first one is looked up, and the third one while
it is looked up itself. -/
def Script.closedInLookups : Script where
  hosts := [("gate", { addresses := [[192, 0, 2, 1]] }),
    ("yard", { addresses := [[192, 0, 2, 2]] }), ("dock", { addresses := [[192, 0, 2, 3]] })]
  names := [("192.0.2.1", { cue := { nested := [.operation (.close 2)] } }),
    ("192.0.2.3", { cue := { nested := [.operation (.close 3)] } })]

theorem Manager.shows_handles_closing :
    let env := Script.environment.nesting Request.OfManager
    let gate : Request := .operation (.openSession { host := "gate" })
    let yard : Request := .operation (.openSession { host := "yard" })
    let dock : Request := .operation (.openSession { host := "dock" })
    let w := env.after {} 4 [gate, yard, dock] Script.closedInLookups
    let h : Host Script := ⟨env, perform env {} 4, 5⟩
    let result := perform env {} 5 (.operation .listAll) w
    let rows : List Listing := [⟨none, 23, 10, false, some "192.0.2.1"⟩,
      ⟨none, 23, -1, false, some "192.0.2.3"⟩]
    result.1 = .returned (.rows rows) ∧
      ∃ turns, Manager.ShowsHandles {} h w turns rows result.2 := by
  intro env gate yard dock w h result rows
  have henv : env.Nests Request.OfManager := Script.environment.nesting_nests Request.OfManager
  have hw : w.Attainable := Reachable.attainable
    ⟨env, {}, 4, [gate, yard, dock], Script.closedInLookups, henv, by decide, rfl⟩
  have hrows : result.1 = .returned (.rows rows) := Outcome.eq_returned (by decide +kernel)
  have hshows := Manager.shows_handles {} 4 henv hw rows
  -- the bounds are brought to the form of the statement, so that no run has to be compared
  simp only [Nat.reduceAdd] at hshows
  exact ⟨hrows, hshows hrows⟩

end TcpSessions
