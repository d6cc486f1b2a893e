import TcpSessions.Proofs.Manager.OwnCalls
import TcpSessions.Proofs.Manager.SystemOpening
import TcpSessions.Proofs.Session.Peers
/-!
# Addresses come back as they were

The text of an endpoint's address is a literal that the system lookup takes for that very address,
and for no other one of the family. So what a listing shows of an endpoint opens a connection to
the same endpoint again, whatever is nested in the calls of either (`Manager.addresses_round_trip`).
-/
namespace TcpSessions

open Act World

variable {ω : Type} {env : Environment ω} {m : Manager} {w : World ω}

/-- A call that is no connect, or one to a given address. -/
def Call.ConnectsOnlyTo (address : SocketAddress) (c : Call) : Prop :=
  ∀ socket other, c = .connect socket other → other = address

/-- A known family is found by its number. -/
theorem Family.ofNumber?_number (f : Family) : Family.ofNumber? f.number = some f := by
  cases f <;> rfl

theorem Peer.eq_of_parts {p q : Peer} (ha : p.address = q.address) (hport : p.port = q.port)
    (hp : p.Unscoped) (hq : q.Unscoped) : p = q := by
  cases p
  cases q
  obtain ⟨hpf, hps⟩ := hp
  obtain ⟨hqf, hqs⟩ := hq
  simp_all

/-- Parts taken from an endpoint make the endpoint again. -/
theorem Peer.eq_of_remade {p q : Peer} (hp : p.Unscoped)
    (hq : Peer.ofFields ⟨.known p.address.family, p.address.bytes, p.port.toNat, 0, 0⟩ = .ok q) :
    q = p := by
  obtain ⟨hfamily, hbytes, hport, hflow, hscope⟩ := Peer.eq_of_ofFields rfl hq
  refine Peer.eq_of_parts (Address.eq_of_bytes hfamily hbytes) ?_ ⟨hflow, hscope⟩ hp
  have hnat : q.port.toNat = p.port.toNat := Int.ofNat.inj hport
  exact UInt16.toNat_inj.1 hnat

namespace Manager

/-- How the endpoint `p` is opened again from its address and its port. -/
def reopening (p : Peer) (address : String) (port : Int) (flags : SessionFlags)
    (token : Option TokenId) : OpenRequest :=
  { host := address, port := some port, family := some p.address.family.number, flags, token }

/-- Opening by address, port and family connects only to the endpoint, wherever it is tried and
however it ends. -/
def Reopens (m : Manager) (env : Environment ω) (p : Peer) (address : String) (port : Int) : Prop :=
  ∀ (bound : Nat) (flags : SessionFlags) (token : Option TokenId) (u : World ω),
    u.Making (fun s => s.call.ConnectsOnlyTo p.socketAddress)
      (perform env m bound (.operation (.openSession (reopening p address port flags token))) u).2

theorem reopens_of_unscoped (hm : m.lookup = .system) (henv : env.Nests Request.OfManager)
    {p : Peer} (hp : p.Unscoped) : m.Reopens env p p.host p.port.toNat := by
  intro bound flags token u
  cases bound with
  | zero => exact (made_refl _ u).making
  | succ bound =>
    refine openSession_making m henv (perform_closed henv m bound (bound + 1)) _ ?_ ?_
    · rintro _ - c hc socket other rfl
      exact hc.elim
    · intro port family candidates hport hfamily hfound bytes hbytes q hq socket
      obtain rfl : port = p.port.toNat := checkPort_eq hport
      obtain rfl : p.address.family = family := by
        simpa [reopening, checkFamily, Family.ofNumber?_number] using hfamily
      rw [resolve_system hm] at hfound
      have hliteral : Lookup.resolve ⟨env, perform env m bound, bound + 1⟩ token p.host
          p.address.family u = (.returned [p.address.bytes], u) :=
        Lookup.resolve_of_literal (Address.literal?_text p.address) u
      rw [reopening, hliteral] at hfound
      obtain rfl := Outcome.returned.inj hfound
      obtain rfl := List.mem_singleton.1 hbytes
      obtain rfl := Peer.eq_of_remade hp hq
      rintro _ other ⟨⟩
      rfl

/-- The rows that a listing is answered with are those of tracked sessions. -/
theorem listed_of_perform (henv : env.Nests Request.OfManager) (bound : Nat)
    {rows : List Listing}
    (hrows : (perform env m bound (.operation .listAll) w).1 = .returned (.rows rows)) :
    Listed w w.now.registry.table.refs rows := by
  cases bound with
  | zero => cases hrows
  | succ bound =>
    have hh := henv.sound m bound (bound + 1)
    have hserve : Ends (Since env w) (Operation.listAll.serve ⟨env, perform env m bound, bound + 1⟩ m)
        w (fun answer _ => ∀ rows, answer = .rows rows → Listed w w.now.registry.table.refs rows)
        fun _ _ => True := by
      refine .bind (listAll_ends m hh (.refl w)) fun found u hu hfound => .pure hu ?_
      rintro rows ⟨⟩
      exact hfound
    exact hserve.returned _ hrows rows rfl

/-- Addresses and their texts name each other, and what a listing shows of an endpoint names it. -/
structure RoundTrips (m : Manager) (env : Environment ω) (w : World ω) : Prop where
  literal : ∀ p : Peer, Address.literal? p.address.family p.host = some p.address.bytes
  /-- No call is made: the world stays as it is. -/
  resolved : ∀ (p : Peer) (h : Host ω) (token : Option TokenId) (u : World ω),
    Lookup.resolve h token p.host p.address.family u = (.returned [p.address.bytes], u)
  distinct : ∀ p q : Peer, p.address.family = q.address.family → p.address ≠ q.address →
    p.host ≠ q.host
  /-- Every row is that of a tracked session, in the order of the table, and opens the endpoint of
  that session again. -/
  reopened : ∀ bound rows,
    (perform env m bound (.operation .listAll) w).1 = .returned (.rows rows) →
    ∃ shown : List (Listing × SessionRef), shown.map Prod.fst = rows ∧
      (shown.map Prod.snd).Sublist w.now.registry.table.refs ∧
      ∀ s ∈ shown, ∀ address, s.1.peerAddress = some address →
        ∃ x p, w.now.registry.get? s.2 = some x ∧ x.peer = some p ∧ p.host = address ∧
          m.Reopens env p address s.1.peerPort

theorem addresses_round_trip (hm : m.lookup = .system) (henv : env.Nests Request.OfManager)
    (hw : w.Reachable) : m.RoundTrips env w where
  literal := fun p => Address.literal?_text p.address
  resolved := fun p h token u => Lookup.resolve_of_literal (Address.literal?_text p.address) u
  distinct := fun p q hf hne hhost => hne (Address.eq_of_text hf hhost)
  reopened := by
    intro bound rows hrows
    obtain ⟨shown, hshown, hsub, hall⟩ := listed_of_perform henv bound hrows
    refine ⟨shown, hshown, hsub, fun s hs address haddress => ?_⟩
    have htracked : s.2 ∈ w.now.registry.table.refs := hsub.subset (List.mem_map_of_mem hs)
    obtain ⟨x, hx⟩ := hw.valid.indexed.exists_get? htracked
    obtain ⟨p, hp, rfl, hport⟩ := hall s hs x hx address haddress
    refine ⟨x, p, hx, hp, rfl, ?_⟩
    rw [← hport]
    exact reopens_of_unscoped hm henv (hw.unscoped s.2 x p hx hp)

theorem addresses_round_trip_unreachable :
    let env := Environment.unreachable
    let m : Manager := { lookup := .system, defaultFamily := .inet6 }
    let w := env.after m 3 [.operation (.openSession { host := "gate" })] ()
    (match (perform env m 3 (.operation .listAll) w).1 with
      | .returned (.rows rows) => rows
      | _ => []) = [⟨none, 23, 10, false, some "2001:db8::1"⟩] ∧
    m.RoundTrips env w :=
  ⟨by decide +kernel, addresses_round_trip rfl (Environment.ofReplies_quiet _).nests
    ⟨_, _, 3, _, (), (Environment.ofReplies_quiet _).nests, by decide, rfl⟩⟩

end Manager
end TcpSessions
