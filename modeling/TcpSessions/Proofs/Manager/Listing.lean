import Mathlib.Data.List.Basic
import TcpSessions.Manager.Inventory
import TcpSessions.Proofs.Manager.QuietClosing
import TcpSessions.Proofs.Manager.QuietLookup
import TcpSessions.Proofs.Manager.Settling
import TcpSessions.Proofs.Session.Handles
/-!
# Listing and closing by handle agree

The rows of a listing are those of the open sessions of the table, in table order
(`Registry.rows`). A close by handle searches the same table, so it finds exactly the handles that
are listed, and it takes exactly their rows away.
-/
namespace TcpSessions

open Act World

variable {ω α : Type} {h : Host ω} {env : Environment ω} {w u : World ω} {m : Manager}
variable {ref : SessionRef} {x : Session} {name : Address → Option String}

/-- The row of a session, when addresses have certain names. -/
def Session.row (name : Address → Option String) (x : Session) : Listing where
  peerName := x.peer.bind fun peer => name peer.address
  peerPort := x.peer.elim 0 fun peer => peer.port.toNat
  handle := x.fd
  isProtected := x.flags.isManaged
  peerAddress := x.peer.map (·.host)

namespace Registry

variable {r r' : Registry} {refs : List SessionRef} {row : Listing} {number : Int}

/-- The row of an object, if it is a session with a handle. -/
def row? (r : Registry) (name : Address → Option String) (ref : SessionRef) : Option Listing :=
  ((r.get? ref).filter (·.isOpen)).map (·.row name)

/-- One row for each tracked session with a handle, in table order. -/
def rows (r : Registry) (name : Address → Option String) : List Listing :=
  r.table.refs.filterMap (r.row? name)

/-- The handles of the tracked sessions, in table order. -/
def trackedHandles (r : Registry) : List Handle :=
  r.table.refs.filterMap fun ref => (r.get? ref).bind (·.handle)

theorem row?_eq_some : r.row? name ref = some row ↔
    ∃ x, r.get? ref = some x ∧ x.isOpen ∧ x.row name = row := by
  simp only [row?, Option.map_eq_some_iff, Option.filter_eq_some_iff, and_assoc]

theorem row?_of_open (hx : r.get? ref = some x) (ho : x.isOpen) :
    r.row? name ref = some (x.row name) :=
  row?_eq_some.2 ⟨x, hx, ho, rfl⟩

theorem row?_of_not_open (hx : r.get? ref = some x) (ho : ¬ x.isOpen) : r.row? name ref = none := by
  simp [row?, hx, Option.filter_some, ho]

theorem mem_rows : row ∈ r.rows name ↔
    ∃ ref ∈ r.table.refs, ∃ x, r.get? ref = some x ∧ x.isOpen ∧ x.row name = row := by
  simp only [rows, List.mem_filterMap, row?_eq_some]

/-- If no handle is tracked twice, a handle stands for one tracked session. -/
theorem eq_of_fd_eq {ref' : SessionRef} {x' : Session} (hd : r.trackedHandles.Nodup)
    (hr : ref ∈ r.table.refs) (hr' : ref' ∈ r.table.refs) (hx : r.get? ref = some x)
    (hx' : r.get? ref' = some x') (ho : x.isOpen) (hfd : x.fd = x'.fd) : ref = ref' := by
  obtain ⟨k, hk⟩ := Option.isSome_iff_exists.1 ho
  have hk' : x'.handle = some k := by
    rw [Session.handle_eq_iff_fd, ← hfd, ← Session.handle_eq_iff_fd, hk]
  have hpairs := List.pairwise_filterMap.1 hd
  refine List.Pairwise.forall_of_forall_of_flip
    (R := fun s s' => (r.get? s).bind (·.handle) = some k →
      (r.get? s').bind (·.handle) = some k → s = s')
    (fun _ _ _ _ => rfl) (hpairs.imp ?_) (hpairs.imp ?_) hr hr' (by simp [hx, hk])
    (by simp [hx', hk'])
  · exact fun h hs hs' => absurd rfl (h k hs k hs')
  · exact fun h hs' hs => absurd rfl (h k hs k hs')

theorem findByHandle?_eq (hd : r.trackedHandles.Nodup) (hr : ref ∈ r.table.refs)
    (hx : r.get? ref = some x) (ho : x.isOpen) : r.findByHandle? x.fd = some ref := by
  obtain ⟨ref', hf⟩ := exists_findByHandle? hr hx ho
  obtain ⟨hr', x', hx', -, hfd⟩ := mem_of_findByHandle? hf
  obtain rfl := eq_of_fd_eq hd hr hr' hx hx' ho hfd.symm
  exact hf

/-- Dropping a session takes the rows with its handle away. -/
theorem rows_eq_filter (hd : r.trackedHandles.Nodup) (hr : ref ∈ r.table.refs)
    (hx : r.get? ref = some x) (ho : x.isOpen)
    (htracked : r'.table.refs = r.table.refs.filter (· ≠ ref))
    (hothers : ∀ s, s ≠ ref → r'.get? s = r.get? s) :
    r'.rows name = (r.rows name).filter (·.handle ≠ x.fd) := by
  rw [rows, rows, htracked, List.filterMap_filter, List.filter_filterMap]
  refine List.filterMap_congr fun s hs => ?_
  by_cases hne : s = ref
  · subst hne
    simp [row?_of_open hx ho, Option.filter_some, Session.row]
  · have hsame : r'.row? name s = r.row? name s := by rw [row?, row?, hothers s hne]
    simp only [hne, ne_eq, not_false_eq_true, decide_true, if_true, hsame]
    cases hrow : r.row? name s with
    | none => rfl
    | some row =>
      obtain ⟨y, hy, hyo, rfl⟩ := row?_eq_some.1 hrow
      -- another tracked session has another handle
      have hfd : y.fd ≠ x.fd := fun heq => hne (eq_of_fd_eq hd hs hr hy hx hyo heq)
      simp [Option.filter_some, Session.row, hfd]

end Registry

/-- The work fails with a reason at once, and nothing else happens. -/
def Act.Refuses (m : Act ω α) (w : World ω) (reason : Reason) : Prop :=
  m w = (.failed (.of reason), w)

/-! ## The listing -/

namespace Manager

/-- A row is that of the session, with the name that the resolver gives. -/
theorem listingOf_quiet (name : Address → Option String) (m : Manager) (hh : h.Quiet)
    (hx : w.now.registry.get? ref = some x) :
    Ends (LookedUp w) (m.listingOf h ref) w
      (fun row _ => (∀ address u, (m.reverse h address u).1 = .returned (name address)) →
        row = x.row name)
      (fun f _ => ∃ address u, (m.reverse h address u).1 = .failed f) := by
  unfold listingOf
  refine .of_eq (bind_eq (session_some hx) _) ?_
  split
  · rename_i hp
    refine .of_eq (bind_eq (session_some hx) _) (.pure (.refl w) fun _ => ?_)
    simp [Session.row, hp, Session.isProtected]
  · rename_i peer hp
    refine .bind ((m.reverse_quiet hh peer.address).outcome.mono (fun _ _ hr => hr)
      (fun f _ hf => ⟨peer.address, w, hf⟩)) fun found u hl hr => ?_
    have hx' : u.now.registry.get? ref = some x := by rw [hl.registry, hx]
    refine .of_eq (bind_eq (session_some hx') _) (.pure hl fun hname => ?_)
    obtain rfl : found = name peer.address := by simpa [hname] using hr.symm
    simp [Session.row, hp, Session.isProtected]

theorem listingsOf_quiet (name : Address → Option String) (m : Manager) (hh : h.Quiet) :
    ∀ (refs : List SessionRef) (w : World ω),
    (∀ ref ∈ refs, ∃ x, w.now.registry.get? ref = some x) →
    Ends (LookedUp w) (m.listingsOf h refs) w
      (fun rows _ => (∀ address u, (m.reverse h address u).1 = .returned (name address)) →
        rows = refs.filterMap (w.now.registry.row? name))
      (fun f _ => ∃ address u, (m.reverse h address u).1 = .failed f)
  | [], w, _ => .pure (.refl w) fun _ => rfl
  | ref :: rest, w, hrefs => by
    obtain ⟨x, hx⟩ := hrefs ref (by simp)
    have hrest : ∀ u, w.LookedUp u → ∀ s ∈ rest, ∃ y, u.now.registry.get? s = some y := by
      intro u hl s hs
      rw [hl.registry]
      exact hrefs s (by simp [hs])
    unfold listingsOf
    refine .of_eq (bind_eq (session_some hx) _) ?_
    split
    · rename_i ho
      refine .bind (listingOf_quiet name m hh hx) fun row w₁ h₁ hrow => ?_
      refine .bind ((listingsOf_quiet name m hh rest w₁ (hrest w₁ h₁)).imp (fun _ hl => h₁.trans hl)
        (fun _ _ _ hp => hp) (fun _ _ _ he => he)) fun rows w₂ h₂ hrows => ?_
      refine .pure h₂ fun hname => ?_
      rw [hrow hname, hrows hname, h₁.registry,
        List.filterMap_cons_some (Registry.row?_of_open hx ho)]
    · rename_i ho
      refine (listingsOf_quiet name m hh rest w (hrest w (.refl w))).mono (fun rows _ hrows => ?_)
        (fun _ _ he => he)
      intro hname
      rw [hrows hname, List.filterMap_cons_none (Registry.row?_of_not_open hx ho)]

/-- A listing fails only if naming an address does. -/
theorem listAll_quiet (name : Address → Option String) (m : Manager) (hh : h.Quiet)
    (hw : w.now.Valid) :
    Ends (LookedUp w) (m.listAll h) w
      (fun rows _ => (∀ address u, (m.reverse h address u).1 = .returned (name address)) →
        rows = w.now.registry.rows name)
      (fun f _ => ∃ address u, (m.reverse h address u).1 = .failed f) := by
  unfold listAll
  exact .registry_bind (listingsOf_quiet name m hh _ w fun ref hr => hw.indexed.exists_get? hr)

/-! ## Closing by handle -/

variable {number : Int}

/-- A search that finds a session finds one with a socket. -/
theorem hasSocket_of_findByHandle? (hw : w.now.Valid)
    (hf : w.now.registry.findByHandle? number = some ref) :
    ∃ x handle socket, w.HasSocket ref x handle socket ∧ handle.number = number := by
  obtain ⟨-, x, hx, ho, hfd⟩ := Registry.mem_of_findByHandle? hf
  obtain ⟨handle, socket, hs⟩ := hw.hasSocket hx ho
  exact ⟨x, handle, socket, hs, (Session.handle_eq_iff_fd.1 hs.handle).symm.trans hfd⟩

/-- A close by handle that closes a socket refuses nothing. -/
theorem not_refuses_of_closes (hh : h.Quiet) (hw : w.now.Valid) {handle : Handle} {socket : Socket}
    {force : Bool} (hf : w.now.registry.findByHandle? number = some ref)
    (hx : w.HasSocket ref x handle socket) (hp : (x.isProtected && !force) = false)
    (reason : Reason) : ¬ (closeByHandle h number force).Refuses w reason := by
  intro hrefuses
  have hlt := (closeByHandle_quiet hh hw hf hx hp).always
  rw [hrefuses] at hlt
  exact Nat.lt_irrefl _ hlt

/-- A forced close refuses a handle exactly if no tracked session has it. -/
theorem refuses_handleNotFound_iff (hh : h.Quiet) (hw : w.now.Valid) :
    (closeByHandle h number true).Refuses w (.handleNotFound number) ↔
      w.now.registry.findByHandle? number = none := by
  refine ⟨fun hrefuses => ?_, closeByHandle_eq_of_none⟩
  cases hf : w.now.registry.findByHandle? number with
  | none => rfl
  | some ref =>
    obtain ⟨x, handle, socket, hx, -⟩ := hasSocket_of_findByHandle? hw hf
    exact absurd hrefuses (not_refuses_of_closes hh hw hf hx (by simp) _)

/-- A close without force refuses a handle that is found exactly if its session is protected. -/
theorem refuses_protectedHandle_iff (hh : h.Quiet) (hw : w.now.Valid)
    (hf : w.now.registry.findByHandle? number = some ref) (hx : w.now.registry.get? ref = some x) :
    (closeByHandle h number false).Refuses w (.protectedHandle number) ↔ x.isProtected = true := by
  refine ⟨fun hrefuses => ?_, closeByHandle_eq_of_protected hf hx⟩
  obtain ⟨y, handle, socket, hy, -⟩ := hasSocket_of_findByHandle? hw hf
  obtain rfl := Option.some.inj (hx.symm.trans hy.session)
  cases hp : x.isProtected with
  | true => rfl
  | false => exact absurd hrefuses (not_refuses_of_closes hh hw hf hy (by simp [hp]) _)

theorem listAll_returns (m : Manager) (hh : h.Quiet) (hprompt : h.Prompt) (hw : w.now.Valid)
    (hname : ∀ address u, (m.reverse h address u).1 = .returned (name address)) :
    ∃ u, m.listAll h w = (.returned (w.now.registry.rows name), u) ∧
      u.now.registry = w.now.registry := by
  have hends := listAll_quiet name m hh hw
  cases ho : (m.listAll h w).1 with
  | returned rows =>
    refine ⟨(m.listAll h w).2, ?_, hends.always.registry⟩
    rw [← hends.returned rows ho hname, ← ho]
  | failed f =>
    obtain ⟨address, u, hf⟩ := hends.failed f ho
    rw [hname] at hf
    cases hf
  | stalled => exact absurd ho (listAll_settles m hprompt w)

/-- The listing shows the tracked sessions with a handle, and closing by handle finds what is
listed. -/
structure ListingAgrees (m : Manager) (h : Host ω) (name : Address → Option String)
    (w : World ω) : Prop where
  listed : ∃ u, m.listAll h w = (.returned (w.now.registry.rows name), u) ∧
    u.now.registry = w.now.registry
  /-- A forced close refuses as unknown the handles that are not listed. -/
  unknown : ∀ number, (∃ row ∈ w.now.registry.rows name, row.handle = number) ↔
    ¬ (closeByHandle h number true).Refuses w (.handleNotFound number)
  /-- A close without force refuses as protected the handles that are marked so. -/
  marked : ∀ row ∈ w.now.registry.rows name, row.isProtected = true ↔
    (closeByHandle h row.handle false).Refuses w (.protectedHandle row.handle)
  /-- A forced close of a listed handle fails only as the close of a socket does. -/
  closes : ∀ row ∈ w.now.registry.rows name,
    (closeByHandle h row.handle true w).1 = .returned () ∨
      ∃ socket f, h.environment.MayAnswer (.close socket) (.error f) ∧
        (closeByHandle h row.handle true w).1 = .failed (closeFailure row.handle f)
  /-- Whether it fails or not, it takes the row of the handle away and no other. -/
  drops : ∀ row ∈ w.now.registry.rows name,
    ∃ u, m.listAll h (closeByHandle h row.handle true w).2 =
      (.returned ((w.now.registry.rows name).filter (·.handle ≠ row.handle)), u)

/-- A forced close of a listed handle. -/
theorem closeByHandle_listed (hh : h.Quiet) (hw : w.now.Valid)
    (hd : w.now.registry.trackedHandles.Nodup) (hr : ref ∈ w.now.registry.table.refs)
    (hx : w.now.registry.get? ref = some x) (ho : x.isOpen) :
    Ends (fun _ => True) (closeByHandle h x.fd true) w (fun _ u => w.Dropped ref u)
      (fun f u => w.Dropped ref u ∧ ∃ socket g,
        h.environment.MayAnswer (.close socket) (.error g) ∧ f = closeFailure x.fd g) := by
  obtain ⟨handle, socket, hs⟩ := hw.hasSocket hx ho
  have hf := Registry.findByHandle?_eq hd hr hx ho
  refine (closeByHandle_quiet hh hw hf hs (by simp)).imp (fun _ _ => trivial)
    (fun _ _ _ hp => hp) ?_
  rintro f u - ⟨hdropped, g, hg, rfl⟩
  exact ⟨hdropped, socket, g, hg, by rw [Session.handle_eq_iff_fd.1 hs.handle]⟩

/-- While addresses have fixed names and no handle is tracked twice, listing and closing by handle
agree. -/
theorem listing_agrees (m : Manager) (bound patience : Nat) (henv : env.Quiet) (hw : w.Reachable)
    (hd : w.now.registry.trackedHandles.Nodup)
    (hname : ∀ address u, (m.reverse ⟨env, perform env m (bound + 1), patience⟩ address u).1 =
      .returned (name address)) :
    m.ListingAgrees ⟨env, perform env m (bound + 1), patience⟩ name w := by
  have hh := henv.host m (bound + 1) patience
  have hprompt := henv.prompt m bound patience
  have hv := hw.valid
  constructor
  case listed => exact listAll_returns m hh hprompt hv hname
  case unknown =>
    intro number
    rw [refuses_handleNotFound_iff hh hv]
    constructor
    · rintro ⟨row, hrow, rfl⟩ hnone
      obtain ⟨ref, hr, x, hx, ho, rfl⟩ := Registry.mem_rows.1 hrow
      obtain ⟨ref', hf⟩ := Registry.exists_findByHandle? hr hx ho
      exact absurd (hf.symm.trans hnone) (by simp)
    · intro hsome
      obtain ⟨ref, hf⟩ := Option.ne_none_iff_exists'.1 hsome
      obtain ⟨hr, x, hx, ho, hfd⟩ := Registry.mem_of_findByHandle? hf
      exact ⟨x.row name, Registry.mem_rows.2 ⟨ref, hr, x, hx, ho, rfl⟩, hfd⟩
  case marked =>
    intro row hrow
    obtain ⟨ref, hr, x, hx, ho, rfl⟩ := Registry.mem_rows.1 hrow
    have hf := Registry.findByHandle?_eq hd hr hx ho
    exact (refuses_protectedHandle_iff hh hv hf hx).symm
  case closes =>
    intro row hrow
    obtain ⟨ref, hr, x, hx, ho, rfl⟩ := Registry.mem_rows.1 hrow
    cases hout : (closeByHandle ⟨env, perform env m (bound + 1), patience⟩ (x.row name).handle
      true w).1 with
    | returned a => exact .inl rfl
    | failed f =>
      obtain ⟨-, socket, g, hg, rfl⟩ := (closeByHandle_listed hh hv hd hr hx ho).failed f hout
      exact .inr ⟨socket, g, hg, rfl⟩
    | stalled => exact absurd hout (closeByHandle_settles hprompt _ _ w)
  case drops =>
    intro row hrow
    obtain ⟨ref, hr, x, hx, ho, rfl⟩ := Registry.mem_rows.1 hrow
    have hclose := closeByHandle_listed hh hv hd hr hx ho
    have hdropped : w.Dropped ref (closeByHandle ⟨env, perform env m (bound + 1), patience⟩
        x.fd true w).2 := by
      cases hout : (closeByHandle ⟨env, perform env m (bound + 1), patience⟩ x.fd true w).1 with
      | returned a => exact hclose.returned a hout
      | failed f => exact (hclose.failed f hout).1
      | stalled => exact absurd hout (closeByHandle_settles hprompt _ _ w)
    obtain ⟨u, hu, -⟩ := listAll_returns m hh hprompt hdropped.valid hname
    rw [Registry.rows_eq_filter hd hr hx ho hdropped.tracked hdropped.others] at hu
    exact ⟨u, hu⟩

end Manager

/-- The name of an address with `inet` bytes. -/
def Address.gateName (address : Address) : Option String :=
  if address.family = .inet then some "gate" else none

/-- Surroundings with one host in two families. In `inet6` it refuses connects, and the system
refuses to close the socket. -/
def Environment.halfRefusing : Environment Unit := .ofReplies fun
  | .resolve _ .inet6 => .ok [[32, 1, 13, 184, 0, 0, 0, 0, 0, 0, 0, 0, 0, 0, 0, 1]]
  | .resolve _ _ => .ok [[192, 0, 2, 1]]
  | .reverse address => .ok address.gateName
  | .addressInfo .. => .ok []
  | .hostByAddress _ => .ok none
  | .createSocket .inet6 => .ok 11
  | .createSocket _ => .ok 10
  | .spareSocket _ => .ok 12
  | .setInline _ => .ok ()
  | .connect _ (.inet6 ..) => .error (.of (.system .refused (.coded 111 "Connection refused")))
  | .connect _ (.inet ..) => .ok ()
  | .close socket =>
    if socket.descriptor = 11 then .error (.of (.system .general .nothing)) else .ok ()

namespace Manager

theorem reverse_halfRefusing (h : Host Unit) (hh : h.environment = .halfRefusing)
    (address : Address) (u : World Unit) :
    (reverse {} h address u).1 = .returned address.gateName := by
  obtain ⟨env, nested, patience⟩ := h
  subst hh
  rfl

theorem listing_agrees_halfRefusing :
    let env := Environment.halfRefusing
    let w := env.after {} 4 [.operation (.openSession { host := "gate" }),
      .operation (.openSession { host := "gate", family := some 10, flags := .managed })] ()
    w.now.registry.rows Address.gateName =
        [⟨some "gate", 23, 10, false, some "192.0.2.1"⟩, ⟨none, 23, 11, true, some "2001:db8::1"⟩] ∧
      ListingAgrees {} ⟨env, perform env {} 4, 5⟩ Address.gateName w := by
  refine ⟨by decide +kernel, ?_⟩
  exact listing_agrees {} 3 5 (Environment.ofReplies_quiet _)
    ⟨_, {}, 4, _, (), (Environment.ofReplies_quiet _).nests, by decide, rfl⟩ (by decide +kernel)
    (reverse_halfRefusing _ rfl)

end Manager
end TcpSessions
