import TcpSessions.Proofs.Manager.Candidates
/-!
# An open hands back a live session

While an open waits for its calls, other operations may get hold of the session that it has
registered, and close it. Until the open has connected it, the session either still has its socket
or has lost it for good (`World.Owns`), and the last thing an open does is to look: it connects
only a socket that is there, and marks only a session as connected that has a handle. So a session
that it returns is as it should be (`Manager.opens_alive`).
-/
namespace TcpSessions

open Act World

variable {ω : Type} {h : Host ω} {env : Environment ω} {m : Manager} {w w₀ u v : World ω}
variable {token : Option TokenId} {ref : SessionRef} {socket : Socket} {c : Call}

/-! ## The socket of an open -/

namespace Exchange

/-- What a factory gave when it was asked: the socket that was made of its reply, if any. -/
def given? : Exchange → Option (Option Socket)
  | ⟨.createSocket _, reply, now⟩ => some (reply.toOption.map fun d => ⟨now.sockets.length, d⟩)
  | _ => none

theorem given?_eq_none {e : Exchange} (h : ∀ family, e.call ≠ .createSocket family) :
    e.given? = none := by
  obtain ⟨c, reply, now⟩ := e
  cases c with
  | createSocket family => exact absurd rfl (h family)
  | _ => rfl

end Exchange

namespace World

/-- What the factory of sockets gave since an earlier world, to the work itself and not to what is
nested in its calls. -/
def socketsGiven (u w : World ω) : List (Option Socket) :=
  (u.exchangesSince w).filterMap Exchange.given?

/-- The session has the socket, with its descriptor for a handle, or has neither any more. -/
def Owns (w : World ω) (ref : SessionRef) (socket : Socket) : Prop :=
  ∃ x, w.now.registry.get? ref = some x ∧
    (x.socket = some socket ∧ x.handle = Handle.ofInt? socket.descriptor ∨
      x.socket = none ∧ x.handle = none)

/-- Others can do no more than close the session. -/
theorem Owns.since (ho : w.Owns ref socket) (hs : Since env w u) : u.Owns ref socket := by
  obtain ⟨x, hx, hown⟩ := ho
  obtain ⟨x', hx', rfl | ⟨-, rfl, -⟩⟩ := hs.kept hx
  · exact ⟨x', hx', hown⟩
  · exact ⟨_, hx', .inr ⟨rfl, rfl⟩⟩

theorem Owns.answered {reply : Except Failure c.Reply} (ho : w.Owns ref socket)
    (ha : w.Answered env token c reply u) : u.Owns ref socket := by
  obtain ⟨v, hv, rfl⟩ := ha.steps
  have hentered : (w.push (.entered c token w.now)).Owns ref socket := ho
  have hleft : v.Owns ref socket := hentered.since hv
  exact hleft

/-- A session that is still open has its socket. -/
theorem Owns.of_isOpen {x : Session} (ho : w.Owns ref socket)
    (hx : w.now.registry.get? ref = some x) (hopen : x.isOpen) :
    x.socket = some socket ∧ ∃ k, x.handle = some k ∧ k.number = socket.descriptor := by
  obtain ⟨y, hy, hown⟩ := ho
  obtain rfl := Option.some.inj (hx.symm.trans hy)
  obtain ⟨k, hk⟩ := Option.isSome_iff_exists.1 hopen
  rcases hown with ⟨hsocket, hhandle⟩ | ⟨-, hhandle⟩
  · rw [hk] at hhandle
    exact ⟨hsocket, k, hk, (Handle.number_of_ofInt? hhandle.symm).symm⟩
  · rw [hk] at hhandle
    cases hhandle

/-- From `w` to `u` no socket was asked for, and the last call was a connect that returned. -/
def Dialled (w : World ω) (socket : Socket) (peer : Peer) (u : World ω) : Prop :=
  ∃ log now, w.Exchanged (log ++ [⟨.connect socket peer.socketAddress, .ok (), now⟩]) u ∧
    log.filterMap Exchange.given? = []

section
variable {peer : Peer}

theorem Dialled.after (hd : w.Dialled socket peer u) (ht : w₀.Told Exchange.given? [] w) :
    w₀.Dialled socket peer u := by
  obtain ⟨log, now, hlog, hnone⟩ := hd
  obtain ⟨log₀, hlog₀, hnone₀⟩ := ht
  refine ⟨log₀ ++ log, now, ?_, by rw [List.filterMap_append, hnone₀, hnone]; rfl⟩
  rw [List.append_assoc]
  exact hlog₀.trans hlog

theorem Dialled.congr (hd : w.Dialled socket peer u) (hp : v.past = u.past) :
    w.Dialled socket peer v := by
  obtain ⟨log, now, hlog, hnone⟩ := hd
  exact ⟨log, now, hlog.congr hp, hnone⟩

theorem Dialled.notice (hd : w.Dialled socket peer u) (n : Notice) :
    w.Dialled socket peer (u.push (.noticed n)) := by
  obtain ⟨log, now, hlog, hnone⟩ := hd
  exact ⟨log, now, hlog.notice n, hnone⟩

theorem Dialled.told (hd : w.Dialled socket peer u) : w.Told Exchange.given? [] u := by
  obtain ⟨log, now, hlog, hnone⟩ := hd
  exact ⟨_, hlog, by rw [List.filterMap_append, hnone]; rfl⟩

/-- An attempt ended by joining its session to the candidate that it had just connected to. -/
structure Joined (w : World ω) (a : Manager.Attempt) (socket : Socket)
    (candidates : List Address.Bytes) (x : Session) (peer : Peer) (u : World ω) : Prop where
  session : u.now.registry.get? a.ref = some x
  connected : x.state = .connected
  socket_eq : x.socket = some socket
  handle : ∃ k, x.handle = some k ∧ k.number = socket.descriptor
  peer_eq : x.peer = some peer
  candidate : ∃ bytes ∈ candidates, peer.At a.family a.port bytes
  dialled : w.Dialled socket peer u

/-- The candidates before it do not matter. -/
theorem Joined.later {a : Manager.Attempt} {bytes : Address.Bytes} {rest : List Address.Bytes}
    {x : Session} (hj : w.Joined a socket rest x peer u) (ht : w₀.Told Exchange.given? [] w) :
    w₀.Joined a socket (bytes :: rest) x peer u where
  session := hj.session
  connected := hj.connected
  socket_eq := hj.socket_eq
  handle := hj.handle
  peer_eq := hj.peer_eq
  candidate := by
    obtain ⟨b, hb, hat⟩ := hj.candidate
    exact ⟨b, List.mem_cons_of_mem _ hb, hat⟩
  dialled := hj.dialled.after ht

end

end World

namespace Manager

/-- A session is registered with the socket that the factory gives, and with no other. -/
theorem register_given (hh : h.Sound) (hc : h.Closed) (family : Family) (flags : SessionFlags) :
    Ends (fun _ => True) (register h token family flags) w
      (fun ref u => ∃ socket, u.Owns ref socket ∧ w.Told Exchange.given? [some socket] u)
      (fun _ _ => True) := by
  unfold register
  refine .onRegistry_bind (.answered_bind hh hc fun reply u ha => ?_)
  cases reply with
  | error f =>
    refine .of_eq (bind_eq rfl _) ?_
    dsimp only
    split
    · exact .onRegistry_bind (.fail trivial trivial)
    · exact .fail trivial trivial
  | ok d =>
    obtain ⟨v, hv, rfl⟩ := ha.steps
    -- nested requests leave the new session alone, since it has no handle yet
    have hx := hv.get?_of_not_open (Registry.get?_create_new w.now.registry flags) rfl
    refine .of_eq (bind_eq (m := Host.socketFrom _) rfl _) ?_
    refine .changeSession_bind hx (fun z hz => ?_) (fun _ _ => ⟨trivial, trivial⟩)
    rw [attach_created rfl] at hz
    obtain rfl := Except.ok.inj hz
    refine .pure trivial ⟨v.nextSocket d, ?_, ?_⟩
    · exact ⟨_, Registry.get?_set_self hx _, .inl ⟨rfl, rfl⟩⟩
    · obtain ⟨es, hp, hes, hown⟩ := ha.exchanged
      exact ⟨_, ⟨es, hp, hes, hown⟩, rfl⟩

theorem enableInline_owns (m : Manager) (hh : h.Sound) (hc : h.Closed) (ho : w.Owns ref socket) :
    Ends (fun _ => True) (m.enableInline h token ref) w
      (fun _ u => u.Owns ref socket ∧ w.Told Exchange.given? [] u) (fun _ _ => True) := by
  unfold enableInline
  refine .session_bind (fun x _ => ?_) (fun _ => ⟨trivial, fun _ => trivial⟩)
  split
  · exact .pure trivial ⟨ho, .refl _ w⟩
  · split
    · refine .answered_bind hh hc fun reply u ha => ?_
      have htold : w.Told Exchange.given? [] u := ⟨_, ha.exchanged, rfl⟩
      have hu := ho.answered ha
      cases reply with
      | ok a => exact .pure trivial ⟨hu, htold⟩
      | error f =>
        dsimp only
        split
        · refine .session_bind (fun y _ => ?_) (fun _ => ⟨trivial, fun _ => trivial⟩)
          exact .of_returned rfl trivial ⟨hu, htold.notice _⟩
        · exact .fail trivial trivial
    · exact .pure trivial ⟨ho, .refl _ w⟩

/-! ## Connecting -/

theorem connectSocket_owns (hh : h.Sound) (hc : h.Closed) (socket : Socket) (peer : Peer) :
    ∀ (patience : Nat) (w : World ω), w.Owns ref socket →
      Ends (fun _ => True) (connectSocket h token socket peer patience) w
        (fun reply u => u.Owns ref socket ∧ w.Told Exchange.given? [] u ∧
          (reply = .ok () → w.Dialled socket peer u))
        (fun _ _ => True)
  | 0, _, _ => .of_stalled rfl trivial
  | patience + 1, w, ho => by
    unfold connectSocket
    refine .answered_bind hh hc fun reply u ha => ?_
    have htold : w.Told Exchange.given? [] u := ⟨_, ha.exchanged, rfl⟩
    have hu := ho.answered ha
    cases reply with
    | ok a => exact .pure trivial ⟨hu, htold, fun _ => ⟨[], _, ha.exchanged, rfl⟩⟩
    | error f =>
      have hfailed : (.error f : Except Failure Unit) = .ok () → w.Dialled socket peer u := by simp
      dsimp only
      split
      · refine .isCancelled_bind ?_
        split
        · exact .pure trivial ⟨hu, htold, hfailed⟩
        · refine (connectSocket_owns hh hc socket peer patience u hu).mono ?_ fun _ _ _ => trivial
          rintro reply v ⟨hv, htold', hlast⟩
          exact ⟨hv, htold.trans htold', fun hok => (hlast hok).after htold⟩
      · exact .pure trivial ⟨hu, htold, hfailed⟩

/-- Only the socket that the session owns is connected. -/
theorem connectSession_owns (hh : h.Sound) (hc : h.Closed) (ho : w.Owns ref socket) (peer : Peer) :
    Ends (fun _ => True) (connectSession h token ref peer) w
      (fun reply u => u.Owns ref socket ∧ w.Told Exchange.given? [] u ∧
        (reply = .ok () → w.Dialled socket peer u))
      (fun _ _ => True) := by
  unfold connectSession
  obtain ⟨x, hx, hown⟩ := id ho
  refine .of_eq (bind_eq (session_some hx) _) ?_
  rcases hown with ⟨hsocket, -⟩ | ⟨hsocket, -⟩
  · rw [hsocket]
    exact connectSocket_owns hh hc socket peer h.patience w ho
  · rw [hsocket]
    exact .fail trivial trivial

/-- Directing a session or connecting it changes nothing about what it owns. -/
theorem owns_set {x y : Session} (ho : w.Owns ref socket) (hx : w.now.registry.get? ref = some x)
    (hsocket : y.socket = x.socket) (hhandle : y.handle = x.handle) :
    (w.setRegistry (w.now.registry.set ref y)).Owns ref socket := by
  obtain ⟨z, hz, hown⟩ := ho
  obtain rfl := Option.some.inj (hx.symm.trans hz)
  refine ⟨y, Registry.get?_set_self hx y, ?_⟩
  rw [hsocket, hhandle]
  exact hown

/-- The candidates are tried until the session has been joined to one of them. -/
theorem tryCandidates_joined (hh : h.Sound) (hc : h.Closed) (a : Attempt) :
    ∀ (candidates : List Address.Bytes) (last : Option Failure) (w : World ω),
      w.Owns a.ref socket →
      Ends (fun _ => True) (tryCandidates h a last candidates) w
        (fun ref u => ref = a.ref ∧ ∃ x peer, w.Joined a socket candidates x peer u)
        (fun _ _ => True)
  | [], last, w, _ => by
    refine .notice_bind (.session_bind (fun x _ => ?_) fun _ => ⟨trivial, fun _ => trivial⟩)
    exact .fail trivial trivial
  | bytes :: rest, last, w, ho => by
    have hcancelled : ∀ {peer : Peer} {errno : Int} {cause : Option Failure} {u : World ω},
        Ends (fun _ => True) (failCancelled a.ref a.host peer errno cause) u
          (fun ref u => ref = a.ref ∧ ∃ x peer, w.Joined a socket (bytes :: rest) x peer u)
          (fun _ _ => True) := by
      intro peer errno cause u
      refine .session_bind (fun x _ => ?_) fun _ => ⟨trivial, fun _ => trivial⟩
      exact .notice_bind (.fail trivial trivial)
    unfold tryCandidates
    dsimp only
    split
    · exact .fail trivial trivial
    rename_i peer hpeer
    refine .isCancelled_bind ?_
    split
    · exact hcancelled
    obtain ⟨x, hx, -⟩ := id ho
    refine .changeSession_bind hx (fun y hy => ?_) (fun _ _ => ⟨trivial, trivial⟩)
    obtain rfl := Except.ok.inj hy
    have ho₁ := owns_set ho hx (y := x.target peer) rfl rfl
    refine .bind (connectSession_owns hh hc ho₁ peer) ?_
    rintro reply u - ⟨hu, htold, hlast⟩
    cases reply with
    | ok a =>
      obtain ⟨z, hz, -⟩ := id hu
      refine .changeSession_bind hz (fun y hy => ?_) (fun _ _ => ⟨trivial, trivial⟩)
      obtain ⟨hopen, rfl⟩ := markConnected_eq_ok hy
      obtain ⟨hsocket, hhandle⟩ := hu.of_isOpen hz hopen
      have hjoined := Registry.get?_set_self hz (z.joined peer)
      refine .of_eq (bind_eq (session_some hjoined) _) (.notice_bind (.pure trivial ⟨rfl, ?_⟩))
      exact ⟨_, peer, {
        session := hjoined
        connected := rfl
        socket_eq := hsocket
        handle := hhandle
        peer_eq := rfl
        candidate := ⟨bytes, List.mem_cons_self .., Peer.at_of_ofFields hpeer⟩
        dialled := ((hlast rfl).congr rfl).notice _ }⟩
    | error f =>
      dsimp only
      split
      · exact hcancelled
      split
      · refine .notice_bind ((tryCandidates_joined hh hc a rest _ _ ?_).mono ?_
          fun _ _ _ => trivial)
        · exact hu
        · rintro ref v ⟨rfl, x, peer, hj⟩
          have hbefore : w.Told Exchange.given? [] u := htold
          exact ⟨rfl, x, peer, hj.later (hbefore.notice _)⟩
      · exact .fail trivial trivial

/-! ## The whole open -/

/-- What an open returns at the moment at which it returns: its session `x` is connected to the
candidate `peer` that the last connect was about, through the socket that the factory gave to this
very open. That socket is still open, and the session has at no moment been closed. -/
structure HandsBack (m : Manager) (h : Host ω) (r : OpenRequest) (w : World ω) (ref : SessionRef)
    (x : Session) (socket : Socket) (peer : Peer) (u : World ω) : Prop where
  session : u.now.registry.get? ref = some x
  connected : x.state = .connected
  attached : x.socket = some socket
  handle : ∃ k, x.handle = some k ∧ k.number = socket.descriptor
  given : u.socketsGiven w = [some socket]
  unreleased : ¬ Released u.past socket
  unclosed : ∀ s ∈ u.moments, ∀ y, s.registry.get? ref = some y → y.state ≠ .closed
  peer_eq : x.peer = some peer
  candidate : ∃ port family candidates, checkPort (r.port.getD m.defaultPort) = .ok port ∧
    m.checkFamily r.family = .ok family ∧
    (m.resolve h r.token r.host family w).1 = .returned candidates ∧
    ∃ bytes ∈ candidates, peer.At family port bytes
  dialled : ∃ now, (u.exchangesSince w).getLast? =
    some ⟨.connect socket peer.socketAddress, .ok (), now⟩

/-- The calls of an open, put together: one socket was asked for, and the last candidate was
joined. -/
theorem openSession_joined (m : Manager) (hh : h.Sound) (hc : h.Closed) (r : OpenRequest) :
    Ends (fun _ => True) (m.openSession h r) w
      (fun ref u => ∃ port family candidates socket x peer v,
        checkPort (r.port.getD m.defaultPort) = .ok port ∧
        m.checkFamily r.family = .ok family ∧
        (m.resolve h r.token r.host family w).1 = .returned candidates ∧
        w.Told Exchange.given? [some socket] v ∧
        v.Joined ⟨ref, r.host, port, family, r.token, candidates.length⟩ socket candidates x peer u)
      (fun _ _ => True) := by
  unfold openSession
  refine .ofExcept_bind (fun port hport => ?_) (fun _ _ => ⟨trivial, trivial⟩)
  refine .ofExcept_bind (fun family hfamily => ?_) (fun _ _ => ⟨trivial, trivial⟩)
  have htells : h.Preserves (fun c => ∀ family, c ≠ .createSocket family) (fun _ => True)
      (w.Told Exchange.given? []) :=
    hc.preserves_told hh.nests (fun _ hgood => Exchange.given?_eq_none hgood) w []
  have hresolve : Ends (fun _ => True) (m.resolve h r.token r.host family) w
      (fun _ u => w.Told Exchange.given? [] u) (fun _ u => w.Told Exchange.given? [] u) :=
    htells.keeps_resolve (fun _ => nofun) (fun _ => nofun) w (.refl _ w)
  refine .bind ((Host.Preserves.candidatesOf_ends hresolve).mono (fun _ _ hp => hp)
    fun _ _ _ => trivial) ?_
  rintro candidates w₁ - ⟨htold₁, hfound⟩
  refine .bind (register_given hh hc family r.flags) ?_
  rintro ref w₂ - ⟨socket, ho₂, htold₂⟩
  refine .bind (enableInline_owns m hh hc ho₂) ?_
  rintro - w₃ - ⟨ho₃, htold₃⟩
  refine (tryCandidates_joined hh hc ⟨ref, r.host, port, family, r.token, candidates.length⟩
    candidates none w₃ ho₃).mono ?_ fun _ _ _ => trivial
  rintro ref u ⟨rfl, x, peer, hjoined⟩
  exact ⟨port, family, candidates, socket, x, peer, w₃, hport, hfamily, hfound,
    (htold₁.trans htold₂).trans htold₃, hjoined⟩

/-- What an open returns is alive. -/
theorem openSession_handsBack (m : Manager) (hh : h.Sound) (hc : h.Closed) (hw : w.Attainable)
    (r : OpenRequest) (hopen : m.openSession h r w = (.returned ref, u)) :
    ∃ x socket peer, m.HandsBack h r w ref x socket peer u := by
  obtain ⟨-, port, family, candidates, socket, x, peer, v, hport, hfamily, hfound, htold, hj⟩ :=
    (openSession_joined m hh hc r).of_eq_returned hopen
  have hsince := ((openSession_ends m hh (.refl w) r).of_eq_returned hopen).1
  have hopened : x.isOpen := by
    obtain ⟨k, hk, -⟩ := hj.handle
    rw [Session.isOpen, hk]
    rfl
  have hmoments := hsince.moments_precede hw.valid.coherent hw.moments_precede
  refine ⟨x, socket, peer, ?_⟩
  exact {
    session := hj.session
    connected := hj.connected
    attached := hj.socket_eq
    handle := hj.handle
    given := (htold.trans hj.dialled.told).since_eq
    unreleased := (hsince.engaged hw.engaged).inUse hj.session hopened hj.socket_eq
    unclosed := not_closed_before hmoments hj.session (by simp [hj.connected])
    peer_eq := hj.peer_eq
    candidate := ⟨port, family, candidates, hport, hfamily, hfound, hj.candidate⟩
    dialled := by
      obtain ⟨log, hlog, -⟩ := htold
      obtain ⟨log', now, hlog', -⟩ := hj.dialled
      refine ⟨now, ?_⟩
      rw [(hlog.trans hlog').since_eq]
      simp }

/-- How an open ends: with a live session, or not at all with a session; in particular when the
socket that the factory gave to this open has been closed meanwhile. -/
structure OpensAlive (m : Manager) (h : Host ω) (r : OpenRequest) (w : World ω)
    (outcome : Outcome Answer) (u : World ω) : Prop where
  returned : ∀ a, outcome = .returned a → ∃ ref x socket peer,
    m.openSession h r w = (.returned ref, u) ∧ a = .session x.id ∧
      m.HandsBack h r w ref x socket peer u
  closed : ∀ socket, some socket ∈ u.socketsGiven w → Released u.past socket →
    (∃ f, outcome = .failed f) ∨ outcome = .stalled

/-- Whatever operations are nested in the calls of an open, and in each other: what it returns is
alive. -/
theorem opens_alive (m : Manager) (bound : Nat) (henv : env.Nests Request.OfManager)
    (hw : w.Attainable) (r : OpenRequest) :
    let h : Host ω := ⟨env, perform env m bound, bound + 1⟩
    let result := perform env m (bound + 1) (.operation (.openSession r)) w
    OpensAlive m h r w result.1 result.2 := by
  intro h result
  have hh : h.Sound := henv.sound m bound (bound + 1)
  have hc : h.Closed := perform_closed henv m bound (bound + 1)
  have hresult : result = (Operation.openSession r).serve h m w := rfl
  rcases hopen : m.openSession h r w with ⟨o, u⟩
  cases o with
  | failed f =>
    have hserved : result = (.failed f, u) := bind_failed hopen _
    rw [hserved]
    exact ⟨nofun, fun _ _ _ => .inl ⟨f, rfl⟩⟩
  | stalled =>
    have hserved : result = (.stalled, u) := bind_stalled hopen _
    rw [hserved]
    exact ⟨nofun, fun _ _ _ => .inr rfl⟩
  | returned ref =>
    obtain ⟨x, socket, peer, hback⟩ := openSession_handsBack m hh hc hw r hopen
    rw [hresult, serve_openSession_eq x.id hopen fun ref' href => by
      obtain rfl := Outcome.returned.inj href
      exact ⟨x, hback.session, rfl⟩]
    refine ⟨fun a ha => ?_, fun socket' hgiven hreleased => ?_⟩
    · obtain rfl := Outcome.returned.inj ha
      exact ⟨ref, x, socket, peer, hopen, rfl, hback⟩
    · rw [hback.given, List.mem_singleton] at hgiven
      obtain rfl := Option.some.inj hgiven
      exact absurd hreleased hback.unreleased

end Manager

/-- While the second session is opened, the first one is closed, the second one is removed before
it has a socket, and a third one is opened. -/
def Script.meddling : Script where
  hosts := [("gate", { addresses := [[192, 0, 2, 1]] }),
    ("yard", { cue := { nested := [.operation (.close 1)] }, addresses := [[192, 0, 2, 2]] })]
  coming := [{}, {
    create := { nested := [.operation (.remove 2)] }
    connect := some [("192.0.2.2", [{
      nested := [.operation (.openSession { host := "gate" })]
      failure := some .interrupt }])] }]

/-- An open hands back its session although others work on the table meanwhile; one whose session is
closed in its connect fails. -/
theorem Manager.opens_alive_meddling :
    let env := Script.environment.nesting Request.OfManager
    let w := env.after {} 4 [.operation (.openSession { host := "gate" })] Script.meddling
    let r : OpenRequest := { host := "yard" }
    let h : Host Script := ⟨env, perform env {} 4, 5⟩
    let result := perform env {} 5 (.operation (.openSession r)) w
    let v : World Script := { outside := Script.closedWhileConnecting }
    let r' : OpenRequest := { host := "gate" }
    let result' := perform env {} 5 (.operation (.openSession r')) v
    result.2.now.registry.trackedIds = [1, 3] ∧
      result.2.now.registry.sessions.map (·.state) = [.closed, .connected, .connected] ∧
      (∃ ref x socket peer, result.1 = .returned (.session x.id) ∧
        Manager.HandsBack {} h r w ref x socket peer result.2) ∧
      result'.1.reason? = some (.lifecycle .notAttached) ∧
      ((∃ f, result'.1 = .failed f) ∨ result'.1 = .stalled) := by
  intro env w r h result v r' result'
  have henv : env.Nests Request.OfManager := Script.environment.nesting_nests Request.OfManager
  have hw : w.Attainable :=
    Reachable.attainable ⟨env, {}, 4, _, Script.meddling, henv, by decide, rfl⟩
  have hv : v.Attainable :=
    Reachable.attainable ⟨env, {}, 4, [], Script.closedWhileConnecting, henv, by decide, rfl⟩
  have halive := Manager.opens_alive {} 4 henv hw r
  have hclosed := Manager.opens_alive {} 4 henv hv r'
  -- the bounds are brought to the form of the statement, so that no run has to be compared
  simp only [Nat.reduceAdd] at halive hclosed
  refine ⟨by decide +kernel, by decide +kernel, ?_, by decide +kernel, ?_⟩
  · have hreturned : result.1 = .returned (.session 2) := Outcome.eq_returned (by decide +kernel)
    obtain ⟨ref, x, socket, peer, -, hid, hback⟩ := halive.returned _ hreturned
    refine ⟨ref, x, socket, peer, ?_, hback⟩
    rw [← hid]
    exact hreturned
  · exact hclosed.closed ⟨0, 10⟩ (by decide +kernel) (by unfold Released; decide +kernel)

end TcpSessions
