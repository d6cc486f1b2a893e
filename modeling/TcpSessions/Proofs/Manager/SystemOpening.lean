import TcpSessions.Proofs.Manager.Failures
import TcpSessions.Proofs.Manager.Patience
import TcpSessions.Proofs.Manager.SystemLookup
import TcpSessions.Proofs.Peer
/-!
# Opening over the name lookup of the system

What the system lookup finds makes an endpoint, so an open that has registered its session cannot
stumble over a candidate (`Manager.open_over_system`). When it gives up after the last candidate,
its failure and its session say which one that was and how it refused (`Manager.Exhausted`).
-/
namespace TcpSessions

open Act World

variable {ω : Type} {h : Host ω} {env : Environment ω} {m : Manager} {w u : World ω}
variable {flags : SessionFlags} {socket : Socket} {x : Session} {calls : List SocketCall}

/-- The calls of an open on its socket are plainly refused if they fail, and a new socket has a
descriptor. -/
structure Environment.PlainSockets (env : Environment ω) : Prop where
  descriptor : ∀ {family d}, env.MayAnswer (.createSocket family) (.ok d) → d ≠ -1
  option : ∀ {socket f}, env.MayAnswer (.setInline socket) (.error f) → f.Plain
  connect : ∀ {socket address f}, env.MayAnswer (.connect socket address) (.error f) → f.Plain

/-- Sockets are plainly refused if they are refused. -/
def Environment.PlainFactory (env : Environment ω) : Prop :=
  ∀ family f, env.MayAnswer (.createSocket family) (.error f) → f.Plain

/-- Whether a failure says that no socket could be had, or that it could not be connected. -/
def Failure.isOpening (f : Failure) : Bool :=
  match f.reason with
  | .socketCreation _ | .connection .. => true
  | _ => false

/-- A backed failure has the reason that it was meant to have, unless its code is too wide. -/
theorem Failure.backed_eq {reason : Option Int → Reason} {e : Option Int} {cause : Option Failure}
    (h : (Failure.backed reason e cause).reason ≠ .numberTooWide) :
    Failure.backed reason e cause = ⟨reason e, cause, none⟩ := by
  unfold backed at h ⊢
  split at h
  · rename_i hfits
    rw [if_pos hfits]
  · exact absurd rfl h

/-- A failure that is backed for another reason does not say that a connect was refused. -/
theorem Failure.backed_ne_connection {reason : Option Int → Reason} {e : Option Int}
    {cause : Option Failure} {id : Int} {errno : Option Int}
    (h : reason e ≠ .connection id errno false) :
    (Failure.backed reason e cause).reason ≠ .connection id errno false := by
  intro hr
  rw [Failure.backed_eq (by rw [hr]; simp)] at hr
  exact h hr

namespace Manager

/-! ## How far an open has got -/

/-- What an open has to show for the candidates it has tried: its session is directed at the last
of them, and the latest call on its socket is the connect that this one refused. -/
inductive Attempt.Progress (a : Attempt) (socket : Socket) (x : Session)
    (calls : List SocketCall) : List Address.Bytes → Option Failure → Prop
  | start : Progress a socket x calls [] none
  | refused (tried : List Address.Bytes) (bytes : Address.Bytes) (peer : Peer) (f : Failure)
    (hpeer : Peer.ofFields { family := .known a.family, address := bytes, port := a.port } =
      .ok peer)
    (hx : x.peer = some peer)
    (hcall : calls.head? = some ⟨.connect socket peer.socketAddress, .failed f⟩) :
    Progress a socket x calls (tried ++ [bytes]) (some f)

/-- Only a candidate that refuses makes an open fail for want of a connection. -/
theorem Attempt.Stops.ne_connection {a : Attempt} {bytes : Address.Bytes} {f : Failure}
    {id id' : Int} {errno : Option Int} (hs : a.Stops env socket id' bytes calls f)
    (hplain : env.PlainSockets) (hr : f.reason = .connection id errno false) : False := by
  cases hs with
  | malformed e he => cases hr
  | cancelled => exact Failure.backed_ne_connection (by simp) hr
  | noHandle hd => cases hr
  | interrupted f hf hi => exact Failure.backed_ne_connection (by simp) hr
  | fault f hf hs =>
    rw [(hf.plain hplain.connect).system] at hs
    cases hs

/-- An open that runs out of candidates fails with what the last of them refused with. -/
theorem tryCandidates_exhausted (hh : h.Quiet) (hplain : h.environment.PlainSockets) {a : Attempt}
    (ha : a.ref = w.newcomer) :
    ∀ (rest tried : List Address.Bytes) (last : Option Failure) (x : Session)
      (calls : List SocketCall) (u : World ω),
      w.Opening flags socket x calls u → Trying calls → a.Progress socket x calls tried last →
      Ends (fun _ => True) (tryCandidates h a last rest) u (fun _ _ => True)
        (fun f u' => ∀ id errno, f.reason = .connection id errno false →
          ∃ x' calls' last', w.Opening flags socket x' calls' u' ∧
            a.Progress socket x' calls' (tried ++ rest) last' ∧
            f = .backed (.connection w.now.registry.table.nextId · false)
              (last'.map (·.errnoOr)) last')
  | [], tried, last, x, calls, u, ho, ht, hp => by
    refine .of_failed (failConnection_eq ha ho last) trivial fun id errno _ => ?_
    rw [List.append_nil]
    exact ⟨x, calls, last, ho.notice _, hp, rfl⟩
  | bytes :: rest, tried, last, x, calls, u, ho, ht, hp => by
    have hturn := tryCandidates_turn hh ha ho ht last bytes rest
    generalize hrun : tryCandidates h a last (bytes :: rest) u = result at hturn
    cases hturn with
    | stopped f x' calls' v ho' ht' hs =>
      exact .of_failed hrun trivial fun id errno hr => (hs.ne_connection hplain hr).elim
    | connected x' calls' v ho' ht' hx => exact .of_returned hrun trivial trivial
    | stalled peer v hconnect hpart => exact .of_stalled hrun trivial
    | refused peer f calls' v hpeer ho' ht' hcall hf hs =>
      have hp' : a.Progress socket (x.target peer) calls' (tried ++ [bytes]) (some f) :=
        .refused tried bytes peer f hpeer rfl hcall
      refine .of_eq hrun ((tryCandidates_exhausted hh hplain ha rest (tried ++ [bytes]) (some f)
        _ calls' v ho' ht' hp').mono (fun _ _ hp => hp) ?_)
      intro g v' hg
      simpa using hg

/-! ## Opening -/

/-- An open that ran out of candidates. Its session is directed at the last address that the
resolver found, at the port asked for, and what that connect failed with is the cause. -/
inductive Exhausted (m : Manager) (h : Host ω) (r : OpenRequest) (w : World ω) :
    Failure → World ω → Prop
  | intro (family : Family) (found : List Address.Bytes) (bytes : Address.Bytes) (socket : Socket)
    (x : Session) (calls : List SocketCall) (peer : Peer) (cause : Failure) (u : World ω)
    (hfamily : m.checkFamily r.family = .ok family)
    (hfound : (m.resolve h r.token r.host family w).1 = .returned found)
    (hlast : found.getLast? = some bytes)
    (ho : w.Opening r.flags socket x calls u)
    (hx : x.peer = some peer)
    (haddress : peer.address.family = family ∧ peer.address.bytes = bytes)
    (hport : (peer.port.toNat : Int) = r.port.getD m.defaultPort)
    (hcall : calls.head? = some ⟨.connect socket peer.socketAddress, .failed cause⟩) :
    Exhausted m h r w ⟨.connection x.id (some cause.errnoOr) false, some cause, none⟩ u

/-- The surroundings fail an open with a failure of their own. -/
def Foreign (env : Environment ω) (r : OpenRequest) (f : Failure) : Prop :=
  ∃ family, env.MayAnswer (.addressInfo r.host family) (.error f) ∨
    env.MayAnswer (.createSocket family) (.error f)

theorem checkPort_eq {port port' : Int} (hp : checkPort port = .ok port') : port' = port := by
  unfold checkPort at hp
  split at hp
  · exact (Except.ok.inj hp).symm
  · cases hp

theorem checkPort_eq_error {port : Int} {f : Failure} (hp : checkPort port = .error f) :
    f = .of (.portOutOfRange port) := by
  unfold checkPort at hp
  split at hp
  · cases hp
  · exact (Except.error.inj hp).symm

theorem checkFamily_eq_error {family : Option Int} {f : Failure}
    (hf : m.checkFamily family = .error f) : ∃ n, f = .of (.unknownFamily n) := by
  cases family with
  | none => cases hf
  | some n =>
    unfold checkFamily at hf
    dsimp only at hf
    cases hn : Family.ofNumber? n with
    | some known => simp [hn] at hf
    | none =>
      rw [hn] at hf
      exact ⟨n, (Except.error.inj hf).symm⟩

theorem resolve_system (hm : m.lookup = .system) (token : Option TokenId) (host : String)
    (family : Family) : m.resolve h token host family = Lookup.resolve h token host family := by
  unfold resolve
  rw [hm]

theorem Unresolved.foreign (hm : m.lookup = .system) (hh : h.Quiet) {r : OpenRequest}
    {family : Family} {f : Failure} (hf : m.Unresolved h r.token r.host family w f) {id : Int}
    {errno : Option Int} (hr : f.reason = .connection id errno false) :
    Foreign h.environment r f := by
  cases hf with
  | refused f hf hi =>
    rw [resolve_system hm] at hf
    rcases (Lookup.resolve_found hh r.host family).failed f hf with hne | hmay
    · exact absurd hr (hne id errno false)
    · exact ⟨family, .inl hmay⟩
  | interrupted f hf hi => cases hr
  | cancelled => cases hr

/-- The connection failures of an open are those of its last candidate. -/
theorem openSession_exhausted (hm : m.lookup = .system) (hh : h.Quiet)
    (hplain : h.environment.PlainSockets) (r : OpenRequest) :
    Ends (fun _ => True) (m.openSession h r) w (fun _ _ => True)
      (fun f u => ∀ id errno, f.reason = .connection id errno false →
        Foreign h.environment r f ∨ m.Exhausted h r w f u) := by
  unfold openSession
  refine .ofExcept_bind (fun port hport => ?_) (fun f hf => ⟨trivial, fun id errno hr => ?_⟩)
  case refine_2 =>
    rw [checkPort_eq_error hf] at hr
    cases hr
  refine .ofExcept_bind (fun family hfamily => ?_) (fun f hf => ⟨trivial, fun id errno hr => ?_⟩)
  case refine_2 =>
    obtain ⟨n, rfl⟩ := checkFamily_eq_error hf
    cases hr
  refine .bind ((candidatesOf_quiet m hh r.host family).imp (fun _ _ => trivial)
    (fun candidates w₁ hl hfound => And.intro hl hfound)
    (fun f u _ hf id errno hr => .inl (hf.foreign hm hh hr))) ?_
  rintro candidates w₁ - ⟨hl, hfound⟩
  refine .bind ((register_quiet hh family r.flags).imp (fun _ _ => trivial)
    (fun _ _ _ hp => hp) ?_) ?_
  · rintro f u - ⟨-, g, hg, rfl⟩ id errno hr
    split at hr
    · exact absurd hr (Failure.backed_ne_connection (by simp))
    · rename_i hsys
      rw [if_neg hsys]
      exact .inl ⟨family, .inr hg⟩
  rintro ref w₂ - ⟨rfl, d, x, -, ho⟩
  refine .bind ((enableInline_quiet m hh ho).imp (fun _ _ => trivial) (fun _ _ _ hp => hp) ?_) ?_
  · rintro f u - ⟨-, -, -, hf, hsys⟩
    rw [(hplain.option hf).system] at hsys
    cases hsys
  rintro _ w₃ - ⟨calls, ho₃, ht⟩
  refine (tryCandidates_exhausted hh hplain rfl candidates [] none x calls w₃ ho₃ ht .start).mono
    (fun _ _ hp => hp) ?_
  intro f u hf id errno hr
  obtain ⟨x', calls', last, ho', hp, rfl⟩ := hf id errno hr
  have hfound' := hfound
  rw [resolve_system hm] at hfound'
  obtain ⟨hne, -⟩ := (Lookup.resolve_found hh r.host family).returned candidates hfound'
  rw [List.nil_append] at hp
  cases hp with
  | start => exact absurd rfl hne
  | refused tried bytes peer g hpeer hx hcall =>
    rw [Option.map_some] at hr ⊢
    have hbacked : Failure.backed (.connection w₁.now.registry.table.nextId · false)
        (some g.errnoOr) (some g) = ⟨.connection x'.id (some g.errnoOr) false, some g, none⟩ := by
      rw [ho'.id]
      exact Failure.backed_eq (by rw [hr]; simp)
    obtain ⟨hfam, hbytes, hportEq, -⟩ := Peer.eq_of_ofFields rfl hpeer
    right
    rw [hbacked]
    exact .intro family _ bytes _ x' calls' peer g u hfamily hfound (by simp) (ho'.of_lookedUp hl)
      hx ⟨hfam, hbytes⟩ (hportEq.trans (checkPort_eq hport)) hcall

/-- Whatever the resolver finds makes an endpoint. -/
theorem ofFields_of_resolved (hm : m.lookup = .system) (hh : h.Quiet) {token : Option TokenId}
    {host : String} {family : Family} {found : List Address.Bytes}
    (hfound : (m.resolve h token host family w).1 = .returned found) {port : Int}
    (hport : 0 < port ∧ port ≤ 0xffff) :
    found ≠ [] ∧ ∀ bytes ∈ found, ∃ peer,
      Peer.ofFields { family := .known family, address := bytes, port } = .ok peer := by
  rw [resolve_system hm] at hfound
  obtain ⟨hne, hlengths⟩ := (Lookup.resolve_found hh host family).returned found hfound
  exact ⟨hne, fun bytes hb => Peer.ofFields_ok (hlengths bytes hb) hport⟩

/-- The session of an open that has registered none is unknown. -/
theorem get?_newcomer (w : World ω) : w.now.registry.get? w.newcomer = none :=
  List.getElem?_eq_none (Nat.le_refl _)

theorem Attempt.Fails.isOpening {a : Attempt} {candidates : List Address.Bytes} {id : Int}
    {f : Failure} (hplain : h.environment.PlainSockets) (hd : socket.descriptor ≠ -1)
    (hpeers : ∀ bytes ∈ candidates, ∃ peer,
      Peer.ofFields { family := .known a.family, address := bytes, port := a.port } = .ok peer)
    (hf : a.Fails h.environment socket id none candidates calls f) : f.isOpening = true := by
  cases hf with
  | candidate bytes e hmem he =>
    obtain ⟨peer, hok⟩ := hpeers bytes hmem
    rw [hok] at he
    cases he
  | fault f hf hs =>
    rw [(hf.plain hplain.connect).system] at hs
    cases hs
  | noHandle hnone => simp [Handle.ofInt?, hd] at hnone
  | cancelled => rfl
  | interrupted f hf hi => rw [(hf.plain hplain.connect).backed_eq]; rfl
  | refused f hf hs => rw [(hf.plain hplain.connect).backed_eq]; rfl
  | noCandidates hl hc => rfl

/-- An open that fails after it has registered its session fails for want of a socket or of a
connection. -/
theorem OpenFails.isOpening (hm : m.lookup = .system) (hh : h.Quiet)
    (hplain : h.environment.PlainSockets) (hfactory : h.environment.PlainFactory) {r : OpenRequest}
    {f : Failure} (hx : u.now.registry.get? w.newcomer = some x) (hf : m.OpenFails h r w f u) :
    f.isOpening = true := by
  cases hf with
  | check f hf => simp [get?_newcomer] at hx
  | unresolved family f u hl hfamily hf => simp [hl.registry, get?_newcomer] at hx
  | unmade family f u hu hf =>
    rw [if_pos (hfactory family f hf).system, (hfactory family f hf).backed_eq]
    rfl
  | option socket x calls f u ho ht hf hs =>
    rw [(hplain.option hf).system] at hs
    cases hs
  | attempt a candidates d x calls f u hport hfamily hcandidates hd ho ht hf =>
    obtain ⟨-, hpeers⟩ := ofFields_of_resolved hm hh hcandidates (checkPort_eq_ok hport)
    exact hf.isOpening hplain (hplain.descriptor hd) hpeers

/-- Serving an open ends as the open does and answers with the id of the new session. -/
theorem serve_openSession (hh : h.Quiet) (r : OpenRequest) :
    (∃ ref u id, m.openSession h r w = (.returned ref, u) ∧
      (Operation.openSession r).serve h m w = (.returned (.session id), u)) ∨
    (∃ f u, m.openSession h r w = (.failed f, u) ∧
      (Operation.openSession r).serve h m w = (.failed f, u)) ∨
    ∃ u, m.openSession h r w = (.stalled, u) ∧
      (Operation.openSession r).serve h m w = (.stalled, u) := by
  rcases hrun : m.openSession h r w with ⟨o, u⟩
  cases o with
  | returned ref =>
    obtain ⟨-, rfl, socket, x, calls, ho, -⟩ := (m.openSession_quiet hh r).of_eq_returned hrun
    refine .inl ⟨_, u, x.id, rfl, ?_⟩
    exact (bind_eq hrun _).trans (bind_eq (session_some ho.get?) _)
  | failed f => exact .inr (.inl ⟨f, u, rfl, bind_failed hrun _⟩)
  | stalled => exact .inr (.inr ⟨u, rfl, bind_stalled hrun _⟩)

/-- How an open over the system lookup ends. -/
structure OpensSoundly (m : Manager) (h : Host ω) (r : OpenRequest) (w : World ω)
    (outcome : Outcome Answer) (u : World ω) : Prop where
  /-- There are candidates, and all of them make endpoints. -/
  endpoints : ∀ port family found, checkPort (r.port.getD m.defaultPort) = .ok port →
    m.checkFamily r.family = .ok family →
    (m.resolve h r.token r.host family w).1 = .returned found →
    found ≠ [] ∧ ∀ bytes ∈ found, ∃ peer,
      Peer.ofFields { family := .known family, address := bytes, port } = .ok peer
  /-- An open that has registered its session returns or fails for want of a socket or of a
  connection, unless one connect is interrupted for ever. -/
  registered : h.environment.PlainFactory → ∀ x, u.now.registry.get? w.newcomer = some x →
    (∃ answer, outcome = .returned answer) ∨ (∃ f, outcome = .failed f ∧ f.isOpening = true) ∨
      outcome = .stalled ∧ w.Worn r.flags h.patience u
  /-- A connection failure that is not cancelled is that of the last candidate. -/
  exhausted : ∀ f id errno, outcome = .failed f → f.reason = .connection id errno false →
    Foreign h.environment r f ∨ m.Exhausted h r w f u

/-- An open over the system lookup never trips over its own candidates. -/
theorem open_over_system (bound : Nat) (henv : env.Quiet) (hm : m.lookup = .system)
    (hplain : env.PlainSockets) (r : OpenRequest) (w : World ω) :
    m.OpensSoundly ⟨env, perform env m (bound + 1), bound + 2⟩ r w
      (perform env m (bound + 2) (.operation (.openSession r)) w).1
      (perform env m (bound + 2) (.operation (.openSession r)) w).2 := by
  have hh := henv.host m (bound + 1) (bound + 2)
  have hp := henv.prompt m bound (bound + 2)
  have hplain' : (Host.environment ⟨env, perform env m (bound + 1), bound + 2⟩).PlainSockets := hplain
  have hserve : perform env m (bound + 2) (.operation (.openSession r)) w =
      (Operation.openSession r).serve ⟨env, perform env m (bound + 1), bound + 2⟩ m w := rfl
  rw [hserve]
  generalize (⟨env, perform env m (bound + 1), bound + 2⟩ : Host ω) = h at hh hp hplain' ⊢
  have hopen := m.openSession_quiet (w := w) hh r
  have hgives := openSession_givesUp (w := w) m hh hp r
  have hexhausted := openSession_exhausted (w := w) hm hh hplain' r
  have hends := serve_openSession (m := m) (w := w) hh r
  refine ⟨fun port family found hport hfamily hfound =>
    ofFields_of_resolved hm hh hfound (checkPort_eq_ok hport), ?_, ?_⟩
  · intro hfactory x hx
    rcases hends with ⟨ref, u, id, hrun, hs⟩ | ⟨f, u, hrun, hs⟩ | ⟨u, hrun, hs⟩
    · exact .inl ⟨_, by rw [hs]⟩
    · rw [hs] at hx
      have hfails := hopen.failed f (by rw [hrun])
      rw [hrun] at hfails
      exact .inr (.inl ⟨f, by rw [hs], hfails.isOpening hm hh hplain' hfactory hx⟩)
    · have hworn := hgives (by rw [hrun])
      rw [hrun] at hworn
      exact .inr (.inr ⟨by rw [hs], by rw [hs]; exact hworn⟩)
  · intro g id errno hg hr
    rcases hends with ⟨ref, u, id, hrun, hs⟩ | ⟨f, u, hrun, hs⟩ | ⟨u, hrun, hs⟩
    · rw [hs] at hg
      cases hg
    · rw [hs] at hg ⊢
      obtain rfl := Outcome.failed.inj hg
      have hlast := hexhausted.failed f (by rw [hrun]) id errno hr
      rwa [hrun] at hlast
    · rw [hs] at hg
      cases hg

end Manager

/-- Surroundings where a host has addresses in two families, one of them with a scope, and refuses
every connect. -/
def Environment.unreachable : Environment Unit := .ofReplies fun
  | .resolve .. => .ok []
  | .reverse _ => .ok none
  | .addressInfo .. => .ok [⟨2, "192.0.2.1"⟩, ⟨10, "fe80::1%eth0"⟩, ⟨10, "2001:db8::1"⟩]
  | .hostByAddress _ => .ok none
  | .createSocket _ => .ok 10
  | .spareSocket _ => .ok 11
  | .setInline _ => .error (.of (.system .general .nothing))
  | .connect .. => .error (.of (.system .refused (.coded 111 "Connection refused")))
  | .close _ => .ok ()

theorem Environment.plainSockets_unreachable : Environment.unreachable.PlainSockets where
  descriptor := by
    intro family d hd
    have hten : ∀ k : Int, 10 = k → k ≠ -1 := by omega
    exact hten d (Except.ok.inj (mayAnswer_ofReplies hd))
  option := by
    intro socket f hf
    cases mayAnswer_ofReplies hf
    decide
  connect := by
    intro socket address f hf
    cases mayAnswer_ofReplies hf
    decide

theorem Manager.open_over_system_unreachable :
    let env := Environment.unreachable
    let m : Manager := { lookup := .system }
    let r : OpenRequest := { host := "gate", family := some 10 }
    let w : World Unit := { outside := () }
    let h : Host Unit := ⟨env, perform env m 2, 3⟩
    let u := (perform env m 3 (.operation (.openSession r)) w).2
    (perform env m 3 (.operation (.openSession r)) w).1.reason? =
        some (.connection 1 (some 111) false) ∧
      (u.now.registry.sessions.map fun x => x.peer.map (·.host)) = [some "2001:db8::1"] ∧
      m.OpensSoundly h r w (perform env m 3 (.operation (.openSession r)) w).1 u :=
  ⟨by decide +kernel, by decide +kernel,
    open_over_system 1 (Environment.ofReplies_quiet _) rfl Environment.plainSockets_unreachable _ _⟩

end TcpSessions
