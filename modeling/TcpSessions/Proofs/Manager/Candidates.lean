import TcpSessions.Proofs.Manager.Registering
/-!
# Candidates are tried in turn

What an open does about its candidates, told from its connects alone. A candidate is connected to,
again after every interruption; the next one has its turn only after this one refused, and none has
it once the token is set (`Trial.Chain`). The last trial decides how the open ends
(`Trial.verdict`), and `Manager.candidates_in_turn` says so of every open that gets that far.
-/
namespace TcpSessions

open Act World

variable {ω α : Type} {h : Host ω} {env : Environment ω} {m : Manager} {w w₁ w₂ u v : World ω}
variable {socket : Socket} {r : OpenRequest} {port : Int} {family : Family}
variable {candidates : List Address.Bytes} {ref : SessionRef}

/-- An endpoint at an address of a family and a port, without flow information and scope. -/
structure Peer.At (family : Family) (port : Int) (bytes : Address.Bytes) (p : Peer) : Prop where
  family : p.address.family = family
  bytes : p.address.bytes = bytes
  port : (p.port.toNat : Int) = port
  flowinfo : p.flowinfo = 0
  scopeId : p.scopeId = 0

theorem Peer.at_of_ofFields {bytes : Address.Bytes} {p : Peer}
    (hp : Peer.ofFields { family := .known family, address := bytes, port } = .ok p) :
    p.At family port bytes := by
  obtain ⟨hfamily, hbytes, hport, hflow, hscope⟩ := Peer.eq_of_ofFields rfl hp
  exact ⟨hfamily, hbytes, hport, hflow, hscope⟩

/-! ## Trials -/

/-- What came of a candidate. -/
inductive Trial
  /-- The token was set when its turn came. -/
  | barred (peer : Peer)
  /-- It was connected to, again after some interruptions, until a connect was left with a reply;
  the token was set by then or not. -/
  | dialled (peer : Peer) (interruptions : List Failure) (reply : Except Failure Unit)
    (isSet : Bool)

namespace Trial

/-- Whom the candidate stands for. -/
def peer : Trial → Peer
  | barred peer => peer
  | dialled peer .. => peer

/-- The connects of a socket that were made. -/
def connects (socket : Socket) : Trial → List Connect
  | barred _ => []
  | dialled peer interruptions reply isSet =>
    dials socket peer.socketAddress interruptions reply isSet

/-- The last connect returned. -/
inductive Connected : Trial → Prop
  | intro (peer : Peer) (interruptions : List Failure) (isSet : Bool) :
    Connected (.dialled peer interruptions (.ok ()) isSet)

/-- The last connect failed and was not interrupted. -/
inductive Refused : Trial → Prop
  | intro (peer : Peer) (interruptions : List Failure) (f : Failure) (isSet : Bool)
    (hf : f.isInterrupted = false) : Refused (.dialled peer interruptions (.error f) isSet)

/-- The token was set when the turn came, or at an interruption of a connect. -/
inductive Cancelled : Trial → Prop
  | barred (peer : Peer) : Cancelled (.barred peer)
  | interrupted (peer : Peer) (interruptions : List Failure) (f : Failure)
    (hf : f.isInterrupted = true) : Cancelled (.dialled peer interruptions (.error f) true)

/-- Trials one after another, when the token is set or not before the first. Only a candidate that
refused is followed by another, and interruptions before the last connect of a candidate came while
the token was not set. -/
inductive Chain : Bool → List Trial → Prop
  | nil {set : Bool} : Chain set []
  | barred (peer : Peer) : Chain true [.barred peer]
  | connected (peer : Peer) (interruptions : List Failure) (set : Bool)
    (hi : ∀ f ∈ interruptions, f.isInterrupted = true) :
    Chain false [.dialled peer interruptions (.ok ()) set]
  | interrupted (peer : Peer) (interruptions : List Failure) (f : Failure)
    (hi : ∀ f ∈ interruptions, f.isInterrupted = true) (hf : f.isInterrupted = true) :
    Chain false [.dialled peer interruptions (.error f) true]
  | refused (peer : Peer) (interruptions : List Failure) (f : Failure) (set : Bool)
    (rest : List Trial) (hi : ∀ f ∈ interruptions, f.isInterrupted = true)
    (hf : f.isInterrupted = false) (hrest : Chain set rest) :
    Chain false (.dialled peer interruptions (.error f) set :: rest)

/-- How an open ends whose session has an id, when `last` is its last trial. -/
def verdict (id : Int) (last : Option Trial) : Outcome Answer :=
  match last with
  | none => .failed ⟨.connection id none false, none, none⟩
  | some (.barred _) => .failed ⟨.connection id (some Errno.interrupted) true, none, none⟩
  | some (.dialled _ _ (.ok ()) _) => .returned (.session id)
  | some (.dialled _ _ (.error f) _) =>
    .failed ⟨.connection id (some f.errnoOr) f.isInterrupted, some f, none⟩

variable {t : Trial} {trials : List Trial} {set : Bool} {id : Int}

/-- Of the trials of a chain only the last one may be no refusal. -/
theorem Chain.split (hc : Chain set trials) : (∀ t ∈ trials, t.Refused) ∨
    ∃ refused t, trials = refused ++ [t] ∧ (t.Connected ∨ t.Cancelled) ∧
      ∀ s ∈ refused, s.Refused := by
  induction hc with
  | nil => exact .inl (by simp)
  | barred peer => exact .inr ⟨[], _, rfl, .inr (.barred peer), by simp⟩
  | connected peer is set hi => exact .inr ⟨[], _, rfl, .inl (.intro peer is set), by simp⟩
  | interrupted peer is f hi hf =>
    exact .inr ⟨[], _, rfl, .inr (.interrupted peer is f hf), by simp⟩
  | refused peer is f set rest hi hf hrest ih =>
    have hrefused : Refused (.dialled peer is (.error f) set) := .intro peer is f set hf
    rcases ih with hall | ⟨refused, t, rfl, ht, hall⟩
    · exact .inl (List.forall_mem_cons.2 ⟨hrefused, hall⟩)
    · exact .inr ⟨_ :: refused, t, rfl, ht, List.forall_mem_cons.2 ⟨hrefused, hall⟩⟩

theorem Connected.verdict_eq (ht : t.Connected) (id : Int) :
    verdict id (some t) = .returned (.session id) := by
  cases ht
  rfl

theorem Cancelled.verdict_eq (ht : t.Cancelled) (id : Int) :
    ∃ e cause, verdict id (some t) = .failed ⟨.connection id e true, cause, none⟩ := by
  cases ht with
  | barred peer => exact ⟨_, _, rfl⟩
  | interrupted peer is f hf => exact ⟨some f.errnoOr, some f, by rw [verdict, hf]⟩

theorem Cancelled.not_refused (ht : t.Cancelled) : ¬ t.Refused := by
  cases ht with
  | barred peer => nofun
  | interrupted peer is f hf =>
    intro hr
    cases hr with
    | intro _ _ _ _ hno =>
      rw [hf] at hno
      cases hno

theorem verdict_of_refused (hall : ∀ t ∈ trials, t.Refused) (id : Int) :
    ∃ e cause, verdict id trials.getLast? = .failed ⟨.connection id e false, cause, none⟩ := by
  cases hlast : trials.getLast? with
  | none => exact ⟨_, _, rfl⟩
  | some t =>
    obtain ⟨peer, is, f, set, hf⟩ := hall t (List.mem_of_getLast? hlast)
    exact ⟨some f.errnoOr, some f, by rw [verdict, hf]⟩

end Trial

/-! ## From a course to trials -/

/-- What a connect failed with. -/
def Connect.failure? (c : Connect) : Option Failure :=
  match c.reply with
  | .ok _ => none
  | .error f => some f

/-- Whether a connect was interrupted. -/
def Connect.isInterrupted (c : Connect) : Bool := c.failure?.any (·.isInterrupted)

/-- How often connects to an address were interrupted. -/
def interruptionsAt (address : SocketAddress) (connects : List Connect) : Nat :=
  connects.countP fun c => c.address = address && c.isInterrupted

theorem interruptionsAt_interrupted {address : SocketAddress} {interruptions : List Failure}
    (hi : ∀ f ∈ interruptions, f.isInterrupted = true) :
    interruptionsAt address (interrupted socket address interruptions) = interruptions.length := by
  have hall : ∀ c ∈ interrupted socket address interruptions,
      (decide (c.address = address) && c.isInterrupted) = true := by
    intro c hc
    obtain ⟨f, hf, rfl⟩ := List.mem_map.1 hc
    simp [Connect.isInterrupted, Connect.failure?, hi f hf]
  rw [interruptionsAt, List.countP_eq_length.2 hall, interrupted, List.length_map]

/-- Trials that account for the connects of a socket to some endpoints, in their order. -/
structure Accounts (socket : Socket) (set : Bool) (peers : List Peer) (connects : List Connect)
    (trials : List Trial) : Prop where
  order : trials.map Trial.peer <+: peers
  connects : connects = trials.flatMap (Trial.connects socket)
  chain : Trial.Chain set trials
  /-- The open goes on until it is connected or cancelled. -/
  complete : (∀ t ∈ trials, t.Refused) → trials.map Trial.peer = peers

/-- The trials also say how the open ends; `latest` is the trial before them. -/
structure Decides (id : Int) (latest : Option Trial) (socket : Socket) (set : Bool)
    (peers : List Peer) (connects : List Connect) (outcome : Outcome Peer) (trials : List Trial) :
    Prop extends Accounts socket set peers connects trials where
  verdict : outcome.map (fun _ => Answer.session id) =
    Trial.verdict id (trials.getLast?.or latest)
  connected : ∀ peer, outcome = .returned peer → trials.getLast?.map Trial.peer = some peer

variable {id : Int} {latest : Option Trial} {set : Bool} {peer : Peer} {peers : List Peer}
variable {connects : List Connect} {outcome : Outcome Peer} {interruptions : List Failure}
variable {f : Failure}

/-- A trial that is no refusal comes to its verdict. -/
theorem Decides.single {t : Trial} (hpeer : t.peer = peer) (hc : Trial.Chain set [t])
    (ht : ¬ t.Refused)
    (hverdict : outcome.map (fun _ => Answer.session id) = Trial.verdict id (some t))
    (hconnected : ∀ p, outcome = .returned p → p = peer) :
    Decides id latest socket set (peer :: peers) (t.connects socket) outcome [t] where
  order := by simp [hpeer]
  connects := by simp
  chain := hc
  complete := fun hall => absurd (hall t (List.mem_singleton_self t)) ht
  verdict := hverdict
  connected := by
    intro p hp
    rw [hconnected p hp, ← hpeer]
    rfl

/-- After a refusal the other trials decide. -/
theorem Decides.cons {trials : List Trial}
    (hd : Decides id (some (.dialled peer interruptions (.error f) set)) socket set peers connects
      outcome trials)
    (hi : ∀ f ∈ interruptions, f.isInterrupted = true) (hf : f.isInterrupted = false) :
    Decides id latest socket false (peer :: peers)
      (dials socket peer.socketAddress interruptions (.error f) set ++ connects) outcome
      (.dialled peer interruptions (.error f) set :: trials) where
  order := (List.prefix_cons_inj peer).2 hd.order
  connects := by rw [hd.connects]; rfl
  chain := .refused peer interruptions f set trials hi hf hd.chain
  complete := by
    intro hall
    rw [List.map_cons, hd.complete fun t ht => hall t (List.mem_cons_of_mem _ ht)]
    rfl
  verdict := by
    rw [hd.verdict, List.getLast?_cons]
    cases trials.getLast? <;> rfl
  connected := by
    intro p hp
    have hlast := hd.connected p hp
    rw [List.getLast?_cons]
    cases hl : trials.getLast? with
    | none => simp [hl] at hlast
    | some t => simpa [hl] using hlast

/-- The latest refusal is a plain one, by the latest trial if there was one. -/
inductive Trial.Latest : Option Trial → Option Failure → Prop
  | none : Latest none none
  | refused (peer : Peer) (interruptions : List Failure) (f : Failure) (set : Bool) (hf : f.Plain)
    (hi : f.isInterrupted = false) :
    Latest (some (.dialled peer interruptions (.error f) set)) (some f)

/-- When all candidates have refused, the latest refusal is reported. -/
theorem Trial.Latest.decides {last : Option Failure} (hl : Trial.Latest latest last) :
    Decides id latest socket set [] [] (.failed (.backed (.connection id · false)
      (last.map (·.errnoOr)) last)) [] where
  order := List.nil_prefix
  connects := rfl
  chain := .nil
  complete := fun _ => rfl
  verdict := by
    cases hl with
    | none => rfl
    | refused peer is f set hf hi =>
      rw [Option.map_some, hf.backed_eq]
      show Outcome.failed _ = Trial.verdict id (some (.dialled peer is (.error f) set))
      rw [Trial.verdict, hi]
  connected := nofun

/-- The last of some connects to an address. -/
theorem last_mem_dials (socket : Socket) (address : SocketAddress) (interruptions : List Failure)
    (reply : Except Failure Unit) (set : Bool) :
    ⟨socket, address, reply, set⟩ ∈ dials socket address interruptions reply set :=
  List.mem_append_right _ (List.mem_singleton_self _)

namespace Manager

/-- A course whose connects fail plainly, and not by being interrupted without end, is made of
trials, and the last of them decides how it ends. -/
theorem Attempt.Course.exists_trials {a : Attempt} {patience : Nat} {last : Option Failure}
    (hc : a.Course id socket patience set last candidates connects outcome)
    (hd : socket.descriptor ≠ -1)
    (hpeers : List.Forall₂ (fun bytes peer => a.endpoint bytes = .ok peer) candidates peers)
    (hplain : ∀ c ∈ connects, ∀ f ∈ c.failure?, f.Plain)
    (hpatience : ∀ address, interruptionsAt address connects < patience)
    (hlatest : Trial.Latest latest last) :
    ∃ trials, Decides id latest socket set peers connects outcome trials := by
  induction hc generalizing peers latest with
  | exhausted =>
    cases hpeers
    exact ⟨[], hlatest.decides⟩
  | malformed e he =>
    rcases hpeers with - | ⟨hpeer, -⟩
    rw [he] at hpeer
    cases hpeer
  | barred peer hpeer =>
    rcases hpeers with - | ⟨hpeer', -⟩
    obtain rfl := Except.ok.inj (hpeer.symm.trans hpeer')
    exact ⟨_, .single rfl (.barred peer) nofun rfl nofun⟩
  | connected peer is set hpeer hi hd =>
    rcases hpeers with - | ⟨hpeer', -⟩
    obtain rfl := Except.ok.inj (hpeer.symm.trans hpeer')
    exact ⟨_, .single rfl (.connected peer is set hi) nofun rfl
      fun p hp => (Outcome.returned.inj hp).symm⟩
  | noHandle peer is set hpeer hnone => exact absurd hnone hd
  | interrupted peer is f hpeer hi hf =>
    rcases hpeers with - | ⟨hpeer', -⟩
    obtain rfl := Except.ok.inj (hpeer.symm.trans hpeer')
    have hplain' : f.Plain := hplain _ (last_mem_dials ..) f rfl
    refine ⟨_, .single rfl (.interrupted peer is f hi hf)
      (Trial.Cancelled.interrupted peer is f hf).not_refused ?_ nofun⟩
    rw [hplain'.backed_eq, Trial.verdict, hf]
    rfl
  | refused peer is f set hpeer hi hf hs hrest ih =>
    rcases hpeers with - | ⟨hpeer', hpeers⟩
    obtain rfl := Except.ok.inj (hpeer.symm.trans hpeer')
    have hplain' : f.Plain := hplain _ (List.mem_append_left _ (last_mem_dials ..)) f rfl
    obtain ⟨trials, hdecides⟩ := ih hpeers (fun c hc => hplain c (List.mem_append_right _ hc))
      (fun address => Nat.lt_of_le_of_lt (by simp [interruptionsAt]) (hpatience address))
      (.refused peer is f set hplain' hf)
    exact ⟨_, hdecides.cons hi hf⟩
  | fault peer is f set hpeer hs =>
    have hplain' : f.Plain := hplain _ (last_mem_dials ..) f rfl
    rw [hplain'.system] at hs
    cases hs
  | worn peer is hpeer hl hi =>
    have hlt := hpatience peer.socketAddress
    rw [interruptionsAt_interrupted hi, hl] at hlt
    exact absurd hlt (Nat.lt_irrefl _)

end Manager

/-! ## How an open ends -/

/-- What an open does about its candidates, when its token is set, or not, before the first of
them: the connects it makes, how it ends, and what becomes of its session. -/
structure TriesInTurn (x : Session) (socket : Socket) (set : Bool) (peers : List Peer)
    (connects : List Connect) (outcome : Outcome Answer) (trials : List Trial) : Prop
    extends Accounts socket set peers connects trials where
  verdict : outcome = Trial.verdict x.id trials.getLast?
  returned_iff : (∃ a, outcome = .returned a) ↔
    ∃ refused t, trials = refused ++ [t] ∧ t.Connected ∧ ∀ s ∈ refused, s.Refused
  cancelled_iff : (∃ f e, outcome = .failed f ∧ f.reason = .connection x.id e true) ↔
    ∃ refused t, trials = refused ++ [t] ∧ t.Cancelled ∧ ∀ s ∈ refused, s.Refused
  exhausted_iff : (∃ f e, outcome = .failed f ∧ f.reason = .connection x.id e false) ↔
    trials.map Trial.peer = peers ∧ ∀ t ∈ trials, t.Refused
  session : ∀ a, outcome = .returned a →
    x.state = .connected ∧ x.peer = trials.getLast?.map Trial.peer

/-- An open is connected, cancelled or refused by all, as its trials are. -/
theorem Accounts.ends {trials : List Trial} (ha : Accounts socket set peers connects trials)
    (id : Int) :
    (∃ refused t, trials = refused ++ [t] ∧ t.Connected ∧ (∀ s ∈ refused, s.Refused) ∧
      Trial.verdict id trials.getLast? = .returned (.session id)) ∨
    (∃ refused t, trials = refused ++ [t] ∧ t.Cancelled ∧ (∀ s ∈ refused, s.Refused) ∧
      ∃ e cause, Trial.verdict id trials.getLast? =
        .failed ⟨.connection id e true, cause, none⟩) ∨
    (trials.map Trial.peer = peers ∧ (∀ t ∈ trials, t.Refused) ∧
      ∃ e cause, Trial.verdict id trials.getLast? =
        .failed ⟨.connection id e false, cause, none⟩) := by
  rcases ha.chain.split with hall | ⟨refused, t, rfl, ht | ht, hall⟩
  · exact .inr (.inr ⟨ha.complete hall, hall, Trial.verdict_of_refused hall _⟩)
  · refine .inl ⟨refused, t, rfl, ht, hall, ?_⟩
    rw [List.getLast?_concat, ht.verdict_eq]
  · refine .inr (.inl ⟨refused, t, rfl, ht, hall, ?_⟩)
    rw [List.getLast?_concat]
    exact ht.verdict_eq _

theorem Accounts.inTurn {x : Session} {trials : List Trial}
    (ha : Accounts socket set peers connects trials)
    (hx : ∀ a, Trial.verdict x.id trials.getLast? = .returned a →
      x.state = .connected ∧ x.peer = trials.getLast?.map Trial.peer) :
    TriesInTurn x socket set peers connects (Trial.verdict x.id trials.getLast?) trials where
  toAccounts := ha
  verdict := rfl
  returned_iff := by
    constructor
    · rintro ⟨a, hv⟩
      rcases ha.ends x.id with ⟨refused, t, ht, hc, hall, -⟩ | ⟨-, -, -, -, -, e, cause, he⟩ |
        ⟨-, -, e, cause, he⟩
      · exact ⟨refused, t, ht, hc, hall⟩
      · rw [he] at hv
        cases hv
      · rw [he] at hv
        cases hv
    · rintro ⟨refused, t, rfl, ht, -⟩
      rw [List.getLast?_concat]
      exact ⟨_, ht.verdict_eq _⟩
  cancelled_iff := by
    constructor
    · rintro ⟨f, e, hv, hf⟩
      rcases ha.ends x.id with ⟨-, -, -, -, -, he⟩ | ⟨refused, t, ht, hc, hall, -⟩ |
        ⟨-, -, e', cause, he⟩
      · rw [he] at hv
        cases hv
      · exact ⟨refused, t, ht, hc, hall⟩
      · rw [he] at hv
        obtain rfl := Outcome.failed.inj hv
        cases hf
    · rintro ⟨refused, t, rfl, ht, -⟩
      obtain ⟨e, cause, he⟩ := ht.verdict_eq x.id
      rw [List.getLast?_concat]
      exact ⟨_, e, he, rfl⟩
  exhausted_iff := by
    constructor
    · rintro ⟨f, e, hv, hf⟩
      rcases ha.ends x.id with ⟨-, -, -, -, -, he⟩ | ⟨-, -, -, -, -, e', cause, he⟩ |
        ⟨hpeers, hall, -⟩
      · rw [he] at hv
        cases hv
      · rw [he] at hv
        obtain rfl := Outcome.failed.inj hv
        cases hf
      · exact ⟨hpeers, hall⟩
    · rintro ⟨-, hall⟩
      obtain ⟨e, cause, he⟩ := Trial.verdict_of_refused hall x.id
      exact ⟨_, e, he, rfl⟩
  session := hx

/-- The connects that an open has made since an earlier world, when it obeys a token. -/
def World.connectsSince (token : Option TokenId) (u w : World ω) : List Connect :=
  (u.exchangesSince w).filterMap (Exchange.connect? token)

/-- What requests for inline data failed with since an earlier world. -/
def World.optionFailures (u w : World ω) : List Failure :=
  (u.exchangesSince w).filterMap Exchange.optionFailure?

namespace Manager

/-- An open finds candidates of the length that its family has, and gets a socket with a handle;
`w₂` is the world in which it has it. -/
structure Equipped (m : Manager) (h : Host ω) (r : OpenRequest) (w : World ω) (port : Int)
    (family : Family) (candidates : List Address.Bytes) (ref : SessionRef) (w₂ : World ω) :
    Prop where
  portInRange : checkPort (r.port.getD m.defaultPort) = .ok port
  familyKnown : m.checkFamily r.family = .ok family
  resolved : (m.candidatesOf h r.token r.host family w).1 = .returned candidates
  registered : register h r.token family r.flags
    (m.candidatesOf h r.token r.host family w).2 = (.returned ref, w₂)
  handle : ∃ x, w₂.now.registry.get? ref = some x ∧ x.isOpen = true
  lengths : ∀ bytes ∈ candidates, family.addressLength? = some bytes.length

/-- Finding candidates and registering makes no call on a socket. -/
theorem Equipped.told {pick : Exchange → Option α}
    (he : m.Equipped h r w port family candidates ref w₂) (hh : h.Quiet) (hp : h.Prompt)
    (hpick : ∀ e : Exchange, e.call.socket? = none → pick e = none) : w.Told pick [] w₂ := by
  have hpreserves : h.Preserves (fun c => c.socket? = none) (w.Told pick []) (w.Told pick []) :=
    hh.preserves_told hp hpick w []
  have hlookup : Ends _ (m.candidatesOf h r.token r.host family) w _ _ :=
    Host.Preserves.candidatesOf_ends (hpreserves.keeps_resolve rfl rfl w (.refl _ w))
  exact ((hpreserves.keeps_register rfl r.token r.flags _ hlookup.always).of_eq_returned
    he.registered).2

/-- An open that is equipped tries its candidates next, if at most the system refuses its request
for inline data. -/
theorem Equipped.openSession_eq (he : m.Equipped h r w port family candidates ref w₂) (hh : h.Quiet)
    (hp : h.Prompt)
    (hoption : ∀ f ∈ (m.openSession h r w).2.optionFailures w, f.isSystem = true) :
    ∃ w₃, m.enableInline h r.token ref w₂ = (.returned (), w₃) ∧ m.openSession h r w =
      tryCandidates h ⟨ref, r.host, port, family, r.token, candidates.length⟩ none candidates
        w₃ := by
  rw [openSession_of_candidates he.portInRange he.familyKnown (Prod.ext he.resolved rfl),
    bind_eq he.registered] at hoption ⊢
  rcases hrun : m.enableInline h r.token ref w₂ with ⟨o, w₃⟩
  cases o with
  | returned a => exact ⟨w₃, rfl, bind_eq hrun _⟩
  | stalled => exact absurd (by rw [hrun]) (enableInline_settles m hp ref w₂)
  | failed f =>
    obtain ⟨-, rfl, d, x, -, ho⟩ := (register_quiet hh family r.flags).of_eq_returned he.registered
    obtain ⟨-, hsys, htold⟩ := (enableInline_told m hh ho).of_eq_failed hrun
    have hbefore : w.Told Exchange.optionFailure? [] w₂ :=
      he.told hh hp fun _ => Exchange.optionFailure?_eq_none
    rw [bind_failed hrun, World.optionFailures, (hbefore.trans htold).since_eq] at hoption
    rw [hoption f (List.mem_singleton_self f)] at hsys
    cases hsys

/-- A request for inline data is no connect. -/
theorem enableInline_connects (m : Manager) (hh : h.Quiet) (hp : h.Prompt)
    (token token' : Option TokenId) (ref : SessionRef) (w : World ω) :
    w.Told (Exchange.connect? token') [] (m.enableInline h token ref w).2 := by
  have hnone : ∀ e : Exchange, (∃ socket, e.call = .setInline socket) →
      e.connect? token' = none := by
    rintro ⟨c, reply, now⟩ ⟨socket, rfl⟩
    rfl
  have hpreserves : h.Preserves (fun c => ∃ socket, c = .setInline socket)
      (w.Told (Exchange.connect? token') []) (w.Told (Exchange.connect? token') []) :=
    hh.preserves_told hp hnone w []
  exact (hpreserves.keeps_enableInline (fun _ => ⟨_, rfl⟩) token ref w (.refl _ w)).always

/-- Candidates of the length that their family has make endpoints. -/
theorem exists_endpoints (hport : 0 < port ∧ port ≤ 0xffff) : ∀ {candidates : List Address.Bytes},
    (∀ bytes ∈ candidates, family.addressLength? = some bytes.length) →
    ∃ peers, List.Forall₂ (fun bytes peer => Peer.ofFields
      { family := .known family, address := bytes, port } = .ok peer) candidates peers
  | [], _ => ⟨[], .nil⟩
  | bytes :: rest, hlengths => by
    obtain ⟨hlength, hrest⟩ := List.forall_mem_cons.1 hlengths
    obtain ⟨peer, hpeer⟩ := Peer.ofFields_ok hlength hport
    obtain ⟨peers, hpeers⟩ := exists_endpoints hport hrest
    exact ⟨peer :: peers, .cons hpeer hpeers⟩

/-- Serving an open leaves the world that the open leaves. -/
theorem serve_openSession_world (hh : h.Quiet) (r : OpenRequest) (w : World ω) :
    ((Operation.openSession r).serve h m w).2 = (m.openSession h r w).2 := by
  rcases serve_openSession (m := m) (w := w) hh r with ⟨_, _, _, hopen, hserve⟩ |
    ⟨_, _, hopen, hserve⟩ | ⟨_, hopen, hserve⟩ <;> rw [hopen, hserve]

/-- What serving an equipped open does: it follows a course over its candidates. -/
theorem Equipped.serve_course (he : m.Equipped h r w port family candidates ref w₂) (hh : h.Quiet)
    (hp : h.Prompt)
    (hoption : ∀ f ∈ ((Operation.openSession r).serve h m w).2.optionFailures w,
      f.isSystem = true) :
    ∃ socket x outcome v, socket.descriptor ≠ -1 ∧
      (w₂.now.registry.get? ref).bind (·.socket) = some socket ∧
      (Operation.openSession r).serve h m w = (outcome.map fun _ => .session x.id, v) ∧
      v.now.registry.get? ref = some x ∧
      (∀ peer, outcome = .returned peer → x.state = .connected ∧ x.peer = some peer) ∧
      Attempt.Course ⟨ref, r.host, port, family, r.token, candidates.length⟩ x.id socket h.patience
        ((m.enableInline h r.token ref w₂).2.now.isSet r.token) none candidates
        (v.connectsSince r.token w) outcome := by
  rw [serve_openSession_world hh] at hoption
  obtain ⟨w₃, hinline, hopen⟩ := he.openSession_eq hh hp hoption
  have hprepared : w.Told (Exchange.connect? r.token) [] w₃ := by
    have hasked := enableInline_connects m hh hp r.token r.token ref w₂
    rw [hinline] at hasked
    exact (he.told hh hp fun _ => Exchange.connect?_eq_none).trans hasked
  obtain ⟨-, href, d, x₂, -, ho⟩ := (register_quiet hh family r.flags).of_eq_returned he.registered
  generalize (m.candidatesOf h r.token r.host family w).2 = w₁ at href ho
  subst href
  obtain ⟨-, calls, ho₃, -⟩ := (enableInline_quiet m hh ho).of_eq_returned hinline
  obtain ⟨y, hy, hset⟩ := he.handle
  obtain rfl := Option.some.inj (ho.get?.symm.trans hy)
  have hfollows := tryCandidates_course
    (a := ⟨w₁.newcomer, r.host, port, family, r.token, candidates.length⟩) hh hp rfl candidates none
    x₂ calls w₃ ho₃
  rw [← hopen] at hfollows
  rcases hrun : m.openSession h r w with ⟨o, v⟩
  rw [hrun] at hfollows
  obtain ⟨connects, outcome, x, calls', _, hcourse, htold, ho', hx⟩ := hfollows
  have hconnects : v.connectsSince r.token w = connects := (hprepared.trans htold).since_eq
  refine ⟨_, x, outcome, v, ho.descriptor_ne hset, by simp [hy, ho.socket_eq], ?_, ho'.get?, hx, ?_⟩
  · rw [serve_openSession_eq x.id hrun, Outcome.map_map]
    rintro ref href
    obtain ⟨-, -, rfl⟩ := Outcome.map_eq_returned.1 href
    exact ⟨x, ho'.get?, rfl⟩
  · rw [hconnects, hinline, ho'.id]
    exact hcourse

/-- Every open that gets candidates of the proper length and a socket with a handle tries the
candidates in turn, if at most tokens are used while its calls run. The conditions are on what its
own calls are answered with: requests for inline data fail only by the system, connects fail
plainly, and those to one address are not interrupted more often than there is patience for. -/
theorem candidates_in_turn (m : Manager) (bound : Nat) (henv : env.Quiet) (r : OpenRequest)
    (he : m.Equipped ⟨env, perform env m (bound + 1), bound + 2⟩ r w port family candidates ref
      w₂) :
    let h : Host ω := ⟨env, perform env m (bound + 1), bound + 2⟩
    let result := perform env m (bound + 2) (.operation (.openSession r)) w
    (∀ f ∈ result.2.optionFailures w, f.isSystem = true) →
    (∀ c ∈ result.2.connectsSince r.token w, ∀ f ∈ c.failure?, f.Plain) →
    (∀ address, interruptionsAt address (result.2.connectsSince r.token w) < bound + 2) →
    ∃ socket x peers trials,
      (w₂.now.registry.get? ref).bind (·.socket) = some socket ∧
      result.2.now.registry.get? ref = some x ∧
      List.Forall₂ (Peer.At family port) candidates peers ∧
      TriesInTurn x socket ((m.enableInline h r.token ref w₂).2.now.isSet r.token) peers
        (result.2.connectsSince r.token w) result.1 trials := by
  intro h result hoption hplain hpatience
  obtain ⟨socket, x, outcome, v, hd, hsocket, hserve, hget, hx, hcourse⟩ :=
    he.serve_course (henv.host m _ _) (henv.prompt m _ _) hoption
  have hresult : result = (outcome.map fun _ => .session x.id, v) := hserve
  rw [hresult] at hplain hpatience ⊢
  obtain ⟨peers, hpeers⟩ := exists_endpoints (checkPort_eq_ok he.portInRange) he.lengths
  obtain ⟨trials, htrials⟩ := hcourse.exists_trials hd hpeers hplain hpatience .none
  have hverdict : outcome.map (fun _ => Answer.session x.id) =
      Trial.verdict x.id trials.getLast? := by
    rw [htrials.verdict, Option.or_none]
  refine ⟨socket, x, peers, trials, hsocket, hget, hpeers.imp fun _ _ => Peer.at_of_ofFields, ?_⟩
  rw [hverdict]
  refine htrials.toAccounts.inTurn fun a ha => ?_
  obtain ⟨peer, ho, -⟩ := Outcome.map_eq_returned.1 (hverdict.trans ha)
  rw [htrials.connected peer ho]
  exact hx peer ho

end Manager

/-- Three candidates: the first is interrupted and then refuses, the second is interrupted and then
connected, and the third would refuse. -/
def Script.wavering : Script where
  hosts := [("gate", { addresses := [[192, 0, 2, 1], [192, 0, 2, 2], [192, 0, 2, 3]] })]
  coming := [{ connect := some [
    ("192.0.2.1", [{ failure := some .interrupt },
      { failure := some (.of (.system .refused (.coded 111 "refused"))) }]),
    ("192.0.2.2", [{ failure := some .interrupt }]),
    ("192.0.2.3", [{ failure := some (.of (.system .refused (.coded 111 "refused"))) }])] }]

theorem Manager.candidates_in_turn_wavering :
    let env := Script.environment.nesting Request.OfToken
    let h : Host Script := ⟨env, perform env {} 2, 3⟩
    let r : OpenRequest := { host := "gate", token := some 0 }
    let w : World Script := { outside := Script.wavering }
    let w₂ := (Manager.register h r.token .inet r.flags
      (Manager.candidatesOf {} h r.token r.host .inet w).2).2
    let result := perform env {} 3 (.operation (.openSession r)) w
    (result.2.connectsSince r.token w).map (·.address) =
        [.inet "192.0.2.1" 23, .inet "192.0.2.1" 23, .inet "192.0.2.2" 23, .inet "192.0.2.2" 23] ∧
      result.2.now.registry.sessions.map (·.state) = [.connected] ∧
      ∃ socket x peers trials,
        (w₂.now.registry.get? ⟨0⟩).bind (·.socket) = some socket ∧
        result.2.now.registry.get? ⟨0⟩ = some x ∧
        List.Forall₂ (Peer.At .inet 23) [[192, 0, 2, 1], [192, 0, 2, 2], [192, 0, 2, 3]] peers ∧
        TriesInTurn x socket ((Manager.enableInline {} h r.token ⟨0⟩ w₂).2.now.isSet r.token) peers
          (result.2.connectsSince r.token w) result.1 trials := by
  have henv : (Script.environment.nesting Request.OfToken).Quiet :=
    Script.environment.nesting_nests Request.OfToken
  refine ⟨by decide +kernel, by decide +kernel, ?_⟩
  have hinTurn := Manager.candidates_in_turn (w := { outside := Script.wavering }) {} 1 henv
    { host := "gate", token := some 0 } {
      portInRange := rfl
      familyKnown := rfl
      resolved := by with_unfolding_all rfl
      registered := Prod.ext (by with_unfolding_all rfl) rfl
      handle := ⟨_, by with_unfolding_all rfl, by with_unfolding_all rfl⟩
      lengths := by decide }
  -- the bounds are brought to the form of the statement, so that no run has to be compared
  simp only [Nat.reduceAdd] at hinTurn
  refine hinTurn (by decide +kernel) (by decide +kernel) fun address => ?_
  refine Nat.lt_of_le_of_lt (List.countP_mono_left (q := Connect.isInterrupted) (by simp)) ?_
  decide +kernel

end TcpSessions
