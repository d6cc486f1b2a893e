import TcpSessions.Manager.Service
import TcpSessions.Proofs.Manager.Reopening
import TcpSessions.Proofs.Settings.Fields
import TcpSessions.Proofs.Work.Alike
/-!
# Configured defaults

The settings of a service have a port in range and one of two families. Arguments that an open
leaves out may as well be passed as these defaults: it makes no difference to the open, nor to any
run that such opens are part of, at its top or nested in its calls
(`ServicePlan.defaults_as_if_passed`).
-/
namespace TcpSessions

open Act World

variable {ω : Type} {env env' : Environment ω} {h : Host ω} {m : Manager} {w w₀ : World ω}
variable {token : Option TokenId} {c : Call} {port : Int} {family : Family}

/-! ## What the settings are -/

namespace Settings

theorem defaultPort_in_range {lib : Library} {src : Sources} {s : Settings}
    (h : ofSources lib src = .ok s) : 1 ≤ s.defaultPort ∧ s.defaultPort ≤ 65535 := by
  have hport : readField (readPort lib) telnetPort (lib.raw? src Field.defaultPort.variable) =
      .ok s.defaultPort := ofSources_eq_ok.1 h .defaultPort
  cases hraw : lib.raw? src Field.defaultPort.variable with
  | some raw =>
    rw [hraw] at hport
    exact (readPort_eq_ok.1 hport).2
  | none =>
    rw [hraw] at hport
    rw [← Except.ok.inj hport]
    decide

theorem family_eq (s : Settings) : s.family = .inet ∨ s.family = .inet6 := by
  unfold family
  cases s.addressFamily with
  | inet => exact .inl rfl
  | inet6 => exact .inr rfl

end Settings

theorem ServicePlan.settings_eq_ok {p : ServicePlan} {lib : Settings.Library} {s : Settings}
    {report : Bool} (h : p.settings lib = .ok (s, report)) :
    Settings.ofSources lib ⟨p.given.getD [], p.env, p.envFile⟩ = .ok s := by
  unfold ServicePlan.settings at h
  split at h
  · rename_i s' hs
    obtain ⟨rfl, -⟩ := Prod.mk.inj (Except.ok.inj h)
    exact hs
  · cases h

/-! ## Passing what was left out -/

/-- The second argument is the first one, or the default where that one was left out. -/
inductive Completed {α : Type} (default : α) : Option α → Option α → Prop
  | same (x : Option α) : Completed default x x
  | passed : Completed default none (some default)

/-- The open `r'` is `r` with a port or a family passed that was left out. -/
structure OpenRequest.CompletedBy (port : Int) (family : Family) (r r' : OpenRequest) : Prop where
  host : r'.host = r.host
  flags : r'.flags = r.flags
  token : r'.token = r.token
  port : Completed port r.port r'.port
  family : Completed (family.number : Int) r.family r'.family

/-- The same request, or an open that is completed. -/
inductive Request.CompletedBy (port : Int) (family : Family) : Request → Request → Prop
  | same (q : Request) : CompletedBy port family q q
  | opened {r r' : OpenRequest} (hr : r.CompletedBy port family r') :
    CompletedBy port family (.operation (.openSession r)) (.operation (.openSession r'))

/-- Two environments that differ in the opens nested in their calls: the second one's are
completed. -/
structure Environment.CompletedBy (port : Int) (family : Family) (env env' : Environment ω) :
    Prop where
  state : ∀ c o, (env'.react c o).state = (env.react c o).state
  answer : ∀ c o, (env'.react c o).answer = (env.react c o).answer
  nested : ∀ c o, List.Forall₂ (Request.CompletedBy port family) (env.react c o).nested
    (env'.react c o).nested

theorem Completed.getD_eq {α : Type} {default : α} {x x' : Option α} (h : Completed default x x') :
    x'.getD default = x.getD default := by
  cases h <;> rfl

namespace Manager

theorem checkFamily_completed {n n' : Option Int}
    (h : Completed (m.defaultFamily.number : Int) n n') : m.checkFamily n' = m.checkFamily n := by
  cases h with
  | same => rfl
  | passed => simp [checkFamily, Family.ofNumber?_number]

/-- An open does not tell a default that is passed from one that is left out. -/
theorem openSession_completed {r r' : OpenRequest}
    (hr : r.CompletedBy m.defaultPort m.defaultFamily r') :
    m.openSession h r' = m.openSession h r := by
  simp only [openSession, hr.port.getD_eq, checkFamily_completed hr.family, hr.host, hr.flags,
    hr.token]

end Manager

/-! ## Hosts that make the same calls -/

namespace Host

variable {h' : Host ω}

/-- Two hosts that make calls in the same way. -/
structure Same (h h' : Host ω) : Prop where
  patience : h.patience = h'.patience
  call : ∀ token c, h.call token c = h'.call token c

/-- Calls on completed environments are the same if what is nested in them does the same. -/
theorem same_of_completed (henv : h.environment.CompletedBy port family h'.environment)
    (hp : h.patience = h'.patience)
    (hn : ∀ q q', q.CompletedBy port family q' → h'.nested q' = h.nested q) : h.Same h' where
  patience := hp
  call := by
    intro token c
    refine alike_eq_iff.1 (Host.alike_call ?_ ?_ ?_)
    · rintro w _ rfl
      simp [entering, henv.state]
    · rintro w _ rfl
      refine World.parallel_eq.alike_runNested (fun q q' hq => ?_) (henv.nested c w.outside)
      exact alike_eq_iff.2 (hn q q' hq).symm
    · rintro w _ v _ rfl rfl
      simp [replying, henv.answer]

namespace Same

variable (hs : h.Same h')

include hs

theorem alike : h.Alike h' Eq :=
  ⟨World.parallel_eq, hs.patience, fun token c _ => alike_eq_iff.2 (hs.call token c)⟩

theorem openSession (r : OpenRequest) : m.openSession h r = m.openSession h' r := by
  have hcandidates : ∀ family, m.candidatesOf h r.token r.host family =
      m.candidatesOf h' r.token r.host family :=
    fun family => alike_eq_iff.1 (hs.alike.candidatesOf rfl r.token r.host family)
  have htry : ∀ a candidates, Manager.tryCandidates h a none candidates =
      Manager.tryCandidates h' a none candidates :=
    fun a candidates => alike_eq_iff.1 (hs.alike.tryCandidates a candidates none)
  simp only [Manager.openSession, Manager.register, Manager.enableInline, hs.call, hcandidates,
    htry]

theorem session (ref : SessionRef) (q : SessionRequest) : q.serve h ref = q.serve h' ref := by
  cases q with
  | attachSpare number => simp only [SessionRequest.serve, hs.call]
  | _ => rfl

theorem serve (q : Request) : q.serve h m = q.serve h' m := by
  refine alike_eq_iff.1 ?_
  have ha := hs.alike
  cases q with
  | operation op => exact ha.operation rfl (fun r => alike_eq_iff.2 (hs.openSession r)) op
  | shutdown => exact ha.shutdown.bind fun _ => alike_pure _
  | table t => exact alike_eq_iff.2 rfl
  | session n s =>
    exact (ha.parallel.alike_nth n).bind fun ref => alike_eq_iff.2 (hs.session ref s)
  | token t r => exact ha.parallel.alike_token t r
  | lookup l => exact ha.lookup l

end Same
end Host

theorem Request.serve_completed {q q' : Request}
    (hq : q.CompletedBy m.defaultPort m.defaultFamily q') : q'.serve h m = q.serve h m := by
  cases hq with
  | same => rfl
  | opened hr => simp only [Request.serve, Operation.serve, Manager.openSession_completed hr]

/-- Requests that are completed, in an environment that is, do what they did before. -/
theorem perform_completed (henv : env.CompletedBy m.defaultPort m.defaultFamily env') :
    ∀ (bound : Nat) (q q' : Request), q.CompletedBy m.defaultPort m.defaultFamily q' →
      perform env' m bound q' = perform env m bound q
  | 0, _, _, _ => rfl
  | bound + 1, q, q', hq => by
    -- nested requests are served with a smaller bound
    have hs : Host.Same ⟨env, perform env m bound, bound + 1⟩
        ⟨env', perform env' m bound, bound + 1⟩ :=
      Host.same_of_completed henv rfl (perform_completed henv bound)
    show q'.serve ⟨env', perform env' m bound, bound + 1⟩ m = _
    rw [Request.serve_completed hq, ← hs.serve]
    rfl

/-- So do runs of them. -/
theorem runNested_completed (henv : env.CompletedBy m.defaultPort m.defaultFamily env')
    (bound patience : Nat) {qs qs' : List Request}
    (hqs : List.Forall₂ (Request.CompletedBy m.defaultPort m.defaultFamily) qs qs') :
    (Host.mk env' (perform env' m bound) patience).runNested qs' =
      (Host.mk env (perform env m bound) patience).runNested qs :=
  (alike_eq_iff.1 (World.parallel_eq.alike_runNested
    (fun q q' hq => alike_eq_iff.2 (perform_completed henv bound q q' hq).symm) hqs)).symm

/-! ## The lookup of an open -/

/-- A call is in the history as soon as it is made, after what was there before. -/
theorem Host.Sound.call_noted (hh : h.Sound) (token : Option TokenId) (c : Call) (w : World ω) :
    Ends (fun u => .entered c token w.now :: w.past <:+ u.past) (h.call token c) w
      (fun _ u => .entered c token w.now :: w.past <:+ u.past)
      fun _ u => .entered c token w.now :: w.past <:+ u.past := by
  refine (hh.call_ends token c w).imp ?_ ?_ fun _ _ _ hf => hf.elim
  · rintro u ⟨v, hv, rfl | ⟨reply, rfl⟩⟩
    · exact hv.past_suffix
    · exact hv.past_suffix.trans (List.suffix_cons _ _)
  · rintro reply u - ⟨v, hv, rfl⟩
    exact hv.past_suffix.trans (List.suffix_cons _ _)

/-- What is in the history stays there. -/
theorem Host.Sound.preserves_past (hh : h.Sound) (past : List Event) :
    h.Preserves (fun _ => True) (fun u => past <:+ u.past) fun u => past <:+ u.past where
  always := fun _ hu => hu
  notice := fun _ _ hu => hu.trans (List.suffix_cons _ _)
  sockets := fun _ _ hu => hu
  create := fun _ _ hu => hu
  remove := fun _ _ hu => hu
  change := fun _ _ _ _ hu _ _ => hu
  call := by
    intro token c _ u hu
    have hsuffix : ∀ v : World ω, .entered c token u.now :: u.past <:+ v.past → past <:+ v.past :=
      fun v hv => (hu.trans (List.suffix_cons _ _)).trans hv
    exact (hh.call_noted token c u).imp hsuffix (fun _ v hv _ => hsuffix v hv)
      fun _ v hv _ => hsuffix v hv

namespace Manager

/-- The call by which a manager looks a name up; a literal of the system needs none. -/
def lookupCall? (m : Manager) (host : String) (family : Family) : Option Call :=
  match m.lookup with
  | .external => some (.resolve host family)
  | .system =>
    if (Address.literal? family host).isSome then none else some (.addressInfo host family)

theorem resolve_asks (hh : h.Sound) {host : String} (hc : m.lookupCall? host family = some c) :
    Ends (fun u => .entered c token w.now :: w.past <:+ u.past) (m.resolve h token host family) w
      (fun _ u => .entered c token w.now :: w.past <:+ u.past)
      fun _ u => .entered c token w.now :: w.past <:+ u.past := by
  have hp := hh.preserves_past (.entered c token w.now :: w.past)
  unfold lookupCall? at hc
  unfold resolve
  cases hlookup : m.lookup with
  | external =>
    rw [hlookup] at hc
    obtain rfl := Option.some.inj hc
    exact .bind (hh.call_noted token _ w) fun reply u hu _ => keeps_ofExcept hp.always reply u hu
  | system =>
    rw [hlookup] at hc
    dsimp only at hc
    split at hc
    · cases hc
    rename_i hliteral
    obtain rfl := Option.some.inj hc
    unfold Lookup.resolve
    rw [Option.not_isSome_iff_eq_none.1 hliteral]
    refine .bind (hh.call_noted token _ w) fun reply u hu _ => ?_
    cases reply with
    | error f =>
      dsimp only
      split
      · exact ((hp.keeps_notice _).bind fun _ => keeps_fail hp.always _) u hu
      · exact keeps_fail hp.always f u hu
    | ok infos =>
      refine (keeps_ofExcept hp.always _).bind (fun found => ?_) u hu
      split
      · exact keeps_fail hp.always _
      · exact (hp.keeps_notice _).bind fun _ => keeps_pure hp.always found

/-- The first thing that an open does after its checks is to look the host up. -/
theorem serve_openSession_asks (hh : h.Sound) {r : OpenRequest}
    (hport : checkPort (r.port.getD m.defaultPort) = .ok port)
    (hfamily : m.checkFamily r.family = .ok family) (hc : m.lookupCall? r.host family = some c) :
    .entered c r.token w.now :: w.past <:+ ((Operation.openSession r).serve h m w).2.past := by
  have hp := hh.preserves_past (.entered c r.token w.now :: w.past)
  have hopen := hp.openSession_ends_of_resolve (m := m) (w := w) r (fun _ _ _ _ => trivial)
    (fun _ _ _ _ _ _ _ _ _ _ _ => trivial) (fun f hf => ?_) (fun family' hfamily' => ?_)
  · exact (Ends.bind hopen fun ref u _ hu =>
      ((keeps_session hp.always ref).bind fun _ => keeps_pure hp.always _) u hu).always
  · rw [hport, hfamily] at hf
    rcases hf with hf | hf <;> cases hf
  · obtain rfl := Except.ok.inj (hfamily.symm.trans hfamily')
    exact resolve_asks hh hc

end Manager

/-! ## Opens that leave everything out -/

/-- The calls that an open of a host makes for a family and a port. -/
def Call.OfOpen (host : String) (family : Family) (port : Int) : Call → Prop
  | .connect _ (.inet _ p) => family = .inet ∧ p = port
  | .connect _ (.inet6 _ p _ _) => family = .inet6 ∧ p = port
  | c => c.Prepares host family

theorem Call.ofOpen_of_prepares {host : String} (h : c.Prepares host family) :
    c.OfOpen host family port := by
  cases c with
  | connect socket address => exact h.elim
  | _ => exact h

theorem Call.ofOpen_connect {bytes : Address.Bytes} {peer : Peer}
    (hpeer : Peer.ofFields { family := .known family, address := bytes, port } = .ok peer)
    (host : String) (socket : Socket) :
    (Call.connect socket peer.socketAddress).OfOpen host family port := by
  obtain ⟨hfamily, -, hport, -⟩ := Peer.eq_of_ofFields rfl hpeer
  unfold Peer.socketAddress
  cases haddress : peer.address with
  | inet =>
    rw [haddress] at hfamily
    exact ⟨hfamily.symm, hport⟩
  | inet6 =>
    rw [haddress] at hfamily
    exact ⟨hfamily.symm, hport⟩

/-- An open is for a port and a family: it looks the host up in the family before it does anything
else, and what it calls is for them. -/
structure Manager.OpensFor (m : Manager) (env : Environment ω) (port : Int) (family : Family)
    (r : OpenRequest) : Prop where
  asks : ∀ c, m.lookupCall? r.host family = some c → ∀ (bound : Nat) (w : World ω),
    .entered c r.token w.now :: w.past <:+
      (perform env m (bound + 1) (.operation (.openSession r)) w).2.past
  calls : ∀ (bound : Nat) (w : World ω),
    w.Making (fun s => s.call.OfOpen r.host family port)
      (perform env m bound (.operation (.openSession r)) w).2

theorem Manager.opensFor_of_checks (henv : env.Nests Request.OfManager) {r : OpenRequest}
    (hport : checkPort (r.port.getD m.defaultPort) = .ok port)
    (hfamily : m.checkFamily r.family = .ok family) : m.OpensFor env port family r where
  asks := fun _ hc bound _ =>
    serve_openSession_asks (henv.sound m bound (bound + 1)) hport hfamily hc
  calls
    | 0, w => (made_refl _ w).making
    | bound + 1, w => by
      refine openSession_making m henv (perform_closed henv m bound (bound + 1)) r ?_ ?_
      · intro family' hfamily' c hc
        obtain rfl := Except.ok.inj (hfamily.symm.trans hfamily')
        exact Call.ofOpen_of_prepares hc
      · intro port' family' _ hport' hfamily' _ _ _ _ hpeer socket
        obtain rfl := Except.ok.inj (hport.symm.trans hport')
        obtain rfl := Except.ok.inj (hfamily.symm.trans hfamily')
        exact Call.ofOpen_connect hpeer r.host socket

/-- The checks of an open that leaves everything out pass for settings that could be made. -/
theorem Settings.checks_of_left_out {lib : Library} {src : Sources} {s : Settings}
    (hs : ofSources lib src = .ok s) (lookup : LookupMode) {r : OpenRequest} (hport : r.port = none)
    (hfamily : r.family = none) :
    Manager.checkPort (r.port.getD (s.manager lookup).defaultPort) = .ok s.defaultPort ∧
      (s.manager lookup).checkFamily r.family = .ok s.family := by
  obtain ⟨hlow, hhigh⟩ := defaultPort_in_range hs
  rw [hport, hfamily]
  exact ⟨if_pos ⟨show 0 < s.defaultPort by omega, hhigh⟩, rfl⟩

/-- What the defaults of some settings do on a manager. -/
structure Settings.ActAsPassed (s : Settings) (m : Manager) (env : Environment ω) : Prop where
  port : 1 ≤ s.defaultPort ∧ s.defaultPort ≤ 65535
  family : s.family = .inet ∨ s.family = .inet6
  /-- To pass them where they were left out changes no run: it ends in the same world, with the same
  history and the same answers in it. -/
  runs : ∀ env', env.CompletedBy s.defaultPort s.family env' → ∀ (bound patience : Nat) qs qs',
    List.Forall₂ (Request.CompletedBy s.defaultPort s.family) qs qs' →
    (Host.mk env' (perform env' m bound) patience).runNested qs' =
      (Host.mk env (perform env m bound) patience).runNested qs
  /-- Nor does it change any single request. -/
  requests : ∀ env', env.CompletedBy s.defaultPort s.family env' → ∀ bound q q',
    Request.CompletedBy s.defaultPort s.family q q' →
    perform env' m bound q' = perform env m bound q
  checks : ∀ r : OpenRequest, r.port = none → r.family = none →
    Manager.checkPort (r.port.getD m.defaultPort) = .ok s.defaultPort ∧
      m.checkFamily r.family = .ok s.family
  opens : env.Nests Request.OfManager → ∀ r : OpenRequest, r.port = none → r.family = none →
    m.OpensFor env s.defaultPort s.family r

/-- Whatever settings a service is built from, and whatever the library makes of them, its defaults
act as if they were passed. -/
theorem ServicePlan.defaults_as_if_passed {p : ServicePlan} {lib : Settings.Library} {s : Settings}
    {report : Bool} (hp : p.settings lib = .ok (s, report)) (lookup : LookupMode)
    (env : Environment ω) :
    s.ActAsPassed (s.manager lookup) env where
  port := Settings.defaultPort_in_range (ServicePlan.settings_eq_ok hp)
  family := s.family_eq
  runs := fun _ henv bound patience _ _ hqs =>
    runNested_completed (m := s.manager lookup) henv bound patience hqs
  requests := fun _ henv bound q q' hq =>
    perform_completed (m := s.manager lookup) henv bound q q' hq
  checks := fun _ hport hfamily =>
    Settings.checks_of_left_out (ServicePlan.settings_eq_ok hp) lookup hport hfamily
  opens := by
    intro henv r hport hfamily
    obtain ⟨hok, hok'⟩ :=
      Settings.checks_of_left_out (ServicePlan.settings_eq_ok hp) lookup hport hfamily
    exact Manager.opensFor_of_checks henv hok hok'

/-- One address for every name. -/
def Environment.lone : Environment Unit := .ofReplies fun
  | .resolve .. => .ok []
  | .reverse _ => .ok none
  | .addressInfo .. => .ok [⟨10, "2001:db8::1"⟩]
  | .hostByAddress _ => .ok none
  | .createSocket _ => .ok 10
  | .spareSocket _ => .ok 11
  | .setInline _ => .error (.of (.system .general .nothing))
  | .connect .. => .ok ()
  | .close _ => .ok ()

/-- While the system looks for the gate, another open is nested. -/
def Environment.relaying (r : OpenRequest) : Environment Unit where
  react c o := { lone.react c o with
    nested := if c = .addressInfo "gate" .inet6 then [.operation (.openSession r)] else [] }

/-- The nested open may be completed. -/
theorem Environment.relaying_completed {r r' : OpenRequest} (hr : r.CompletedBy port family r') :
    (relaying r).CompletedBy port family (relaying r') where
  state := fun _ _ => rfl
  answer := fun _ _ => rfl
  nested := by
    intro c o
    unfold relaying
    dsimp only
    split
    · exact .cons (.opened hr) .nil
    · exact .nil

theorem ServicePlan.defaults_as_if_passed_relaying :
    let p : ServicePlan :=
      { env := [("ztcp_default_port", "2323"), ("ZTCP_ADDRESS_FAMILY", "inet6")] }
    let s : Settings := { defaultPort := 2323, addressFamily := .inet6 }
    let m := s.manager .system
    let env := Environment.relaying { host := "inner" }
    let env' := Environment.relaying { host := "inner", port := some 2323, family := some 10 }
    let w := env.after m 4 [.operation (.openSession { host := "gate" })] ()
    p.settings = .ok (s, true) ∧ w.now.registry.sessions.length = 2 ∧
      (ownStarts 0 w.past.reverse).map (·.call) = [.addressInfo "gate" .inet6, .createSocket .inet6,
        .setInline ⟨1, 10⟩, .connect ⟨1, 10⟩ (.inet6 "2001:db8::1" 2323 0 0)] ∧
      env.CompletedBy s.defaultPort s.family env' ∧ s.ActAsPassed m env := by
  intro p s m env env' w
  have hp : p.settings = .ok (s, true) := by decide +kernel
  refine ⟨hp, by decide +kernel, by decide +kernel, ?_, ?_⟩
  · exact Environment.relaying_completed ⟨rfl, rfl, rfl, .passed, .passed⟩
  · exact ServicePlan.defaults_as_if_passed hp .system env

end TcpSessions
