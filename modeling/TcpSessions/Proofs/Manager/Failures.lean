import TcpSessions.Proofs.Manager.Listing
import TcpSessions.Proofs.Manager.QuietOpening
import TcpSessions.Proofs.Manager.QuietTeardown
/-!
# What operations fail with

When the surroundings fail plainly, an operation fails only with a typed failure that names its
cause (`Manager.MayEscape`). In particular the checks deep inside an open, of its endpoints, of the
lifecycle of its session and of its socket, never fail: the session is as the open left it.
-/
namespace TcpSessions

open Act World

variable {ω : Type} {h : Host ω} {env : Environment ω} {m : Manager} {w u : World ω}
variable {ref : SessionRef} {x : Session}

/-- Calls on sockets are plainly refused if they fail, and a new socket has a descriptor. -/
structure Environment.Plain (env : Environment ω) : Prop where
  create : ∀ {family f}, env.MayAnswer (.createSocket family) (.error f) → f.Plain
  descriptor : ∀ {family d}, env.MayAnswer (.createSocket family) (.ok d) → d ≠ -1
  option : ∀ {socket f}, env.MayAnswer (.setInline socket) (.error f) → f.Plain
  connect : ∀ {socket address f}, env.MayAnswer (.connect socket address) (.error f) → f.Plain
  close : ∀ {socket f}, env.MayAnswer (.close socket) (.error f) → f.Plain

theorem Environment.LastRefusal.plain {socket : Socket} {calls : List SocketCall}
    {f : Failure} (hf : env.LastRefusal socket calls f)
    (hconnect : ∀ {socket address f},
      env.MayAnswer (.connect socket address) (.error f) → f.Plain) : f.Plain := by
  obtain ⟨address, -, hmay⟩ := hf
  exact hconnect hmay

/-- The reason of a failure that work ended with. -/
def Outcome.reason? {α : Type} : Outcome α → Option Reason
  | .failed f => some f.reason
  | _ => none

/-- What work returned. -/
def Outcome.value? {α : Type} : Outcome α → Option α
  | .returned a => some a
  | _ => none

theorem Outcome.eq_returned {α : Type} {o : Outcome α} {a : α} (h : o.value? = some a) :
    o = .returned a := by
  cases o with
  | returned b => rw [Option.some.inj h]
  | _ => cases h

/-- Whether a failure says that a name cannot be resolved. -/
def Failure.isResolution (f : Failure) : Bool :=
  match f.reason with
  | .resolution .. => true
  | _ => false

/-- The resolver finds addresses of the family that a request asks for, or fails by saying that the
name cannot be resolved, or is interrupted. -/
structure Manager.Resolves (m : Manager) (h : Host ω) (r : OpenRequest) (w : World ω) : Prop where
  lengths : ∀ {family found}, m.checkFamily r.family = .ok family →
    (m.resolve h r.token r.host family w).1 = .returned found →
    ∀ bytes ∈ found, family.addressLength? = some bytes.length
  failures : ∀ {family f}, m.checkFamily r.family = .ok family →
    (m.resolve h r.token r.host family w).1 = .failed f →
    f.isResolution = true ∨ f.isInterrupted = true

/-- The session that an operation is directed at. -/
def Operation.target? (r : Registry) : Operation → Option SessionRef
  | close n | remove n => r.nth? n
  | closeByHandle handle _ => r.findByHandle? handle
  | _ => none

/-- What an operation in `w` may fail with, and the world that this leaves. -/
inductive Manager.MayEscape (m : Manager) (h : Host ω) (w : World ω) :
    Operation → Failure → World ω → Prop
  /-- The checks of an open come before anything happens. -/
  | port (r : OpenRequest) (port : Int) (hp : r.port.getD m.defaultPort = port)
    (hrange : ¬ (0 < port ∧ port ≤ 0xffff)) :
    MayEscape m h w (.openSession r) (.of (.portOutOfRange port)) w
  | family (r : OpenRequest) (n : Int) (hn : r.family = some n)
    (hunknown : Family.ofNumber? n = none) :
    MayEscape m h w (.openSession r) (.of (.unknownFamily n)) w
  | resolution (r : OpenRequest) (family : Family) (f : Failure) (u : World ω)
    (hfamily : m.checkFamily r.family = .ok family)
    (hf : (m.resolve h r.token r.host family w).1 = .failed f) (hr : f.isResolution = true) :
    MayEscape m h w (.openSession r) f u
  | resolutionInterrupted (r : OpenRequest) (family : Family) (f : Failure) (u : World ω)
    (hfamily : m.checkFamily r.family = .ok family)
    (hf : (m.resolve h r.token r.host family w).1 = .failed f) (hi : f.isInterrupted = true) :
    MayEscape m h w (.openSession r) ⟨.resolution r.host (some "interrupted"), some f, none⟩ u
  | resolutionCancelled (r : OpenRequest) (u : World ω) :
    MayEscape m h w (.openSession r) ⟨.resolution r.host (some "interrupted"), none, none⟩ u
  | socketCreation (r : OpenRequest) (family : Family) (f : Failure) (u : World ω)
    (hf : h.environment.MayAnswer (.createSocket family) (.error f)) :
    MayEscape m h w (.openSession r) ⟨.socketCreation (some f.errnoOr), some f, none⟩ u
  | connectCancelled (r : OpenRequest) (u : World ω) :
    MayEscape m h w (.openSession r)
      ⟨.connection w.now.registry.table.nextId (some Errno.interrupted) true, none, none⟩ u
  /-- What a connect fails with is the cause if it is the latest call on the socket of the open. -/
  | connectInterrupted (r : OpenRequest) (socket : Socket) (x : Session) (calls : List SocketCall)
    (f : Failure) (u : World ω) (ho : w.Opening r.flags socket x calls u)
    (hf : h.environment.LastRefusal socket calls f) (hi : f.isInterrupted = true) :
    MayEscape m h w (.openSession r)
      ⟨.connection w.now.registry.table.nextId (some f.errnoOr) true, some f, none⟩ u
  | connectRefused (r : OpenRequest) (socket : Socket) (x : Session) (calls : List SocketCall)
    (f : Failure) (u : World ω) (ho : w.Opening r.flags socket x calls u)
    (hf : h.environment.LastRefusal socket calls f) :
    MayEscape m h w (.openSession r)
      ⟨.connection w.now.registry.table.nextId (some f.errnoOr) false, some f, none⟩ u
  | noCandidates (r : OpenRequest) (family : Family) (u : World ω)
    (hf : (m.resolve h r.token r.host family w).1 = .returned []) :
    MayEscape m h w (.openSession r)
      ⟨.connection w.now.registry.table.nextId none false, none, none⟩ u
  | notOpen (n : Int) (ref : SessionRef) (x : Session) (u : World ω)
    (hn : w.now.registry.nth? n = some ref) (hx : w.now.registry.get? ref = some x)
    (hclosed : x.handle = none) : MayEscape m h w (.close n) ⟨.notOpen, none, none⟩ u
  | closing (op : Operation) (ref : SessionRef) (x : Session) (handle : Handle) (socket : Socket)
    (f : Failure) (u : World ω) (ht : op.target? w.now.registry = some ref)
    (hx : w.HasSocket ref x handle socket)
    (hf : h.environment.MayAnswer (.close socket) (.error f)) :
    MayEscape m h w op ⟨.closing handle.number (some f.errnoOr), some f, none⟩ u
  | handleNotFound (handle : Int) (force : Bool) (u : World ω)
    (hf : w.now.registry.findByHandle? handle = none) :
    MayEscape m h w (.closeByHandle handle force) ⟨.handleNotFound handle, none, none⟩ u
  | protectedHandle (handle : Int) (ref : SessionRef) (x : Session) (u : World ω)
    (hf : w.now.registry.findByHandle? handle = some ref)
    (hx : w.now.registry.get? ref = some x) (hp : x.isProtected = true) :
    MayEscape m h w (.closeByHandle handle false) ⟨.protectedHandle handle, none, none⟩ u

/-! ## The checks of an endpoint -/

/-- Bytes as many as the family needs make an endpoint with a port in range. -/
theorem Peer.ofFields_ok {family : Family} {bytes : Address.Bytes} {port : Int}
    (hl : family.addressLength? = some bytes.length) (hp : 0 < port ∧ port ≤ 0xffff) :
    ∃ peer, Peer.ofFields { family := .known family, address := bytes, port } = .ok peer := by
  obtain ⟨address, ha⟩ : ∃ address, Peer.checkAddress (.known family) bytes = .ok address := by
    cases family with
    | inet =>
      have hlen : bytes.length = 4 := (Option.some.inj hl).symm
      exact ⟨.inet bytes hlen, by
        simp [Peer.checkAddress, FamilyCode.family?, Family.addressLength?, Address.ofBytes?, hlen]⟩
    | inet6 =>
      have hlen : bytes.length = 16 := (Option.some.inj hl).symm
      exact ⟨.inet6 bytes hlen, by
        simp [Peer.checkAddress, FamilyCode.family?, Family.addressLength?, Address.ofBytes?, hlen]⟩
    | _ => cases hl
  have hrange : 0 ≤ port ∧ port ≤ 0xffff := by omega
  simp [Peer.ofFields, ha, hrange]

namespace Manager

theorem checkPort_eq_ok {port port' : Int} (hp : checkPort port = .ok port') :
    0 < port' ∧ port' ≤ 0xffff := by
  unfold checkPort at hp
  split at hp
  · rename_i hrange
    exact Except.ok.inj hp ▸ hrange
  · cases hp

/-! ## Opening -/

theorem Attempt.Fails.mayEscape {a : Attempt} {socket : Socket} {calls : List SocketCall}
    {candidates : List Address.Bytes} {r : OpenRequest} {f : Failure} (hplain : h.environment.Plain)
    (hport : 0 < a.port ∧ a.port ≤ 0xffff)
    (hcandidates : (m.resolve h r.token r.host a.family w).1 = .returned candidates)
    (hlength : ∀ bytes ∈ candidates, a.family.addressLength? = some bytes.length)
    (hd : socket.descriptor ≠ -1) (ho : w.Opening r.flags socket x calls u)
    (hf : a.Fails h.environment socket w.now.registry.table.nextId none candidates calls f) :
    m.MayEscape h w (.openSession r) f u := by
  cases hf with
  | candidate bytes e hmem he =>
    obtain ⟨peer, hok⟩ := Peer.ofFields_ok (hlength bytes hmem) hport
    rw [hok] at he
    cases he
  | fault f hf hs => simp [(hf.plain hplain.connect).system] at hs
  | noHandle hnone => simp [Handle.ofInt?, hd] at hnone
  | cancelled => exact .connectCancelled r u
  | interrupted f hf hi =>
    rw [(hf.plain hplain.connect).backed_eq]
    exact .connectInterrupted r socket x calls f u ho hf hi
  | refused f hf hs =>
    rw [(hf.plain hplain.connect).backed_eq]
    exact .connectRefused r socket x calls f u ho hf
  | noCandidates hl hc =>
    subst hc
    exact .noCandidates r a.family u hcandidates

theorem OpenFails.mayEscape {r : OpenRequest} {f : Failure} (hplain : h.environment.Plain)
    (hresolves : m.Resolves h r w) (hf : m.OpenFails h r w f u) :
    m.MayEscape h w (.openSession r) f u := by
  cases hf with
  | check f hf =>
    rcases hf with hf | hf
    · unfold checkPort at hf
      split at hf
      · cases hf
      · rename_i hrange
        obtain rfl := Except.error.inj hf
        exact .port r _ rfl hrange
    · cases hn : r.family with
      | none => simp [checkFamily, hn] at hf
      | some n =>
        cases hk : Family.ofNumber? n with
        | some family => simp [checkFamily, hn, hk] at hf
        | none =>
          obtain rfl : Failure.of (.unknownFamily n) = f := by simpa [checkFamily, hn, hk] using hf
          exact .family r n hn hk
  | unresolved family f u hl hfamily hf =>
    cases hf with
    | refused f hf hi =>
      have hr := (hresolves.failures hfamily hf).resolve_right (by simp [hi])
      exact .resolution r family f u hfamily hf hr
    | interrupted f hf hi => exact .resolutionInterrupted r family f u hfamily hf hi
    | cancelled => exact .resolutionCancelled r u
  | unmade family f u hu hf =>
    rw [if_pos (hplain.create hf).system, (hplain.create hf).backed_eq]
    exact .socketCreation r family f u hf
  | option socket x calls f u ho ht hf hs => simp [(hplain.option hf).system] at hs
  | attempt a candidates d x calls f u hport hfamily hcandidates hd ho ht hf =>
    exact hf.mayEscape hplain (checkPort_eq_ok hport) hcandidates
      (hresolves.lengths hfamily hcandidates) (hplain.descriptor hd) ho

/-! ## Each operation -/

theorem nth_eq {n : Int} (hn : w.now.registry.nth? n = some ref) :
    Act.nth n w = (.returned ref, w) := by
  unfold Act.nth
  rw [bind_eq (m := Act.registry) (w := w) rfl, hn]
  rfl

theorem exists_get?_of_nth? {r : Registry} {n : Int} (hn : r.nth? n = some ref) :
    ∃ x, r.get? ref = some x := by
  unfold Registry.nth? at hn
  split at hn
  · rename_i hrange
    obtain rfl := Option.some.inj hn
    have hlt : (n - 1).toNat < r.sessions.length := by omega
    exact ⟨r.sessions[(n - 1).toNat], List.getElem?_eq_getElem hlt⟩
  · cases hn

/-- Sessions keep their numbers. -/
theorem nth?_of_le {r r' : Registry} {n : Int} (hn : r.nth? n = some ref)
    (hle : r.sessions.length ≤ r'.sessions.length) : r'.nth? n = some ref := by
  unfold Registry.nth? at hn ⊢
  split at hn
  · rename_i hrange
    rw [if_pos ⟨hrange.1, by omega⟩]
    exact hn
  · cases hn

theorem openSession_mayEscape (hplain : h.environment.Plain) (hh : h.Quiet) {r : OpenRequest}
    (hresolves : m.Resolves h r w) :
    Ends (fun _ => True) ((Operation.openSession r).serve h m) w (fun _ _ => True)
      (m.MayEscape h w (.openSession r)) := by
  refine .bind ((m.openSession_quiet hh r).imp (R := fun _ => True) (fun _ _ => trivial)
    (fun _ _ _ hp => hp) (fun _ _ _ hf => hf.mayEscape hplain hresolves)) ?_
  rintro ref u - ⟨rfl, socket, x, calls, ho, -⟩
  exact .of_eq (bind_eq (session_some ho.get?) _) (.pure trivial trivial)

/-- A close of an open session that an operation is directed at. -/
theorem closeSession_mayEscape (op : Operation) (hplain : h.environment.Plain) (hh : h.Quiet)
    (hw : w.now.Valid) (ht : op.target? w.now.registry = some ref)
    (hx : w.now.registry.get? ref = some x) (ho : x.isOpen) :
    Ends (fun _ => True) (closeSession h ref) w (fun _ _ => True) (m.MayEscape h w op) := by
  obtain ⟨handle, socket, hs⟩ := hw.hasSocket hx ho
  refine (closeSession_quiet hh hs).imp (fun _ _ => trivial) (fun _ _ _ _ => trivial) ?_
  rintro f u - ⟨g, hc, rfl⟩
  rw [(hplain.close hc.mayAnswer).closeFailure_eq]
  exact .closing op ref x handle socket g u ht hs hc.mayAnswer

theorem close_mayEscape (hplain : h.environment.Plain) (hh : h.Quiet) (hw : w.now.Valid) {n : Int}
    (hn : w.now.registry.nth? n = some ref) :
    Ends (fun _ => True) ((Operation.close n).serve h m) w (fun _ _ => True)
      (m.MayEscape h w (.close n)) := by
  obtain ⟨x, hx⟩ := exists_get?_of_nth? hn
  refine .of_eq (bind_eq (nth_eq hn) _) ?_
  cases ho : x.isOpen with
  | true =>
    exact .bind (closeSession_mayEscape (.close n) hplain hh hw hn hx ho)
      fun _ _ _ _ => .pure trivial trivial
  | false =>
    have hclosed : x.handle = none := by simpa [Session.isOpen] using ho
    refine .of_failed (bind_failed (closeSession_eq_of_not_open hx (.inl hclosed)) _) trivial ?_
    exact .notOpen n ref x w hn hx hclosed

theorem remove_mayEscape (hplain : h.environment.Plain) (hh : h.Quiet) (hw : w.now.Valid) {n : Int}
    (hn : w.now.registry.nth? n = some ref) :
    Ends (fun _ => True) ((Operation.remove n).serve h m) w (fun _ _ => True)
      (m.MayEscape h w (.remove n)) := by
  obtain ⟨x, hx⟩ := exists_get?_of_nth? hn
  refine .of_eq (bind_eq (nth_eq hn) _) (.bind (Q := fun _ _ => True) ?_
    fun _ _ _ _ => .pure trivial trivial)
  unfold removeSession
  refine .of_eq (bind_eq (session_some hx) _) ?_
  split
  · rename_i ho
    exact .bind (closeSession_mayEscape (.remove n) hplain hh hw hn hx ho)
      fun _ _ _ _ => .of_returned rfl trivial trivial
  · exact .of_returned rfl trivial trivial

theorem closeByHandle_mayEscape (hplain : h.environment.Plain) (hh : h.Quiet) (hw : w.now.Valid)
    (handle : Int) (force : Bool) :
    Ends (fun _ => True) ((Operation.closeByHandle handle force).serve h m) w (fun _ _ => True)
      (m.MayEscape h w (.closeByHandle handle force)) := by
  refine .bind (Q := fun _ _ => True) ?_ fun _ _ _ _ => .pure trivial trivial
  cases hf : w.now.registry.findByHandle? handle with
  | none =>
    exact .of_failed (closeByHandle_eq_of_none hf) trivial (.handleNotFound handle force w hf)
  | some ref =>
    obtain ⟨x, k, socket, hx, hk⟩ := hasSocket_of_findByHandle? hw hf
    cases hp : x.isProtected && !force with
    | true =>
      obtain ⟨hprotected, hforce⟩ : x.isProtected = true ∧ force = false := by simpa using hp
      subst hforce
      exact .of_failed (closeByHandle_eq_of_protected hf hx.session hprotected) trivial
        (.protectedHandle handle ref x w hf hx.session hprotected)
    | false =>
      refine (closeByHandle_quiet hh hw hf hx hp).imp (fun _ _ => trivial)
        (fun _ _ _ _ => trivial) ?_
      rintro f u - ⟨-, g, hg, rfl⟩
      rw [(hplain.close hg).closeFailure_eq]
      exact .closing _ ref x k socket g u hf hx hg

theorem listAll_never_fails (hh : h.Quiet) (hw : w.now.Valid)
    (hreverse : ∀ address u f, (m.reverse h address u).1 ≠ .failed f) :
    Ends (fun _ => True) (Operation.listAll.serve h m) w (fun _ _ => True) (fun _ _ => False) := by
  refine .bind ((listAll_quiet (fun _ => none) m hh hw).imp (R := fun _ => True)
    (fun _ _ => trivial) (fun _ _ _ hp => hp) ?_) fun _ _ _ _ => .pure trivial trivial
  rintro f u - ⟨address, v, hf⟩
  exact hreverse address v f hf

theorem teardownAll_never_fails (hplain : h.environment.Plain) (hh : h.Quiet)
    (hw : w.now.Valid) :
    Ends (fun _ => True) (Operation.teardownAll.serve h m) w (fun _ _ => True)
      (fun _ _ => False) := by
  refine .bind ((teardownAll_quiet hh hw).mono (fun _ _ hp => hp) ?_)
    fun _ _ _ _ => .pure trivial trivial
  rintro f u hstrayed
  obtain ⟨later, -, socket, g, now, -, hg, hnot⟩ := hstrayed.past
  exact hnot (hplain.close hg)

/-- When the surroundings fail plainly, every operation on a reachable world fails only as
`MayEscape` says, and listing and tearing down never fail. -/
theorem failures_typed (m : Manager) (bound : Nat) (henv : env.Quiet) (hplain : env.Plain)
    (hw : w.Reachable) (op : Operation)
    (hnamed : ∀ n, op = .close n ∨ op = .remove n → (w.now.registry.nth? n).isSome)
    (hresolves : ∀ r, op = .openSession r →
      m.Resolves ⟨env, perform env m (bound + 1), bound + 2⟩ r w)
    (hreverse : ∀ address u f,
      (m.reverse ⟨env, perform env m (bound + 1), bound + 2⟩ address u).1 ≠ .failed f) :
    (∀ f, (perform env m (bound + 2) (.operation op) w).1 = .failed f →
      m.MayEscape ⟨env, perform env m (bound + 1), bound + 2⟩ w op f
        (perform env m (bound + 2) (.operation op) w).2) ∧
    (op = .listAll ∨ op = .teardownAll →
      ∃ answer, (perform env m (bound + 2) (.operation op) w).1 = .returned answer) := by
  have hh := henv.host m (bound + 1) (bound + 2)
  have hprompt := henv.prompt m bound (bound + 2)
  have hv := hw.valid
  cases op with
  | openSession r =>
    exact ⟨(openSession_mayEscape hplain hh (hresolves r rfl)).failed, by simp⟩
  | close n =>
    obtain ⟨ref, hn⟩ := Option.isSome_iff_exists.1 (hnamed n (.inl rfl))
    exact ⟨(close_mayEscape hplain hh hv hn).failed, by simp⟩
  | remove n =>
    obtain ⟨ref, hn⟩ := Option.isSome_iff_exists.1 (hnamed n (.inr rfl))
    exact ⟨(remove_mayEscape hplain hh hv hn).failed, by simp⟩
  | closeByHandle handle force =>
    exact ⟨(closeByHandle_mayEscape hplain hh hv handle force).failed, by simp⟩
  | listAll =>
    have hends := listAll_never_fails hh hv hreverse
    obtain ⟨answer, hanswer, -⟩ :=
      ((listAll_settles m hprompt).bind fun _ => settles_pure _).returns hends
    exact ⟨fun f hf => (hends.failed f hf).elim, fun _ => ⟨answer, hanswer⟩⟩
  | teardownAll =>
    have hends := teardownAll_never_fails (m := m) hplain hh hv
    obtain ⟨answer, hanswer, -⟩ :=
      ((teardownAll_settles hprompt).bind fun _ => settles_pure _).returns hends
    exact ⟨fun f hf => (hends.failed f hf).elim, fun _ => ⟨answer, hanswer⟩⟩

end Manager

theorem Environment.plain_halfRefusing : Environment.halfRefusing.Plain where
  create := by
    intro family f hf
    have hreply := mayAnswer_ofReplies hf
    cases family <;> cases hreply
  descriptor := by
    intro family d hd
    have hreply := mayAnswer_ofReplies hd
    cases family <;> cases hreply <;> decide
  option := by
    intro socket f hf
    cases mayAnswer_ofReplies hf
  connect := by
    intro socket address f hf
    have hreply := mayAnswer_ofReplies hf
    cases address <;> cases hreply
    decide
  close := by
    intro socket f hf
    have hreply := mayAnswer_ofReplies hf
    dsimp only at hreply
    split at hreply <;> cases hreply
    decide

namespace Manager

theorem resolve_halfRefusing (h : Host Unit) (hh : h.environment = .halfRefusing)
    (token : Option TokenId) (host : String) (u : World Unit) :
    (resolve {} h token host .inet6 u).1 =
      .returned [[32, 1, 13, 184, 0, 0, 0, 0, 0, 0, 0, 0, 0, 0, 0, 1]] := by
  obtain ⟨env, nested, patience⟩ := h
  subst hh
  rfl

theorem failures_typed_halfRefusing :
    let env := Environment.halfRefusing
    let w := env.after {} 4 [.operation (.openSession { host := "gate" })] ()
    let op : Operation := .openSession { host := "gate", family := some 10 }
    (perform env {} 5 (.operation op) w).1.reason? = some (.connection 2 (some 111) false) ∧
    (∀ f, (perform env {} 5 (.operation op) w).1 = .failed f →
      MayEscape {} ⟨env, perform env {} 4, 5⟩ w op f (perform env {} 5 (.operation op) w).2) ∧
    (op = .listAll ∨ op = .teardownAll →
      ∃ answer, (perform env {} 5 (.operation op) w).1 = .returned answer) := by
  refine ⟨by decide +kernel, ?_⟩
  refine failures_typed {} 3 (Environment.ofReplies_quiet _) Environment.plain_halfRefusing
    ⟨_, {}, 4, _, (), (Environment.ofReplies_quiet _).nests, by decide, rfl⟩ _ (by simp) ?_ ?_
  · rintro r ⟨⟩
    refine ⟨?_, ?_⟩
    · intro family found hfamily hfound
      obtain rfl : Family.inet6 = family := Except.ok.inj hfamily
      rw [resolve_halfRefusing _ rfl] at hfound
      obtain rfl := Outcome.returned.inj hfound
      decide
    · intro family f hfamily hf
      obtain rfl : Family.inet6 = family := Except.ok.inj hfamily
      rw [resolve_halfRefusing _ rfl] at hf
      cases hf
  · intro address u f hf
    rw [reverse_halfRefusing _ rfl] at hf
    cases hf

end Manager
end TcpSessions
