import TcpSessions.Proofs.Peer
import TcpSessions.Proofs.Work.Keeps
import TcpSessions.Proofs.Work.SocketCalls
/-!
# Invariants of the primitives

Operations are made of calls, notices and changes of the registry. What these keep
(`Host.Preserves`) every operation keeps, wherever it stops: it is enough to look at each primitive
once. Of the calls only good ones need to keep it, when no other ones are made.
-/
namespace TcpSessions

open Act

variable {ω α : Type} {R I : World ω → Prop} {Good : Call → Prop} {h : Host ω} {m : Manager}
variable {w : World ω}

/-- An endpoint without flow information and scope. -/
def Peer.Unscoped (p : Peer) : Prop := p.flowinfo = 0 ∧ p.scopeId = 0

/-- Endpoints that an open makes have neither flow information nor a scope. -/
theorem Peer.unscoped_of_ofFields {family : Family} {bytes : Address.Bytes} {port : Int} {p : Peer}
    (hp : Peer.ofFields { family := .known family, address := bytes, port } = .ok p) :
    p.Unscoped := by
  obtain ⟨-, -, -, hflow, hscope⟩ := Peer.eq_of_ofFields rfl hp
  exact ⟨hflow, hscope⟩

/-- What an operation does to the endpoint of a session: nothing, or it sets one that it made. -/
def Session.Redirected (x y : Session) : Prop :=
  y.peer = x.peer ∨ ∃ p : Peer, y.peer = some p ∧ p.Unscoped

/-- The calls that an open of a host in a family makes before it connects. -/
def Call.Prepares (host : String) (family : Family) : Call → Prop
  | .resolve name f | .addressInfo name f => name = host ∧ f = family
  | .createSocket f => f = family
  | .setInline _ => True
  | _ => False

/-- Calls and notices keep an invariant. -/
structure Host.Attends (h : Host ω) (Good : Call → Prop) (R I : World ω → Prop) : Prop where
  always : ∀ w, I w → R w
  notice : ∀ w n, I w → I (w.push (.noticed n))
  call : ∀ token c, Good c → Keeps R I (h.call token c)

/-- The calls and changes that operations are made of keep an invariant. -/
structure Host.Preserves (h : Host ω) (Good : Call → Prop) (R I : World ω → Prop) : Prop
    extends h.Attends Good R I where
  sockets : ∀ w sockets, I w → I { w with now := { w.now with sockets } }
  create : ∀ w flags, I w → I (w.setRegistry (w.now.registry.create flags).2)
  remove : ∀ w ref, I w → I (w.setRegistry (w.now.registry.remove ref).2)
  change : ∀ w ref x y, I w → w.now.registry.get? ref = some x → x.Redirected y →
    I (w.setRegistry (w.now.registry.set ref y))

namespace Host.Attends

variable {token : Option TokenId} {host : String} {family : Family}
variable (hp : h.Attends Good R I)

include hp

theorem keeps_notice (n : Notice) : Keeps R I (Act.notice n) := by
  intro w hw
  have hw' := hp.notice w n hw
  exact .of_returned rfl (hp.always _ hw') hw'

theorem keeps_isCancelled (token : Option TokenId) : Keeps R I (Act.isCancelled token) :=
  keeps_of_reads hp.always fun _ => rfl

/-! ## Looking up -/

theorem keeps_resolve (hresolve : Good (.resolve host family))
    (haddress : Good (.addressInfo host family)) : Keeps R I (m.resolve h token host family) := by
  unfold Manager.resolve Lookup.resolve
  split
  · split
    · exact keeps_pure hp.always _
    · refine (hp.call token _ haddress).bind fun reply => ?_
      cases reply with
      | error f =>
        dsimp only
        split
        · exact (hp.keeps_notice _).bind fun _ => keeps_fail hp.always _
        · exact keeps_fail hp.always f
      | ok infos =>
        refine (keeps_ofExcept hp.always _).bind fun found => ?_
        split
        · exact keeps_fail hp.always _
        · exact (hp.keeps_notice _).bind fun _ => keeps_pure hp.always found
  · exact (hp.call token _ hresolve).bind fun reply => keeps_ofExcept hp.always reply

theorem keeps_reverse (hreverse : ∀ address, Good (.reverse address))
    (hname : ∀ text, Good (.hostByAddress text)) (address : Address) :
    Keeps R I (m.reverse h address) := by
  unfold Manager.reverse Lookup.reverse
  split
  · split
    · exact keeps_pure hp.always none
    · refine (hp.call none _ (hname _)).bind fun reply => ?_
      cases reply with
      | ok name => exact keeps_pure hp.always name
      | error f =>
        dsimp only
        split
        · exact keeps_pure hp.always none
        · exact keeps_fail hp.always f
  · exact (hp.call none _ (hreverse address)).bind fun reply => keeps_ofExcept hp.always reply

/-! ## Closing -/

theorem keeps_closeSession (hclose : ∀ socket, Good (.close socket)) {ref : SessionRef}
    (hclosed : Keeps R I (Act.changeSession ref fun s => .ok s.markClosed)) :
    Keeps R I (Manager.closeSession h ref) := by
  unfold Manager.closeSession
  refine (keeps_session hp.always ref).bind fun x => ?_
  split
  · refine (hp.call none _ (hclose _)).bind fun reply => ?_
    cases reply with
    | error f =>
      dsimp only
      split
      · exact (hp.keeps_notice _).bind fun _ => keeps_fail hp.always _
      · exact keeps_fail hp.always _
    | ok u => exact hclosed.bind fun _ => hp.keeps_notice _
  · exact keeps_fail hp.always _

/-! ## Connecting -/

theorem keeps_connectSocket {socket : Socket} {peer : Peer}
    (hc : Good (.connect socket peer.socketAddress)) :
    ∀ patience, Keeps R I (Manager.connectSocket h token socket peer patience)
  | 0 => fun _ hw => .of_stalled rfl (hp.always _ hw)
  | patience + 1 => by
    unfold Manager.connectSocket
    refine (hp.call token (.connect socket peer.socketAddress) hc).bind fun reply => ?_
    cases reply with
    | ok u => exact keeps_pure hp.always _
    | error f =>
      dsimp only
      split
      · refine (hp.keeps_isCancelled token).bind fun b => ?_
        split
        · exact keeps_pure hp.always _
        · exact keeps_connectSocket hc patience
      · exact keeps_pure hp.always _

theorem keeps_connectSession {peer : Peer}
    (hc : ∀ socket, Good (.connect socket peer.socketAddress)) (ref : SessionRef) :
    Keeps R I (Manager.connectSession h token ref peer) := by
  unfold Manager.connectSession
  refine (keeps_session hp.always ref).bind fun x => ?_
  split
  · exact keeps_fail hp.always _
  · exact hp.keeps_connectSocket (hc _) h.patience

theorem keeps_failCancelled (ref : SessionRef) (host : String) (peer : Peer) (errno : Int)
    (cause : Option Failure) :
    Keeps R I (Manager.failCancelled ref host peer errno cause : Act ω α) :=
  (keeps_session hp.always ref).bind fun _ => (hp.keeps_notice _).bind fun _ =>
    keeps_fail hp.always _

/-- The candidates are tried by directing a session, connecting it and marking it as connected. -/
theorem keeps_tryCandidates (a : Manager.Attempt)
    (htarget : ∀ p : Peer, p.Unscoped →
      Keeps R I (Act.changeSession a.ref fun s => .ok (s.target p)))
    (hjoin : ∀ p : Peer, p.Unscoped →
      Keeps R I (Act.changeSession a.ref fun s => s.markConnected p)) :
    ∀ (candidates : List Address.Bytes)
      (_ : ∀ bytes ∈ candidates, ∀ peer,
        Peer.ofFields { family := .known a.family, address := bytes, port := a.port } = .ok peer →
        Keeps R I (Manager.connectSession h a.token a.ref peer)) (last : Option Failure),
    Keeps R I (Manager.tryCandidates h a last candidates)
  | [], _, last =>
    (hp.keeps_notice _).bind fun _ => (keeps_session hp.always a.ref).bind fun _ =>
      keeps_fail hp.always _
  | bytes :: rest, hc, last => by
    unfold Manager.tryCandidates
    dsimp only
    split
    · exact keeps_fail hp.always _
    rename_i peer hpeer
    have hunscoped := Peer.unscoped_of_ofFields hpeer
    refine (hp.keeps_isCancelled a.token).bind fun b => ?_
    split
    · exact hp.keeps_failCancelled _ _ _ _ _
    refine (htarget peer hunscoped).bind fun _ =>
      (hc bytes (by simp) peer hpeer).bind fun result => ?_
    cases result with
    | ok u =>
      exact (hjoin peer hunscoped).bind fun _ => (keeps_session hp.always a.ref).bind fun _ =>
        (hp.keeps_notice _).bind fun _ => keeps_pure hp.always a.ref
    | error f =>
      dsimp only
      split
      · exact hp.keeps_failCancelled _ _ _ _ _
      split
      · exact (hp.keeps_notice _).bind fun _ =>
          keeps_tryCandidates a htarget hjoin rest (fun b hb => hc b (by simp [hb])) (some f)
      · exact keeps_fail hp.always f

end Host.Attends

/-! ## Changes of sessions -/

theorem Act.keeps_changeSession (hR : ∀ w, I w → R w) (ref : SessionRef)
    {f : Session → Except LifecycleError Session}
    (hf : ∀ w x y, I w → w.now.registry.get? ref = some x → f x = .ok y →
      I (w.setRegistry (w.now.registry.set ref y))) : Keeps R I (Act.changeSession ref f) := by
  intro w hw
  cases hx : w.now.registry.get? ref with
  | none =>
    have hnone : Act.changeSession ref f w = (.failed (.of (.noSuchSession (ref.index + 1))), w) :=
      bind_failed (session_none hx) _
    exact .of_failed hnone (hR w hw) hw
  | some x =>
    cases hy : f x with
    | error e => exact .of_failed (changeSession_error hx hy) (hR w hw) hw
    | ok y =>
      have hw' := hf w x y hw hx hy
      exact .of_returned (changeSession_ok hx hy) (hR _ hw') hw'

namespace Host.Preserves

variable (hp : h.Preserves Good R I)

include hp

theorem keeps_changeSession (ref : SessionRef) {f : Session → Except LifecycleError Session}
    (hf : ∀ x y, f x = .ok y → x.Redirected y) : Keeps R I (Act.changeSession ref f) :=
  Act.keeps_changeSession hp.always ref fun w x y hw hx hy => hp.change w ref x y hw hx (hf x y hy)

theorem keeps_socketFrom (reply : Except Failure Int) : Keeps R I (Host.socketFrom reply) := by
  intro w hw
  cases reply with
  | error f => exact .of_returned rfl (hp.always w hw) hw
  | ok d =>
    have hw' := hp.sockets w (w.now.sockets ++ [⟨w.now.sockets.length, d⟩]) hw
    exact .of_returned rfl (hp.always _ hw') hw'

theorem keeps_markClosed (ref : SessionRef) :
    Keeps R I (Act.changeSession ref fun s => .ok s.markClosed) :=
  hp.keeps_changeSession ref fun x y hy => by
    obtain rfl := Except.ok.inj hy
    exact .inl rfl

/-! ## Opening -/

theorem keeps_tryCandidates (a : Manager.Attempt) (candidates : List Address.Bytes)
    (hc : ∀ bytes ∈ candidates, ∀ peer,
      Peer.ofFields { family := .known a.family, address := bytes, port := a.port } = .ok peer →
      ∀ socket, Good (.connect socket peer.socketAddress)) (last : Option Failure) :
    Keeps R I (Manager.tryCandidates h a last candidates) := by
  refine hp.toAttends.keeps_tryCandidates a (fun p hunscoped => ?_) (fun p hunscoped => ?_)
    candidates (fun bytes hb peer hpeer => hp.keeps_connectSession (hc bytes hb peer hpeer) a.ref)
    last
  · refine hp.keeps_changeSession a.ref fun x y hy => ?_
    obtain rfl := Except.ok.inj hy
    exact .inr ⟨p, rfl, hunscoped⟩
  · refine hp.keeps_changeSession a.ref fun x y hy => ?_
    obtain ⟨-, rfl⟩ := Manager.markConnected_eq_ok hy
    exact .inr ⟨p, rfl, hunscoped⟩

section
variable {family : Family}

theorem keeps_register (hcreate : Good (.createSocket family)) (token : Option TokenId)
    (flags : SessionFlags) : Keeps R I (Manager.register h token family flags) := by
  unfold Manager.register
  refine Keeps.bind (fun w hw => ?_) fun ref => ?_
  · have hw' := hp.create w flags hw
    exact .of_returned rfl (hp.always _ hw') hw'
  refine (hp.call token (.createSocket family) hcreate).bind fun reply =>
    (hp.keeps_socketFrom reply).bind fun result => ?_
  cases result with
  | error f =>
    dsimp only
    split
    · refine Keeps.bind (fun w hw => ?_) fun _ => keeps_fail hp.always _
      have hw' := hp.remove w ref hw
      exact .of_returned rfl (hp.always _ hw') hw'
    · exact keeps_fail hp.always f
  | ok socket =>
    refine (hp.keeps_changeSession ref fun x y hy => ?_).bind fun _ => keeps_pure hp.always ref
    unfold Session.attach at hy
    split at hy
    · obtain rfl := Except.ok.inj hy
      exact .inl rfl
    · cases hy

theorem keeps_enableInline (hoption : ∀ socket, Good (.setInline socket)) (token : Option TokenId)
    (ref : SessionRef) : Keeps R I (m.enableInline h token ref) := by
  unfold Manager.enableInline
  refine (keeps_session hp.always ref).bind fun x => ?_
  split
  · exact keeps_pure hp.always ()
  · rename_i socket _
    split
    · refine (hp.call token (.setInline socket) (hoption socket)).bind fun reply => ?_
      cases reply with
      | ok u => exact keeps_pure hp.always ()
      | error f =>
        dsimp only
        split
        · exact (keeps_session hp.always ref).bind fun y => hp.keeps_notice _
        · exact keeps_fail hp.always f
    · exact keeps_pure hp.always ()

end

omit hp in
/-- The candidates that an open goes on with are those that the resolver found. -/
theorem candidatesOf_ends {token : Option TokenId} {host : String} {family : Family}
    (hresolve : Ends R (m.resolve h token host family) w (fun _ u => I u) fun _ u => I u) :
    Ends R (m.candidatesOf h token host family) w
      (fun candidates u => I u ∧ (m.resolve h token host family w).1 = .returned candidates)
      (fun _ u => I u) := by
  have hends : Ends R (m.resolve h token host family) w
      (fun candidates u => I u ∧ (m.resolve h token host family w).1 = .returned candidates)
      (fun _ u => I u) :=
    ⟨hresolve.always, fun a ha => ⟨hresolve.returned a ha, ha⟩, hresolve.failed⟩
  unfold Manager.candidatesOf
  refine .attempt_bind hends (fun candidates u hu hfound => ?_) fun f u hu hf => ?_
  · refine .isCancelled_bind ?_
    split
    · exact .fail hu hfound.1
    · exact .pure hu hfound
  · dsimp only
    split
    · exact .fail hu hf
    · exact .fail hu hf

section
variable (r : OpenRequest)
variable (hprepare : ∀ family, m.checkFamily r.family = .ok family →
  ∀ c : Call, c.Prepares r.host family → Good c)
variable (hconnect : ∀ port family candidates,
  Manager.checkPort (r.port.getD m.defaultPort) = .ok port → m.checkFamily r.family = .ok family →
  (m.resolve h r.token r.host family w).1 = .returned candidates → ∀ bytes ∈ candidates,
  ∀ peer, Peer.ofFields { family := .known family, address := bytes, port } = .ok peer →
  ∀ socket, Good (.connect socket peer.socketAddress))

include hprepare hconnect

/-- After its checks and its lookup an open keeps what its own calls keep: those that prepare it and
those on its candidates. -/
theorem openSession_ends_of_resolve
    (hchecks : ∀ f, Manager.checkPort (r.port.getD m.defaultPort) = .error f ∨
      m.checkFamily r.family = .error f → R w ∧ I w)
    (hresolve : ∀ family, m.checkFamily r.family = .ok family →
      Ends R (m.resolve h r.token r.host family) w (fun _ u => I u) fun _ u => I u) :
    Ends R (m.openSession h r) w (fun _ u => I u) (fun _ u => I u) := by
  unfold Manager.openSession
  refine .ofExcept_bind (fun port hport => ?_) (fun f hf => hchecks f (.inl hf))
  refine .ofExcept_bind (fun family hfamily => ?_) (fun f hf => hchecks f (.inr hf))
  have hfirst := hprepare family hfamily
  refine .bind (candidatesOf_ends (hresolve family hfamily)) ?_
  rintro candidates u - ⟨hu, hfound⟩
  have hcreate : Good (.createSocket family) := hfirst _ rfl
  refine Keeps.bind (hp.keeps_register hcreate r.token r.flags) (fun ref => ?_) u hu
  refine (hp.keeps_enableInline (fun _ => hfirst _ trivial) r.token ref).bind fun _ => ?_
  exact hp.keeps_tryCandidates _ candidates (hconnect port family candidates hport hfamily hfound)
    none

/-- An open keeps what its own calls keep. -/
theorem openSession_ends (hw : I w) :
    Ends R (m.openSession h r) w (fun _ u => I u) (fun _ u => I u) :=
  hp.openSession_ends_of_resolve r hprepare hconnect (fun _ _ => ⟨hp.always w hw, hw⟩)
    fun family hfamily =>
      hp.keeps_resolve (hprepare family hfamily _ ⟨rfl, rfl⟩) (hprepare family hfamily _ ⟨rfl, rfl⟩)
        w hw

end

end Host.Preserves

/-- A host whose every call keeps an invariant maintains it for the parts of operations. -/
theorem Host.Preserves.maintains (hp : h.Preserves (fun _ => True) R I)
    (hanswered : ∀ w now answer, I w → I (w.push (@Event.answered now answer)))
    (htokens : ∀ w ts, I w → I { w with now := { w.now with cancelled := ts } }) :
    h.Maintains m R I where
  always := hp.always
  notice := hp.notice
  answered := hanswered
  tokens := htokens
  untrack := hp.remove
  close := fun ref => hp.keeps_closeSession (fun _ => trivial) (hp.keeps_markClosed ref)
  reverse := hp.keeps_reverse (fun _ => trivial) fun _ => trivial
  openSession := fun r _ hw => hp.openSession_ends r (fun _ _ _ _ => trivial)
    (fun _ _ _ _ _ _ _ _ _ _ _ => trivial) hw

end TcpSessions
