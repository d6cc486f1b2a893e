import TcpSessions.Proofs.Manager.Course
import TcpSessions.Proofs.Manager.SystemOpening
import TcpSessions.Proofs.Session.Attainable
/-!
# An open registers all of a session or nothing

An open that ends before it asks for a socket changes no session at all. If it is refused a socket,
the sessions are as before and only an id is used up. From the moment it has a socket, however it
ends, one session was added at the end of the table, and no other was touched (`World.Gained`). The
history says which of these is the case: it holds what the factory replied
(`Manager.registers_all_or_one`).
-/
namespace TcpSessions

open Act World

variable {ω : Type} {h : Host ω} {env : Environment ω} {m : Manager} {w w₁ w₂ u v : World ω}
variable {token : Option TokenId} {flags : SessionFlags} {socket : Socket} {x : Session}
variable {calls : List SocketCall} {r : OpenRequest} {family : Family}

/-! ## What the history says -/

namespace Exchange

/-- What the factory of sockets replied. -/
def factoryReply? : Exchange → Option (Except Failure Int)
  | ⟨.createSocket _, reply, _⟩ => some reply
  | _ => none

/-- What a request to deliver urgent data inline failed with. -/
def optionFailure? : Exchange → Option Failure
  | ⟨.setInline _, .error f, _⟩ => some f
  | _ => none

/-- What a call was answered with when it failed. -/
def failure? (e : Exchange) : Option Failure :=
  match e.reply with
  | .ok _ => none
  | .error f => some f

variable {e : Exchange} {f : Failure}

theorem factoryReply?_eq_none (h : ∀ family, e.call ≠ .createSocket family) :
    e.factoryReply? = none := by
  obtain ⟨c, reply, now⟩ := e
  cases c with
  | createSocket family => exact absurd rfl (h family)
  | _ => rfl

theorem optionFailure?_eq_none (h : e.call.socket? = none) : e.optionFailure? = none := by
  obtain ⟨c, reply, now⟩ := e
  cases c with
  | setInline socket => cases h
  | _ => rfl

theorem failure?_of_optionFailure? (h : e.optionFailure? = some f) : e.failure? = some f := by
  unfold optionFailure? at h
  split at h
  · exact h
  · cases h

theorem failure?_of_connect? {c : Connect} (h : e.connect? token = some c)
    (hf : c.reply = .error f) : e.failure? = some f := by
  unfold connect? at h
  split at h
  · obtain rfl := Option.some.inj h
    dsimp only at hf
    subst hf
    rfl
  · cases h

end Exchange

/-- What the factory of sockets replied since an earlier world. -/
def World.factoryReplies (u w : World ω) : List (Except Failure Int) :=
  (u.exchangesSince w).filterMap Exchange.factoryReply?

/-- What calls failed with since an earlier world. -/
def World.failures (u w : World ω) : List Failure :=
  (u.exchangesSince w).filterMap Exchange.failure?

namespace World

theorem Told.factoryReplies_eq {replies : List (Except Failure Int)}
    (ht : w.Told Exchange.factoryReply? replies u) : u.factoryReplies w = replies := ht.since_eq

/-- What is told of in the end is among the failures of all calls. -/
theorem mem_failures {e : Exchange} {log log' : List Exchange} {f : Failure}
    (hw : w.Exchanged log u) (hu : u.Exchanged log' v) (he : e ∈ log')
    (hf : e.failure? = some f) : f ∈ v.failures w := by
  rw [failures, (hw.trans hu).since_eq, List.filterMap_append]
  exact List.mem_append_right _ (List.mem_filterMap.2 ⟨e, he, hf⟩)

end World

/-! ## Sessions gained and not gained -/

/-- From `w` to `u` one session was added at the end of the table, under a new id and with a new
socket; nothing else changed. -/
structure World.Gained (w : World ω) (flags : SessionFlags) (descriptor : Int) (x : Session)
    (u : World ω) : Prop where
  entries : u.now.registry.table.entries = w.now.registry.table.entries ++ [⟨x.id, w.newcomer⟩]
  nextId : u.now.registry.table.nextId = w.now.registry.table.nextId + 1
  session : u.now.registry.get? w.newcomer = some x
  others : ∀ ref, ref ≠ w.newcomer → u.now.registry.get? ref = w.now.registry.get? ref
  id : x.id = w.now.registry.table.nextId
  fresh : ∀ ref y, w.now.registry.get? ref = some y → y.id < x.id
  flags : x.flags = flags
  fd : x.fd = descriptor
  socket : x.socket = some ⟨w.now.sockets.length, descriptor⟩
  sockets : u.now.sockets = w.now.sockets ++ [⟨w.now.sockets.length, descriptor⟩]

/-- From `w` to `u` an id was used up, and the sessions are those of before. -/
structure World.Kept (w u : World ω) : Prop where
  entries : u.now.registry.table.entries = w.now.registry.table.entries
  nextId : u.now.registry.table.nextId = w.now.registry.table.nextId + 1
  sessions : ∀ ref y, w.now.registry.get? ref = some y → u.now.registry.get? ref = some y
  sockets : u.now.sockets = w.now.sockets

namespace World

theorem Opening.gained {d : Int} (ho : w.Opening flags (w.nextSocket d) x calls u)
    (hw : w.Issued) (hd : d ≠ -1) : w.Gained flags d x u where
  entries := by
    rw [ho.registry, ho.id]
    rfl
  nextId := by
    rw [ho.registry]
    rfl
  session := ho.get?
  others := fun _ hne => ho.get?_of_ne hne
  id := ho.id
  fresh := by
    intro ref y hy
    rw [ho.id]
    exact hw ref y hy
  flags := ho.flags
  fd := by
    have hhandle : Handle.ofInt? (w.nextSocket d).descriptor = some ⟨d, hd⟩ := dif_pos hd
    rw [Session.fd, ho.handle, hhandle]
    rfl
  socket := ho.socket_eq
  sockets := ho.sockets

/-- A session that was created and dropped again leaves the table as it was. -/
theorem kept_of_dropped (hw : w.now.Valid)
    (hu : u.now.registry = ((w.now.registry.create flags).2.remove w.newcomer).2)
    (hsockets : u.now.sockets = w.now.sockets) : w.Kept u where
  entries := by
    have hnew : (w.now.registry.create flags).2.get? w.newcomer = some _ :=
      Registry.get?_create_new w.now.registry flags
    rw [hu, (hw.indexed.create flags).entries_remove hnew]
    have hcreated : (w.now.registry.create flags).2.table.entries =
        w.now.registry.table.entries ++ [⟨w.now.registry.table.nextId, w.newcomer⟩] := rfl
    rw [hcreated, List.filter_append, List.filter_eq_self.2]
    · simp
    · intro e he
      have hlt := hw.indexed.index_lt (List.mem_map_of_mem (f := Entry.ref) he)
      have hne : e.ref ≠ w.newcomer := by
        intro heq
        rw [heq] at hlt
        exact Nat.lt_irrefl _ hlt
      simpa using hne
  nextId := by
    rw [hu, Registry.nextId_remove]
    rfl
  sessions := by
    intro ref y hy
    rw [hu, Registry.get?_remove]
    exact Registry.get?_create_of_some hy
  sockets := hsockets

end World

namespace Manager

/-! ## Before there is a socket -/

/-- An open ends before it asks for a socket: a check or the resolver fails, or the token is set
after the resolver has returned. -/
inductive LeavesEarly (m : Manager) (h : Host ω) (r : OpenRequest) (w : World ω) : Prop
  | port (f : Failure) (hport : checkPort (r.port.getD m.defaultPort) = .error f) :
    LeavesEarly m h r w
  | family (port : Int) (f : Failure) (hport : checkPort (r.port.getD m.defaultPort) = .ok port)
    (hfamily : m.checkFamily r.family = .error f) : LeavesEarly m h r w
  | unresolved (port : Int) (family : Family) (f : Failure)
    (hport : checkPort (r.port.getD m.defaultPort) = .ok port)
    (hfamily : m.checkFamily r.family = .ok family)
    (hresolve : (m.resolve h r.token r.host family w).1 = .failed f) : LeavesEarly m h r w
  | cancelled (port : Int) (family : Family) (candidates : List Address.Bytes)
    (hport : checkPort (r.port.getD m.defaultPort) = .ok port)
    (hfamily : m.checkFamily r.family = .ok family)
    (hresolve : (m.resolve h r.token r.host family w).1 = .returned candidates)
    (hset : (m.resolve h r.token r.host family w).2.now.isSet r.token = true) : LeavesEarly m h r w

theorem candidatesOf_of_failed {host : String} {f : Failure}
    (hresolve : m.resolve h token host family w = (.failed f, u)) :
    ∃ g, m.candidatesOf h token host family w = (.failed g, u) := by
  rw [candidatesOf, bind_eq (attempt_failed hresolve)]
  cases hi : f.isInterrupted with
  | true => exact ⟨_, by simp only [hi, if_true]; rfl⟩
  | false => exact ⟨f, by simp only [hi, Bool.false_eq_true, if_false]; rfl⟩

theorem candidatesOf_of_returned {host : String} {candidates : List Address.Bytes}
    (hresolve : m.resolve h token host family w = (.returned candidates, u)) :
    m.candidatesOf h token host family w =
      if u.now.isSet token then (.failed (.of (.resolution host (some "interrupted"))), u)
      else (.returned candidates, u) := by
  have hset : Act.isCancelled token u = (.returned (u.now.isSet token), u) := rfl
  rw [candidatesOf, bind_eq (attempt_returned hresolve)]
  dsimp only
  rw [bind_eq hset]
  split <;> rfl

theorem openSession_of_unresolved {port : Int} {f : Failure}
    (hport : checkPort (r.port.getD m.defaultPort) = .ok port)
    (hfamily : m.checkFamily r.family = .ok family)
    (hcandidates : m.candidatesOf h r.token r.host family w = (.failed f, u)) :
    m.openSession h r w = (.failed f, u) := by
  rw [openSession, hport, hfamily]
  exact bind_failed hcandidates _

/-- What an open does after its lookup. -/
theorem openSession_of_candidates {port : Int} {candidates : List Address.Bytes}
    (hport : checkPort (r.port.getD m.defaultPort) = .ok port)
    (hfamily : m.checkFamily r.family = .ok family)
    (hcandidates : m.candidatesOf h r.token r.host family w = (.returned candidates, w₁)) :
    m.openSession h r w = (register h r.token family r.flags >>= fun ref =>
      m.enableInline h r.token ref >>= fun _ =>
        tryCandidates h ⟨ref, r.host, port, family, r.token, candidates.length⟩ none candidates)
      w₁ := by
  rw [openSession, hport, hfamily]
  exact bind_eq hcandidates _

/-- Unless it ends early, an open gets candidates. -/
theorem exists_candidates (hp : h.Prompt) (hlate : ¬ m.LeavesEarly h r w) :
    ∃ port family candidates w₁, checkPort (r.port.getD m.defaultPort) = .ok port ∧
      m.checkFamily r.family = .ok family ∧
      m.candidatesOf h r.token r.host family w = (.returned candidates, w₁) := by
  cases hport : checkPort (r.port.getD m.defaultPort) with
  | error f => exact absurd (.port f hport) hlate
  | ok port =>
  cases hfamily : m.checkFamily r.family with
  | error f => exact absurd (.family port f hport hfamily) hlate
  | ok family =>
  rcases hresolve : m.resolve h r.token r.host family w with ⟨o, w₁⟩
  cases o with
  | failed f => exact absurd (.unresolved port family f hport hfamily (by rw [hresolve])) hlate
  | stalled => exact absurd (by rw [hresolve]) (resolve_settles m hp r.host family w)
  | returned candidates =>
    refine ⟨port, family, candidates, w₁, rfl, rfl, ?_⟩
    rw [candidatesOf_of_returned hresolve, if_neg]
    intro hset
    exact hlate (.cancelled port family candidates hport hfamily (by rw [hresolve])
      (by rw [hresolve]; exact hset))

/-- Nothing but registering asks the factory for a socket. -/
theorem preserves_factoryReplies (hh : h.Quiet) (hp : h.Prompt) (w : World ω)
    (replies : List (Except Failure Int)) :
    h.Preserves (fun c => ∀ family, c ≠ .createSocket family)
      (w.Told Exchange.factoryReply? replies) (w.Told Exchange.factoryReply? replies) :=
  hh.preserves_told hp (fun _ hc => Exchange.factoryReply?_eq_none hc) w replies

theorem told_of_resolve (hh : h.Quiet) (hp : h.Prompt) (host : String) (family : Family) :
    w.Told Exchange.factoryReply? [] (m.resolve h token host family w).2 :=
  ((preserves_factoryReplies hh hp w []).keeps_resolve (fun _ => nofun) (fun _ => nofun) w
    (.refl _ w)).always

/-- An open that ends early fails, changes no session and asks for no socket. -/
theorem LeavesEarly.openSession_eq (hh : h.Quiet) (hp : h.Prompt) (hearly : m.LeavesEarly h r w) :
    ∃ f u, m.openSession h r w = (.failed f, u) ∧ w.LookedUp u ∧
      w.Told Exchange.factoryReply? [] u := by
  cases hearly with
  | port f hport =>
    refine ⟨f, w, ?_, .refl w, .refl _ w⟩
    rw [openSession, hport]
    rfl
  | family port f hport hfamily =>
    refine ⟨f, w, ?_, .refl w, .refl _ w⟩
    rw [openSession, hport, hfamily]
    rfl
  | unresolved port family f hport hfamily hresolve =>
    obtain ⟨g, hcandidates⟩ := candidatesOf_of_failed (Prod.ext hresolve rfl)
    exact ⟨g, _, openSession_of_unresolved hport hfamily hcandidates,
      (resolve_quiet m hh r.host family).always, told_of_resolve hh hp r.host family⟩
  | cancelled port family candidates hport hfamily hresolve hset =>
    have hcandidates := candidatesOf_of_returned (Prod.ext hresolve rfl)
    rw [if_pos hset] at hcandidates
    exact ⟨_, _, openSession_of_unresolved hport hfamily hcandidates,
      (resolve_quiet m hh r.host family).always, told_of_resolve hh hp r.host family⟩

/-! ## From the request for a socket on -/

/-- An attempt that fails for want of a connection names its session, unless the surroundings
failed a connect in that way. -/
theorem Attempt.Course.id_eq {a : Attempt} {id id' : Int} {patience : Nat} {set : Bool}
    {last : Option Failure} {candidates : List Address.Bytes} {connects : List Connect}
    {outcome : Outcome Peer} {f : Failure} {errno : Option Int} {cancelled : Bool}
    (hc : a.Course id socket patience set last candidates connects outcome)
    (ho : outcome = .failed f) (hr : f.reason = .connection id' errno cancelled) :
    id' = id ∨ ∃ c ∈ connects, c.reply = .error f := by
  have backed : ∀ {c : Bool} {e : Option Int} {cause : Option Failure},
      Outcome.failed (α := Peer) (.backed (.connection id · c) e cause) = .failed f → id' = id := by
    intro c e cause hf
    obtain rfl := Outcome.failed.inj hf
    rw [Failure.backed_eq (by rw [hr]; simp)] at hr
    exact (Reason.connection.inj hr).1.symm
  induction hc with
  | exhausted | barred | interrupted => exact .inl (backed ho)
  | malformed | noHandle =>
    obtain rfl := Outcome.failed.inj ho
    cases hr
  | connected | worn => cases ho
  | refused peer is g set hpeer hi hf hs hrest ih =>
    rcases ih ho with hid | ⟨c, hc, hreply⟩
    · exact .inl hid
    · exact .inr ⟨c, List.mem_append_right _ hc, hreply⟩
  | fault peer is g set hpeer hs =>
    obtain rfl := Outcome.failed.inj ho
    exact .inr ⟨_, List.mem_append_right _ (List.mem_singleton_self _), rfl⟩

/-- An open whose request for inline data fails in an unforeseen way fails with that. -/
theorem enableInline_told (m : Manager) (hh : h.Quiet) (ho : w.Opening flags socket x calls u) :
    Ends (fun _ => True) (m.enableInline h token w.newcomer) u (fun _ _ => True)
      (fun f v => f.isSystem = false ∧ u.Told Exchange.optionFailure? [f] v) := by
  unfold enableInline
  refine .of_eq (bind_eq (session_some ho.get?) _) ?_
  rw [ho.socket_eq]
  dsimp only
  split
  · refine .quiet_bind hh (fun _ _ => trivial) fun reply v hc => ?_
    cases reply with
    | ok a => exact .pure trivial trivial
    | error f =>
      dsimp only
      split
      · exact .session_bind (fun y _ => .of_returned rfl trivial trivial)
          fun hnone => by
            have ho' := (ho.called hc rfl).get?
            rw [hnone] at ho'
            cases ho'
      · rename_i hs
        exact .fail trivial ⟨by simpa using hs, hc.told rfl⟩
  · exact .pure trivial trivial

/-- How an open ends that asked for a socket. -/
inductive Asked (r : OpenRequest) (w : World ω) : Outcome SessionRef × World ω → Prop
  | refused (g f : Failure) (u : World ω) (hs : g.isSystem = true)
    (htold : w.Told Exchange.factoryReply? [.error g] u)
    (hu : u.now.registry = ((w.now.registry.create r.flags).2.remove w.newcomer).2)
    (hsockets : u.now.sockets = w.now.sockets) : Asked r w (.failed f, u)
  | broken (g : Failure) (u : World ω) (hs : g.isSystem = false)
    (htold : w.Told Exchange.factoryReply? [.error g] u)
    (hu : u.now.registry = (w.now.registry.create r.flags).2) : Asked r w (.failed g, u)
  | opened (d : Int) (x : Session) (calls : List SocketCall) (outcome : Outcome SessionRef)
    (u : World ω) (htold : w.Told Exchange.factoryReply? [.ok d] u)
    (ho : w.Opening r.flags (w.nextSocket d) x calls u)
    (href : ∀ ref, outcome = .returned ref → ref = w.newcomer)
    (hid : ∀ f id errno cancelled, outcome = .failed f →
      f.reason = .connection id errno cancelled → id = x.id ∨ f ∈ u.failures w) :
    Asked r w (outcome, u)

/-- However an open goes on that has got its socket, it keeps the session that it registered. -/
theorem asked_of_opening (hh : h.Quiet) (hp : h.Prompt) {d : Int} {a : Attempt}
    (ha : a.ref = w.newcomer) (htold : w.Told Exchange.factoryReply? [.ok d] u)
    (ho : w.Opening r.flags (w.nextSocket d) x [] u) (candidates : List Address.Bytes) :
    Asked r w ((m.enableInline h r.token w.newcomer >>= fun _ =>
      tryCandidates h a none candidates) u) := by
  have hinline : Ends _ (m.enableInline h r.token w.newcomer) u _ _ :=
    ((enableInline_quiet m hh ho).and (enableInline_told m hh ho)).and
    (((preserves_factoryReplies hh hp w [.ok d]).keeps_enableInline (m := m) (fun _ _ => nofun)
      r.token w.newcomer) u htold)
  rcases hrun : m.enableInline h r.token w.newcomer u with ⟨o, v⟩
  cases o with
  | stalled => exact absurd (by rw [hrun]) (enableInline_settles m hp w.newcomer u)
  | failed f =>
    obtain ⟨-, ⟨⟨calls, ho', -⟩, -, log, hlog, hpick⟩, htold'⟩ := hinline.of_eq_failed hrun
    obtain ⟨e, he, hef⟩ : ∃ e ∈ log, e.optionFailure? = some f :=
      List.mem_filterMap.1 (hpick ▸ List.mem_singleton_self f)
    obtain ⟨before, hbefore, -⟩ := htold
    rw [bind_failed hrun]
    refine .opened d x calls _ v htold' ho' nofun fun g id errno cancelled hg _ => .inr ?_
    obtain rfl := Outcome.failed.inj hg
    exact mem_failures hbefore hlog he (Exchange.failure?_of_optionFailure? hef)
  | returned a' =>
    obtain ⟨-, ⟨⟨calls, ho', -⟩, -⟩, htold'⟩ := hinline.of_eq_returned hrun
    rw [bind_eq hrun]
    have hkept := ((preserves_factoryReplies hh hp w [.ok d]).keeps_tryCandidates a candidates
      (fun _ _ _ _ _ _ => nofun) none v htold').always
    have hfollows := tryCandidates_course hh hp ha candidates none x calls v ho'
    generalize tryCandidates h a none candidates v = result at hkept hfollows
    obtain ⟨connects, outcome, y, calls', v', hcourse, ⟨log, hlog, hpick⟩, hopening, -⟩ := hfollows
    refine .opened d y calls' _ v' hkept hopening ?_ ?_
    · intro ref href
      obtain ⟨-, -, rfl⟩ := Outcome.map_eq_returned.1 href
      rfl
    · intro f id errno cancelled hf hr
      rw [hopening.id]
      refine (hcourse.id_eq (Outcome.map_eq_failed.1 hf) hr).imp_right ?_
      rintro ⟨c, hc, hreply⟩
      obtain ⟨e, he, hec⟩ := List.mem_filterMap.1 (hpick ▸ hc)
      obtain ⟨before, hbefore, -⟩ := htold'
      exact mem_failures hbefore hlog he (Exchange.failure?_of_connect? hec hreply)

/-- An open that does not end early asks for one socket. -/
theorem openSession_asked (hh : h.Quiet) (hp : h.Prompt) (hlate : ¬ m.LeavesEarly h r w) :
    Asked r w (m.openSession h r w) := by
  obtain ⟨port, family, candidates, w₁, hport, hfamily, hcandidates⟩ := exists_candidates hp hlate
  obtain ⟨hl, -⟩ := (candidatesOf_quiet m hh r.host family).of_eq_returned hcandidates
  have htold : w.Told Exchange.factoryReply? [] w₁ := by
    have hends : Ends _ (m.candidatesOf h r.token r.host family) w _ _ :=
      Host.Preserves.candidatesOf_ends ((preserves_factoryReplies hh hp w []).keeps_resolve
        (fun _ => nofun) (fun _ => nofun) w (.refl _ w))
    exact (hends.of_eq_returned hcandidates).1
  rw [openSession_of_candidates hport hfamily hcandidates]
  have hregister : Ends _ (register h r.token family r.flags) w₁ _ _ :=
    register_called hh family r.flags
  rcases hrun : register h r.token family r.flags w₁ with ⟨o, u⟩
  cases o with
  | stalled => exact absurd (by rw [hrun]) (register_settles hp family r.flags w₁)
  | failed f =>
    obtain ⟨-, g, v, hc, hpast, hsockets, hend⟩ := hregister.of_eq_failed hrun
    have hv : w₁.Told Exchange.factoryReply? [.error g] v := hc.told rfl
    have hreply : w.Told Exchange.factoryReply? [.error g] u := htold.trans (hv.congr hpast)
    rw [hl.registry, hl.newcomer] at hend
    rw [bind_failed hrun]
    split at hend
    · rename_i hs
      exact .refused g f u hs hreply hend.2 (hsockets.trans hl.sockets)
    · rename_i hs
      obtain ⟨rfl, hu⟩ := hend
      exact .broken f u (by simpa using hs) hreply hu
  | returned ref =>
    obtain ⟨-, rfl, d, x, v, hc, hpast, ho⟩ := hregister.of_eq_returned hrun
    have hv : w₁.Told Exchange.factoryReply? [.ok d] v := hc.told rfl
    have hreply : w.Told Exchange.factoryReply? [.ok d] u := htold.trans (hv.congr hpast)
    have hnext : w₁.nextSocket d = w.nextSocket d := by
      rw [nextSocket, nextSocket, hl.sockets]
    rw [hnext] at ho
    rw [bind_eq hrun, hl.newcomer]
    exact asked_of_opening hh hp rfl hreply (ho.of_lookedUp hl) candidates

/-! ## All or one -/

/-- What an open does to the sessions, by what the factory replied. -/
structure RegistersAllOrOne (m : Manager) (h : Host ω) (r : OpenRequest) (w : World ω)
    (outcome : Outcome Answer) (u : World ω) : Prop where
  early : m.LeavesEarly h r w → (∃ f, outcome = .failed f) ∧
    u.now.registry = w.now.registry ∧ u.now.sockets = w.now.sockets ∧ u.factoryReplies w = []
  asked : ¬ m.LeavesEarly h r w → ∃ reply, u.factoryReplies w = [reply]
  refused : ∀ f, u.factoryReplies w = [.error f] → f.isSystem = true →
    (∃ g, outcome = .failed g) ∧ w.Kept u
  /-- If the factory fails in an unforeseen way, a session without a socket stays. -/
  broken : ∀ f, u.factoryReplies w = [.error f] → f.isSystem = false →
    outcome = .failed f ∧ u.now.registry = (w.now.registry.create r.flags).2
  gained : ∀ d, u.factoryReplies w = [.ok d] → d ≠ -1 → ∃ x, w.Gained r.flags d x u ∧
    (∀ a, outcome = .returned a → a = .session x.id) ∧
    ∀ f id errno cancelled, outcome = .failed f → f.reason = .connection id errno cancelled →
      id = x.id ∨ f ∈ u.failures w

theorem Asked.registers {o : Outcome SessionRef} (ha : Asked r w (o, u)) (hw : w.Attainable)
    (hlate : ¬ m.LeavesEarly h r w) :
    RegistersAllOrOne m h r w (o.map fun _ => .session w.now.registry.table.nextId) u := by
  cases ha with
  | refused g f u hs htold hu hsockets =>
    have hreply := htold.factoryReplies_eq
    constructor
    · exact fun hearly => absurd hearly hlate
    · exact fun _ => ⟨_, hreply⟩
    · exact fun _ _ _ => ⟨⟨f, rfl⟩, World.kept_of_dropped hw.valid hu hsockets⟩
    · intro f' hf' hs'
      obtain rfl : g = f' := by simpa [hreply] using hf'
      exact absurd hs (by simp [hs'])
    · simp [hreply]
  | broken g u hs htold hu =>
    have hreply := htold.factoryReplies_eq
    constructor
    · exact fun hearly => absurd hearly hlate
    · exact fun _ => ⟨_, hreply⟩
    · intro f' hf' hs'
      obtain rfl : g = f' := by simpa [hreply] using hf'
      exact absurd hs' (by simp [hs])
    · intro f' hf' _
      obtain rfl : g = f' := by simpa [hreply] using hf'
      exact ⟨rfl, hu⟩
    · simp [hreply]
  | opened d x calls o u htold ho href hid =>
    have hreply := htold.factoryReplies_eq
    constructor
    · exact fun hearly => absurd hearly hlate
    · exact fun _ => ⟨_, hreply⟩
    · simp [hreply]
    · simp [hreply]
    · intro d' hd' hset
      obtain rfl : d = d' := by simpa [hreply] using hd'
      refine ⟨x, ho.gained hw.issued hset, ?_, ?_⟩
      · intro a ha
        obtain ⟨-, -, rfl⟩ := Outcome.map_eq_returned.1 ha
        rw [ho.id]
      · intro f id errno cancelled hf hr
        exact hid f id errno cancelled (Outcome.map_eq_failed.1 hf) hr

/-- Serving an open ends as the open does and answers with the id of its session. -/
theorem serve_openSession_eq {o : Outcome SessionRef} (id : Int)
    (hopen : m.openSession h r w = (o, u))
    (hx : ∀ ref, o = .returned ref → ∃ x, u.now.registry.get? ref = some x ∧ x.id = id) :
    (Operation.openSession r).serve h m w = (o.map fun _ => .session id, u) := by
  cases o with
  | returned ref =>
    obtain ⟨x, hget, rfl⟩ := hx ref rfl
    exact (bind_eq hopen _).trans (bind_eq (session_some hget) _)
  | failed f => exact bind_failed hopen _
  | stalled => exact bind_stalled hopen _

theorem Asked.session {o : Outcome SessionRef} (ha : Asked r w (o, u)) (ref : SessionRef)
    (href : o = .returned ref) :
    ∃ x, u.now.registry.get? ref = some x ∧ x.id = w.now.registry.table.nextId := by
  cases ha with
  | refused => cases href
  | broken => cases href
  | opened d x calls o u htold ho hret hid =>
    obtain rfl := hret ref href
    exact ⟨x, ho.get?, ho.id⟩

/-- In every state that a run passes through, an open registers all of a session or nothing, if no
operation is nested in its calls. -/
theorem registers_all_or_one (m : Manager) (bound : Nat) (henv : env.Quiet) (hw : w.Attainable)
    (r : OpenRequest) :
    let h : Host ω := ⟨env, perform env m (bound + 1), bound + 2⟩
    let result := perform env m (bound + 2) (.operation (.openSession r)) w
    RegistersAllOrOne m h r w result.1 result.2 := by
  intro h result
  have hh : h.Quiet := henv.host m _ _
  have hp : h.Prompt := henv.prompt m _ _
  have hresult : result = (Operation.openSession r).serve h m w := rfl
  by_cases hearly : m.LeavesEarly h r w
  · obtain ⟨f, u, hopen, hl, htold⟩ := hearly.openSession_eq hh hp
    have hserve : result = (.failed f, u) := bind_failed hopen _
    rw [hserve]
    have hnone := htold.factoryReplies_eq
    constructor
    · exact fun _ => ⟨⟨f, rfl⟩, hl.registry, hl.sockets, hnone⟩
    · exact fun hlate => absurd hearly hlate
    · simp [hnone]
    · simp [hnone]
    · simp [hnone]
  · have hasked := openSession_asked hh hp hearly
    rcases hopen : m.openSession h r w with ⟨o, u⟩
    rw [hopen] at hasked
    rw [hresult, serve_openSession_eq _ hopen hasked.session]
    exact hasked.registers hw hearly

end Manager

/-- Of two sockets the second one is refused its connect. -/
def Script.refusing : Script where
  hosts := [("gate", { addresses := [[192, 0, 2, 1]] })]
  coming := [{}, { connect := some [("192.0.2.1",
    [{ failure := some (.of (.system .refused (.coded 111 "refused"))) }])] }]

/-- An open that fails to connect leaves its session at the end of the table. -/
theorem Manager.registers_all_or_one_refusing :
    let env := Script.environment.nesting Request.OfToken
    let w := env.after {} 3 [.operation (.openSession { host := "gate" })] Script.refusing
    let r : OpenRequest := { host := "gate", flags := .managed }
    let h : Host Script := ⟨env, perform env {} 2, 3⟩
    let result := perform env {} 3 (.operation (.openSession r)) w
    w.now.registry.trackedIds = [1] ∧ result.2.now.registry.trackedIds = [1, 2] ∧
      (result.2.factoryReplies w).map Except.toOption = [some 11] ∧
      result.1.reason? = some (.connection 2 (some 111) false) ∧
      Manager.RegistersAllOrOne {} h r w result.1 result.2 := by
  have henv : (Script.environment.nesting Request.OfToken).Quiet :=
    Script.environment.nesting_nests Request.OfToken
  refine ⟨by decide +kernel, by decide +kernel, by decide +kernel, by decide +kernel, ?_⟩
  refine Manager.registers_all_or_one {} 1 henv ?_ { host := "gate", flags := .managed }
  exact Reachable.attainable ⟨_, {}, 3, _, Script.refusing, henv.nests, by decide, rfl⟩

end TcpSessions
