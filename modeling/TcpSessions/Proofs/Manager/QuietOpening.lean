import TcpSessions.Proofs.Manager.QuietLookup
import TcpSessions.Proofs.Session.Validity
/-!
# Opening on a quiet host

Exactly what an open does when no operation is nested in it. Once it has its socket, the world is
the one before plus one session (`World.Opening`), and the calls on the new socket are an option
and connects (`Tried`), all of them in vain while candidates are still tried (`Trying`).
`Manager.Attempt.Turn` says once what comes of a single candidate; what holds of a run over all of
them is shown by its cases. `Manager.OpenFails` lists all that an open can fail with.
-/
namespace TcpSessions

open Act World

variable {ω : Type} {h : Host ω} {env : Environment ω} {w u u' : World ω}
variable {flags : SessionFlags} {socket : Socket} {x : Session} {calls : List SocketCall}
variable {token : Option TokenId} {peer : Peer}

theorem Failure.isSystem_of_isInterrupted {f : Failure} (h : f.isInterrupted = true) :
    f.isSystem = true := by
  unfold isInterrupted at h
  unfold isSystem
  cases hr : f.reason <;> simp_all [Reason.isA]

/-! ## The calls on the new socket -/

/-- The calls of an open on its socket, latest first. -/
structure Tried (calls : List SocketCall) : Prop where
  order : calls.Pairwise fun later earlier => earlier.MayPrecede later
  not_close : ∀ d ∈ calls, d.call.isClose = false

/-- The calls of an open on its socket while it may still connect it. -/
structure Trying (calls : List SocketCall) : Prop where
  order : calls.Pairwise fun later earlier => earlier.MayPrecede later
  vain : ∀ d ∈ calls, d.Vain

theorem Trying.tried (h : Trying calls) : Tried calls :=
  ⟨h.order, fun d hd => (h.vain d hd).not_close⟩

theorem trying_nil : Trying [] := ⟨.nil, by simp⟩

theorem trying_option (socket : Socket) (e : CallEnd) : Trying [⟨.setInline socket, e⟩] where
  order := List.pairwise_singleton _ _
  vain := by
    intro d hd
    rw [List.mem_singleton.1 hd]
    exact ⟨rfl, by simp [Call.isConnect]⟩

theorem Trying.connect (h : Trying calls) (socket : Socket)
    (hs : ∀ d ∈ calls, d.call.socket?.isSome) (address : SocketAddress) (e : CallEnd) :
    Tried (⟨.connect socket address, e⟩ :: calls) where
  order := List.pairwise_cons.2
    ⟨fun d hd => (h.vain d hd).mayPrecede rfl (hs d hd), h.order⟩
  not_close := by
    intro d hd
    rcases List.mem_cons.1 hd with rfl | hd
    · rfl
    · exact (h.vain d hd).not_close

theorem Trying.connect_refused (h : Trying calls) (socket : Socket)
    (hs : ∀ d ∈ calls, d.call.socket?.isSome) (address : SocketAddress) {f : Failure}
    (hf : f.isSystem = true) :
    Trying (⟨.connect socket address, .failed f⟩ :: calls) where
  order := (h.connect socket hs address (.failed f)).order
  vain := by
    intro d hd
    rcases List.mem_cons.1 hd with rfl | hd
    · exact ⟨rfl, fun _ => ⟨f, rfl, hf⟩⟩
    · exact h.vain d hd

/-! ## One more session -/

/-- The session that an open of `w` registers. -/
def World.newcomer (w : World ω) : SessionRef := ⟨w.count⟩

/-- From `w` to `u` one session was registered with a new socket, and no other socket was called. -/
structure World.Opening (w : World ω) (flags : SessionFlags) (socket : Socket) (x : Session)
    (calls : List SocketCall) (u : World ω) : Prop where
  registry : u.now.registry = (w.now.registry.create flags).2.set w.newcomer x
  sockets : u.now.sockets = w.now.sockets ++ [socket]
  serial : socket.serial = w.now.sockets.length
  id : x.id = w.now.registry.table.nextId
  flags : x.flags = flags
  handle : x.handle = Handle.ofInt? socket.descriptor
  socket_eq : x.socket = some socket
  calls : socketCalls socket u.past = calls ++ socketCalls socket w.past
  others : ∀ s, s ≠ socket → socketCalls s u.past = socketCalls s w.past

/-- From `w` to `u` a session was registered that got no socket, and maybe dropped again. -/
structure World.Unmade (w : World ω) (flags : SessionFlags) (u : World ω) : Prop where
  registry : u.now.registry = (w.now.registry.create flags).2 ∨
    u.now.registry = ((w.now.registry.create flags).2.remove w.newcomer).2
  sockets : u.now.sockets = w.now.sockets
  calls : ∀ s, socketCalls s u.past = socketCalls s w.past

/-- Wherever an open of `w` gives up: it called no socket, or its own in the proper order. -/
def World.OpenPart (w : World ω) (flags : SessionFlags) (u : World ω) : Prop :=
  (∀ s, socketCalls s u.past = socketCalls s w.past) ∨
    ∃ socket x calls, w.Opening flags socket x calls u ∧ Tried calls

theorem World.LookedUp.newcomer {w₁ : World ω} (hl : w.LookedUp w₁) : w₁.newcomer = w.newcomer := by
  simp only [World.newcomer, World.count, hl.registry]

namespace World.Opening

theorem get? (ho : w.Opening flags socket x calls u) : u.now.registry.get? w.newcomer = some x := by
  rw [ho.registry]
  exact Registry.get?_set_self (Registry.get?_create_new w.now.registry flags) x

/-- Sessions of before stay as they are. -/
theorem get?_of_ne (ho : w.Opening flags socket x calls u) {ref : SessionRef}
    (hne : ref ≠ w.newcomer) : u.now.registry.get? ref = w.now.registry.get? ref := by
  have hnew : (w.now.registry.create flags).2.get? w.newcomer = some _ :=
    Registry.get?_create_new w.now.registry flags
  rw [ho.registry, Registry.get?_set hnew]
  simp only [hne, if_false]
  cases hx : w.now.registry.get? ref with
  | some y => exact Registry.get?_create_of_some hx
  | none =>
    cases hy : (w.now.registry.create flags).2.get? ref with
    | some y => exact absurd (Registry.eq_of_get?_create hy hx).1 hne
    | none => rfl

theorem onSocket (ho : w.Opening flags socket x calls u) : ∀ d ∈ calls, d.call.socket?.isSome := by
  intro d hd
  have hmem : d ∈ socketCalls socket u.past := by
    rw [ho.calls]
    exact List.mem_append_left _ hd
  simp [socket?_of_mem_socketCalls hmem]

/-- The open changes its session otherwise. -/
theorem set (ho : w.Opening flags socket x calls u) {y : Session} (hid : y.id = x.id)
    (hflags : y.flags = x.flags) (hhandle : y.handle = x.handle) (hsocket : y.socket = x.socket) :
    w.Opening flags socket y calls (u.setRegistry (u.now.registry.set w.newcomer y)) where
  registry := by
    show u.now.registry.set w.newcomer y = _
    rw [ho.registry, Registry.set_set]
  sockets := ho.sockets
  serial := ho.serial
  id := hid.trans ho.id
  flags := hflags.trans ho.flags
  handle := hhandle.trans ho.handle
  socket_eq := hsocket.trans ho.socket_eq
  calls := ho.calls
  others := ho.others

/-- The open directs its session at an endpoint. -/
theorem targeted (ho : w.Opening flags socket x calls u) (peer : Peer) :
    w.Opening flags socket (x.target peer) calls
      (u.setRegistry (u.now.registry.set w.newcomer (x.target peer))) :=
  ho.set rfl rfl rfl rfl

theorem notice (ho : w.Opening flags socket x calls u) (n : Notice) :
    w.Opening flags socket x calls (u.push (.noticed n)) :=
  { ho with }

/-- The open calls its socket. -/
theorem called (ho : w.Opening flags socket x calls u) {c : Call} {reply : Except Failure c.Reply}
    (hc : u.Called env token c reply u') (hs : c.socket? = some socket) :
    w.Opening flags socket x (⟨c, .of reply⟩ :: calls) u' :=
  { ho with
    registry := hc.registry.trans ho.registry
    sockets := hc.sockets.trans ho.sockets
    calls := by simp [hc.socketCalls_eq, hs, ho.calls]
    others := by
      intro s hne
      have hne' : socket ≠ s := fun he => hne he.symm
      simp [hc.socketCalls_eq, hs, hne', ho.others s hne] }

theorem entered (ho : w.Opening flags socket x calls u) {c : Call} (hc : u.Entered token c u')
    (hs : c.socket? = some socket) : w.Opening flags socket x (⟨c, .running⟩ :: calls) u' :=
  { ho with
    registry := hc.registry.trans ho.registry
    sockets := hc.sockets.trans ho.sockets
    calls := by simp [hc.socketCalls_eq, hs, ho.calls]
    others := by
      intro s hne
      have hne' : socket ≠ s := fun he => hne he.symm
      simp [hc.socketCalls_eq, hs, hne', ho.others s hne] }

/-- Lookups before the open make no difference. -/
theorem of_lookedUp {w₁ : World ω} (hl : w.LookedUp w₁) (ho : w₁.Opening flags socket x calls u) :
    w.Opening flags socket x calls u where
  registry := by rw [ho.registry, hl.registry, hl.newcomer]
  sockets := by rw [ho.sockets, hl.sockets]
  serial := by rw [ho.serial, hl.sockets]
  id := by rw [ho.id, hl.registry]
  flags := ho.flags
  handle := ho.handle
  socket_eq := ho.socket_eq
  calls := by rw [ho.calls, hl.calls]
  others := by
    intro s hne
    rw [ho.others s hne, hl.calls]

theorem part (ho : w.Opening flags socket x calls u) (ht : Tried calls) : w.OpenPart flags u :=
  .inr ⟨socket, x, calls, ho, ht⟩

end World.Opening

theorem World.LookedUp.openPart {w₁ : World ω} (hl : w.LookedUp w₁) (hp : w₁.OpenPart flags u) :
    w.OpenPart flags u := by
  rcases hp with hcalls | ⟨socket, x, calls, ho, ht⟩
  · exact .inl fun s => (hcalls s).trans (hl.calls s)
  · exact (ho.of_lookedUp hl).part ht

theorem World.Unmade.of_lookedUp {w₁ : World ω} (hl : w.LookedUp w₁) (hu : w₁.Unmade flags u) :
    w.Unmade flags u where
  registry := by
    simpa only [hl.registry, hl.newcomer] using hu.registry
  sockets := hu.sockets.trans hl.sockets
  calls := fun s => (hu.calls s).trans (hl.calls s)

/-! ## What an open fails with -/

/-- The latest of the calls is a connect of the socket that ended with the failure, as the
surroundings may fail it. -/
def Environment.LastRefusal (env : Environment ω) (socket : Socket) (calls : List SocketCall)
    (f : Failure) : Prop :=
  ∃ address, calls.head? = some ⟨.connect socket address, .failed f⟩ ∧
    env.MayAnswer (.connect socket address) (.error f)

/-- Why an open that has its socket fails, after the calls on it. -/
inductive Manager.Attempt.Fails (env : Environment ω) (a : Manager.Attempt) (socket : Socket)
    (id : Int) (last : Option Failure) (candidates : List Address.Bytes)
    (calls : List SocketCall) : Failure → Prop
  | candidate (bytes : Address.Bytes) (e : PeerError) (hmem : bytes ∈ candidates)
    (he : Peer.ofFields { family := .known a.family, address := bytes, port := a.port } = .error e) :
    Fails env a socket id last candidates calls (.of (.peer e))
  | fault (f : Failure) (hf : env.LastRefusal socket calls f) (hs : f.isSystem = false) :
    Fails env a socket id last candidates calls f
  | noHandle (hd : Handle.ofInt? socket.descriptor = none) :
    Fails env a socket id last candidates calls (.of (.lifecycle .notAttached))
  | cancelled :
    Fails env a socket id last candidates calls
      (.backed (.connection id · true) (some Errno.interrupted) none)
  | interrupted (f : Failure) (hf : env.LastRefusal socket calls f) (hi : f.isInterrupted = true) :
    Fails env a socket id last candidates calls
      (.backed (.connection id · true) (some f.errnoOr) (some f))
  | refused (f : Failure) (hf : env.LastRefusal socket calls f) (hs : f.isSystem = true) :
    Fails env a socket id last candidates calls
      (.backed (.connection id · false) (some f.errnoOr) (some f))
  | noCandidates (hl : last = none) (hc : candidates = []) :
    Fails env a socket id last candidates calls (.backed (.connection id · false) none none)

/-- Failing over the rest of the candidates after one was refused. -/
theorem Manager.Attempt.Fails.cons {a : Manager.Attempt} {id : Int} {f g : Failure}
    {last : Option Failure} {bytes : Address.Bytes} {rest : List Address.Bytes}
    (h : a.Fails env socket id (some g) rest calls f) :
    a.Fails env socket id last (bytes :: rest) calls f := by
  cases h with
  | candidate b e hmem he => exact .candidate b e (List.mem_cons_of_mem _ hmem) he
  | fault f hf hs => exact .fault f hf hs
  | noHandle hd => exact .noHandle hd
  | cancelled => exact .cancelled
  | interrupted f hf hi => exact .interrupted f hf hi
  | refused f hf hs => exact .refused f hf hs
  | noCandidates hl hc => cases hl

namespace Manager

/-! ## Connecting -/

/-- What a connect of the open's socket has come to; a refusal is the latest call. -/
structure Connects (env : Environment ω) (w : World ω) (flags : SessionFlags) (socket : Socket)
    (x : Session) (peer : Peer) (calls : List SocketCall) (result : Except Failure Unit)
    (u : World ω) : Prop where
  opening : w.Opening flags socket x calls u
  tried : Tried calls
  mayAnswer : ∀ f, result = .error f →
    env.MayAnswer (.connect socket peer.socketAddress) (.error f)
  trying : ∀ f, result = .error f → f.isSystem = true → Trying calls
  latest : ∀ f, result = .error f →
    calls.head? = some ⟨.connect socket peer.socketAddress, .failed f⟩

/-- A connect of the open's socket, repeated after interruptions. -/
theorem connectSocket_quiet (hh : h.Quiet) :
    ∀ (patience : Nat) (calls : List SocketCall) (u : World ω),
      w.Opening flags socket x calls u → Trying calls →
      Ends (w.OpenPart flags) (connectSocket h token socket peer patience) u
        (fun result u' => ∃ calls, Connects h.environment w flags socket x peer calls result u')
        (fun _ _ => False)
  | 0, calls, u, ho, ht => .of_stalled rfl (ho.part ht.tried)
  | patience + 1, calls, u, ho, ht => by
    have hs := ho.onSocket
    unfold connectSocket
    refine .quiet_bind hh (fun u' hc => ?_) fun reply u' hc => ?_
    · exact (ho.entered hc rfl).part (ht.connect socket hs _ _)
    have ho' := ho.called hc rfl
    have htried := ht.connect socket hs peer.socketAddress (.of reply)
    cases reply with
    | ok r => exact .pure (ho'.part htried) ⟨_, ho', htried, by simp, by simp, by simp⟩
    | error f =>
      have htrying := fun hsys : f.isSystem = true =>
        ht.connect_refused socket hs peer.socketAddress hsys
      have hend : ∃ calls, Connects h.environment w flags socket x peer calls (.error f) u' := by
        refine ⟨_, ho', htried, ?_, ?_, ?_⟩ <;> rintro g ⟨⟩
        · exact hc.mayAnswer
        · exact htrying
        · rfl
      dsimp only
      split
      · rename_i hi
        refine .isCancelled_bind ?_
        split
        · exact .pure (ho'.part htried) hend
        · exact connectSocket_quiet hh patience _ u' ho'
            (htrying (Failure.isSystem_of_isInterrupted hi))
      · exact .pure (ho'.part htried) hend

theorem connectSession_quiet (hh : h.Quiet) (ho : w.Opening flags socket x calls u)
    (ht : Trying calls) :
    Ends (w.OpenPart flags) (connectSession h token w.newcomer peer) u
      (fun result u' => ∃ calls, Connects h.environment w flags socket x peer calls result u')
      (fun _ _ => False) := by
  unfold connectSession
  refine .of_eq (bind_eq (session_some ho.get?) _) ?_
  rw [ho.socket_eq]
  exact connectSocket_quiet hh h.patience calls u ho ht

/-! ## The candidates in order -/

variable {a : Attempt}

theorem failCancelled_eq {α : Type} (ho : w.Opening flags socket x calls u) (host : String)
    (peer : Peer) (errno : Int) (cause : Option Failure) :
    (failCancelled w.newcomer host peer errno cause : Act ω α) u =
      (.failed (.backed (.connection w.now.registry.table.nextId · true) (some errno) cause),
        u.push (.noticed (.connectCancelled host peer.host x.fd))) := by
  unfold failCancelled
  rw [bind_eq (session_some ho.get?), ← ho.id]
  rfl

theorem failConnection_eq {α : Type} (ha : a.ref = w.newcomer)
    (ho : w.Opening flags socket x calls u) (last : Option Failure) :
    (failConnection a last : Act ω α) u =
      (.failed (.backed (.connection w.now.registry.table.nextId · false) (last.map (·.errnoOr))
        last), u.push (.noticed (.connectionFailed a.host a.port a.candidates))) := by
  have ho' := ho.notice (.connectionFailed a.host a.port a.candidates)
  have hnotice : Act.notice (.connectionFailed a.host a.port a.candidates) u =
      (.returned (), u.push (.noticed (.connectionFailed a.host a.port a.candidates))) := rfl
  unfold failConnection
  rw [bind_eq hnotice, ha, bind_eq (session_some ho'.get?), ← ho.id]
  rfl

/-- Why an open ends at a candidate that does not just refuse it, after the calls on its socket. -/
inductive Attempt.Stops (env : Environment ω) (a : Attempt) (socket : Socket) (id : Int)
    (bytes : Address.Bytes) (calls : List SocketCall) : Failure → Prop
  | malformed (e : PeerError)
    (he : Peer.ofFields { family := .known a.family, address := bytes, port := a.port } = .error e) :
    Stops env a socket id bytes calls (.of (.peer e))
  | cancelled :
    Stops env a socket id bytes calls
      (.backed (.connection id · true) (some Errno.interrupted) none)
  | noHandle (hd : Handle.ofInt? socket.descriptor = none) :
    Stops env a socket id bytes calls (.of (.lifecycle .notAttached))
  | interrupted (f : Failure) (hf : env.LastRefusal socket calls f) (hi : f.isInterrupted = true) :
    Stops env a socket id bytes calls (.backed (.connection id · true) (some f.errnoOr) (some f))
  | fault (f : Failure) (hf : env.LastRefusal socket calls f) (hs : f.isSystem = false) :
    Stops env a socket id bytes calls f

theorem Attempt.Stops.fails {id : Int} {bytes : Address.Bytes} {f : Failure}
    (hs : a.Stops env socket id bytes calls f) (last : Option Failure)
    (rest : List Address.Bytes) : a.Fails env socket id last (bytes :: rest) calls f := by
  cases hs with
  | malformed e he => exact .candidate bytes e (List.mem_cons_self ..) he
  | cancelled => exact .cancelled
  | noHandle hd => exact .noHandle hd
  | interrupted f hf hi => exact .interrupted f hf hi
  | fault f hf hs => exact .fault f hf hs

/-- What comes of the next candidate: the open ends there, or goes on with the rest. -/
inductive Attempt.Turn (h : Host ω) (a : Attempt) (w : World ω) (flags : SessionFlags)
    (socket : Socket) (x : Session) (u : World ω) (bytes : Address.Bytes)
    (rest : List Address.Bytes) : Outcome SessionRef × World ω → Prop
  | stopped (f : Failure) (x' : Session) (calls : List SocketCall) (v : World ω)
    (ho : w.Opening flags socket x' calls v) (ht : Tried calls)
    (hs : a.Stops h.environment socket w.now.registry.table.nextId bytes calls f) :
    Turn h a w flags socket x u bytes rest (.failed f, v)
  | connected (x' : Session) (calls : List SocketCall) (v : World ω)
    (ho : w.Opening flags socket x' calls v) (ht : Tried calls) (hx : x'.state = .connected) :
    Turn h a w flags socket x u bytes rest (.returned w.newcomer, v)
  | stalled (peer : Peer) (v : World ω)
    (hconnect : connectSession h a.token w.newcomer peer
      (u.setRegistry (u.now.registry.set w.newcomer (x.target peer))) = (.stalled, v))
    (hpart : w.OpenPart flags v) : Turn h a w flags socket x u bytes rest (.stalled, v)
  | refused (peer : Peer) (f : Failure) (calls : List SocketCall) (v : World ω)
    (hpeer : Peer.ofFields { family := .known a.family, address := bytes, port := a.port } =
      .ok peer)
    (ho : w.Opening flags socket (x.target peer) calls v) (ht : Trying calls)
    (hcall : calls.head? = some ⟨.connect socket peer.socketAddress, .failed f⟩)
    (hf : h.environment.MayAnswer (.connect socket peer.socketAddress) (.error f))
    (hs : f.isSystem = true) :
    Turn h a w flags socket x u bytes rest (tryCandidates h a (some f) rest v)

theorem tryCandidates_turn (hh : h.Quiet) (ha : a.ref = w.newcomer)
    (ho : w.Opening flags socket x calls u) (ht : Trying calls) (last : Option Failure)
    (bytes : Address.Bytes) (rest : List Address.Bytes) :
    a.Turn h w flags socket x u bytes rest (tryCandidates h a last (bytes :: rest) u) := by
  rw [tryCandidates]
  cases hpeer : Peer.ofFields { family := .known a.family, address := bytes, port := a.port } with
  | error e => exact .stopped _ x calls u ho ht.tried (.malformed e hpeer)
  | ok peer => ?_
  have hset : Act.isCancelled a.token u = (.returned (u.now.isSet a.token), u) := rfl
  dsimp only
  rw [bind_eq hset, ha]
  by_cases hcancelled : u.now.isSet a.token = true
  · rw [if_pos hcancelled, failCancelled_eq ho]
    exact .stopped _ x calls _ (ho.notice _) ht.tried .cancelled
  have htarget : Act.changeSession w.newcomer (fun s => .ok (s.target peer)) u =
      (.returned (), u.setRegistry (u.now.registry.set w.newcomer (x.target peer))) :=
    changeSession_ok ho.get? rfl
  rw [if_neg hcancelled, bind_eq htarget]
  have hconnect : Ends _ (connectSession h a.token w.newcomer peer) _ _ _ :=
    connectSession_quiet hh (ho.targeted peer) ht
  rcases hrun : connectSession h a.token w.newcomer peer
    (u.setRegistry (u.now.registry.set w.newcomer (x.target peer))) with ⟨o, v⟩
  cases o with
  | failed f => exact (hconnect.failed f (by rw [hrun])).elim
  | stalled =>
    have hpart := hconnect.always
    rw [hrun] at hpart
    rw [bind_stalled hrun]
    exact .stalled peer v hrun hpart
  | returned result =>
    obtain ⟨-, calls', hresult⟩ := hconnect.of_eq_returned hrun
    have ho' := hresult.opening
    have ht' := hresult.tried
    rw [bind_eq hrun]
    cases result with
    | ok r =>
      dsimp only
      cases hy : (x.target peer).markConnected peer with
      | ok y =>
        obtain ⟨-, rfl⟩ := markConnected_eq_ok hy
        have hjoined := ho'.set (y := (x.target peer).joined peer) rfl rfl rfl rfl
        rw [bind_eq (changeSession_ok ho'.get? hy), bind_eq (session_some hjoined.get?)]
        exact .connected _ calls' _ (hjoined.notice _) ht' rfl
      | error e =>
        obtain ⟨hclosed, rfl⟩ := markConnected_eq_error hy
        rw [bind_failed (changeSession_error ho'.get? hy)]
        exact .stopped _ _ calls' v ho' ht' (.noHandle (ho'.handle.symm.trans hclosed))
    | error f =>
      have hf := hresult.mayAnswer f rfl
      have hcall := hresult.latest f rfl
      dsimp only
      split
      · rename_i hi
        rw [failCancelled_eq ho']
        exact .stopped _ _ calls' _ (ho'.notice _) ht' (.interrupted f ⟨_, hcall, hf⟩ hi)
      split
      · rename_i hsys
        have hnotice : Act.notice (.attemptFailed peer.host a.port f.reason.errno?) v = (.returned (),
            v.push (.noticed (.attemptFailed peer.host a.port f.reason.errno?))) := rfl
        rw [bind_eq hnotice]
        exact .refused peer f calls' _ hpeer (ho'.notice _) (hresult.trying f rfl hsys) hcall hf hsys
      · rename_i hsys
        exact .stopped f _ calls' v ho' ht' (.fault f ⟨_, hcall, hf⟩ (by simpa using hsys))

theorem tryCandidates_quiet (hh : h.Quiet) (ha : a.ref = w.newcomer) :
    ∀ (candidates : List Address.Bytes) (last : Option Failure) (x : Session)
      (calls : List SocketCall) (u : World ω),
      w.Opening flags socket x calls u → Trying calls →
      (∀ f ∈ last, f.isSystem = true ∧ h.environment.LastRefusal socket calls f) →
      Ends (w.OpenPart flags) (tryCandidates h a last candidates) u
        (fun ref u' => ref = w.newcomer ∧ ∃ x calls, w.Opening flags socket x calls u' ∧
          Tried calls ∧ x.state = .connected)
        (fun f u' => ∃ x calls, w.Opening flags socket x calls u' ∧ Tried calls ∧
          a.Fails h.environment socket w.now.registry.table.nextId last candidates calls f)
  | [], last, x, calls, u, ho, ht, hlast => by
    have hfails : a.Fails h.environment socket w.now.registry.table.nextId last [] calls
        (.backed (.connection w.now.registry.table.nextId · false) (last.map (·.errnoOr)) last) := by
      cases last with
      | none => exact .noCandidates rfl rfl
      | some g =>
        obtain ⟨hsys, hg⟩ := hlast g rfl
        exact .refused g hg hsys
    exact .of_failed (failConnection_eq ha ho last) ((ho.notice _).part ht.tried)
      ⟨x, calls, ho.notice _, ht.tried, hfails⟩
  | bytes :: rest, last, x, calls, u, ho, ht, hlast => by
    have hturn := tryCandidates_turn hh ha ho ht last bytes rest
    generalize hrun : tryCandidates h a last (bytes :: rest) u = result at hturn
    cases hturn with
    | stopped f x' calls' v ho' ht' hs =>
      exact .of_failed hrun (ho'.part ht') ⟨x', calls', ho', ht', hs.fails last rest⟩
    | connected x' calls' v ho' ht' hx =>
      exact .of_returned hrun (ho'.part ht') ⟨rfl, x', calls', ho', ht', hx⟩
    | stalled peer v hconnect hpart => exact .of_stalled hrun hpart
    | refused peer f calls' v hpeer ho' ht' hcall hf hs =>
      refine .of_eq hrun ((tryCandidates_quiet hh ha rest (some f) _ calls' v ho' ht' ?_).mono
        (fun _ _ hp => hp) ?_)
      · intro g hg
        obtain rfl : f = g := by simpa using hg
        exact ⟨hs, _, hcall, hf⟩
      · rintro g v' ⟨x'', calls'', ho'', ht'', hfails⟩
        exact ⟨x'', calls'', ho'', ht'', hfails.cons⟩

/-! ## Registering -/

/-- A new session gets the socket that the factory replies with. If the factory refuses one, the
session is dropped again, and it is kept if the factory fails otherwise. -/
theorem register_called (hh : h.Quiet) (family : Family) (flags : SessionFlags) :
    Ends (w.OpenPart flags) (register h token family flags) w
      (fun ref u => ref = w.newcomer ∧ ∃ d x v,
        (w.setRegistry (w.now.registry.create flags).2).Called h.environment token
          (.createSocket family) (.ok d) v ∧
        u.past = v.past ∧ w.Opening flags (w.nextSocket d) x [] u)
      (fun f u => ∃ g v,
        (w.setRegistry (w.now.registry.create flags).2).Called h.environment token
          (.createSocket family) (.error g) v ∧
        u.past = v.past ∧ u.now.sockets = w.now.sockets ∧
        if g.isSystem then
          f = .backed .socketCreation (some g.errnoOr) (some g) ∧
            u.now.registry = ((w.now.registry.create flags).2.remove w.newcomer).2
        else f = g ∧ u.now.registry = (w.now.registry.create flags).2) := by
  unfold register
  refine .onRegistry_bind ?_
  refine .quiet_bind hh (fun u hu => .inl (hu.lookedUp rfl).calls) fun reply u hc => ?_
  have hl := hc.lookedUp rfl
  cases reply with
  | error g =>
    refine .of_eq (bind_eq rfl _) ?_
    dsimp only
    split
    · rename_i hs
      refine .onRegistry_bind (.fail (.inl hl.calls) ⟨g, u, hc, rfl, hl.sockets, ?_⟩)
      rw [if_pos hs]
      exact ⟨rfl, congrArg (fun r : Registry => (r.remove w.newcomer).2) hc.registry⟩
    · rename_i hs
      refine .fail (.inl hl.calls) ⟨g, u, hc, rfl, hl.sockets, ?_⟩
      rw [if_neg hs]
      exact ⟨rfl, hc.registry⟩
  | ok d =>
    have hnew : u.now.registry.get? w.newcomer =
        some { id := w.now.registry.table.nextId, flags } := by
      rw [hc.registry]
      exact Registry.get?_create_new w.now.registry flags
    have hsocket : (⟨u.now.sockets.length, d⟩ : Socket) = w.nextSocket d := by
      rw [hc.sockets]
      rfl
    refine .of_eq (bind_eq (m := Host.socketFrom _) rfl _) ?_
    refine .changeSession_bind hnew (fun y hy => ?_) (fun e he => ?_)
    · rw [attach_created rfl, hsocket] at hy
      obtain rfl := Except.ok.inj hy
      have ho : w.Opening flags (w.nextSocket d)
          (Session.bound (w.nextSocket d) { id := w.now.registry.table.nextId, flags }) []
          (World.setRegistry { u with now := { u.now with
            sockets := u.now.sockets ++ [⟨u.now.sockets.length, d⟩] } }
            (u.now.registry.set w.newcomer
              (Session.bound (w.nextSocket d) { id := w.now.registry.table.nextId, flags }))) := {
        registry := by
          show u.now.registry.set w.newcomer _ = _
          rw [hc.registry]
          rfl
        sockets := by
          show u.now.sockets ++ [_] = _
          rw [hsocket, hc.sockets]
          rfl
        serial := rfl
        id := rfl
        flags := rfl
        handle := rfl
        socket_eq := rfl
        calls := hl.calls _
        others := fun s _ => hl.calls s }
      exact .pure (ho.part trying_nil.tried) ⟨rfl, d, _, u, hc, rfl, ho⟩
    · rw [attach_created rfl] at he
      cases he

/-- A new session gets a new socket, unless the factory refuses one. -/
theorem register_quiet (hh : h.Quiet) (family : Family) (flags : SessionFlags) :
    Ends (w.OpenPart flags) (register h token family flags) w
      (fun ref u => ref = w.newcomer ∧ ∃ d x,
        h.environment.MayAnswer (.createSocket family) (.ok d) ∧
          w.Opening flags (w.nextSocket d) x [] u)
      (fun f u => w.Unmade flags u ∧ ∃ g,
        h.environment.MayAnswer (.createSocket family) (.error g) ∧
          f = if g.isSystem then .backed .socketCreation (some g.errnoOr) (some g) else g) := by
  refine (register_called hh family flags).mono ?_ ?_
  · rintro ref u ⟨href, d, x, v, hc, -, ho⟩
    exact ⟨href, d, x, hc.mayAnswer, ho⟩
  · rintro f u ⟨g, v, hc, hp, hsockets, hend⟩
    have hcalls : ∀ s, socketCalls s u.past = socketCalls s w.past := by
      intro s
      rw [hp]
      exact (hc.lookedUp rfl).calls s
    split at hend
    · rename_i hs
      exact ⟨⟨.inr hend.2, hsockets, hcalls⟩, g, hc.mayAnswer, by rw [if_pos hs, hend.1]⟩
    · rename_i hs
      exact ⟨⟨.inl hend.2, hsockets, hcalls⟩, g, hc.mayAnswer, by rw [if_neg hs, hend.1]⟩

theorem enableInline_quiet (m : Manager) (hh : h.Quiet) (ho : w.Opening flags socket x [] u) :
    Ends (w.OpenPart flags) (m.enableInline h token w.newcomer) u
      (fun _ u' => ∃ calls, w.Opening flags socket x calls u' ∧ Trying calls)
      (fun f u' => ∃ calls, w.Opening flags socket x calls u' ∧ Tried calls ∧
        h.environment.MayAnswer (.setInline socket) (.error f) ∧ f.isSystem = false) := by
  unfold enableInline
  refine .of_eq (bind_eq (session_some ho.get?) _) ?_
  rw [ho.socket_eq]
  dsimp only
  split
  · refine .quiet_bind hh (fun u' hc => ?_) fun reply u' hc => ?_
    · exact (ho.entered hc rfl).part (trying_option socket _).tried
    have ho' := ho.called hc rfl
    have ht := trying_option socket (.of reply)
    cases reply with
    | ok r => exact .pure (ho'.part ht.tried) ⟨_, ho', ht⟩
    | error f =>
      dsimp only
      split
      · refine .of_eq (bind_eq (session_some ho'.get?) _) ?_
        exact .of_returned rfl ((ho'.notice _).part ht.tried) ⟨_, ho'.notice _, ht⟩
      · rename_i hs
        exact .fail (ho'.part ht.tried) ⟨_, ho', ht.tried, hc.mayAnswer, by simpa using hs⟩
  · exact .pure (ho.part trying_nil.tried) ⟨[], ho, trying_nil⟩

/-! ## Opening -/

/-- How an open fails, and what it leaves. -/
inductive OpenFails (m : Manager) (h : Host ω) (r : OpenRequest) (w : World ω) :
    Failure → World ω → Prop
  | check (f : Failure)
    (hf : checkPort (r.port.getD m.defaultPort) = .error f ∨ m.checkFamily r.family = .error f) :
    OpenFails m h r w f w
  | unresolved (family : Family) (f : Failure) (u : World ω) (hl : w.LookedUp u)
    (hfamily : m.checkFamily r.family = .ok family)
    (hf : m.Unresolved h r.token r.host family w f) : OpenFails m h r w f u
  | unmade (family : Family) (f : Failure) (u : World ω) (hu : w.Unmade r.flags u)
    (hf : h.environment.MayAnswer (.createSocket family) (.error f)) :
    OpenFails m h r w
      (if f.isSystem then .backed .socketCreation (some f.errnoOr) (some f) else f) u
  | option (socket : Socket) (x : Session) (calls : List SocketCall) (f : Failure) (u : World ω)
    (ho : w.Opening r.flags socket x calls u) (ht : Tried calls)
    (hf : h.environment.MayAnswer (.setInline socket) (.error f)) (hs : f.isSystem = false) :
    OpenFails m h r w f u
  | attempt (a : Attempt) (candidates : List Address.Bytes) (d : Int) (x : Session)
    (calls : List SocketCall) (f : Failure) (u : World ω)
    (hport : checkPort (r.port.getD m.defaultPort) = .ok a.port)
    (hfamily : m.checkFamily r.family = .ok a.family)
    (hcandidates : (m.resolve h r.token r.host a.family w).1 = .returned candidates)
    (hd : h.environment.MayAnswer (.createSocket a.family) (.ok d))
    (ho : w.Opening r.flags (w.nextSocket d) x calls u) (ht : Tried calls)
    (hf : a.Fails h.environment (w.nextSocket d) w.now.registry.table.nextId none candidates calls
      f) :
    OpenFails m h r w f u

theorem openSession_quiet (m : Manager) (hh : h.Quiet) (r : OpenRequest) :
    Ends (w.OpenPart r.flags) (m.openSession h r) w
      (fun ref u => ref = w.newcomer ∧ ∃ socket x calls, w.Opening r.flags socket x calls u ∧
        Tried calls ∧ x.state = .connected)
      (fun f u => m.OpenFails h r w f u) := by
  unfold openSession
  refine .ofExcept_bind (fun port hport => ?_)
    (fun f hf => ⟨.inl fun _ => rfl, .check f (.inl hf)⟩)
  refine .ofExcept_bind (fun family hfamily => ?_)
    (fun f hf => ⟨.inl fun _ => rfl, .check f (.inr hf)⟩)
  refine .bind ((candidatesOf_quiet m hh r.host family).imp (fun u hl => .inl hl.calls)
    (fun candidates u hl hr => And.intro hl hr)
    (fun f u hl hf => .unresolved family f u hl hfamily hf)) ?_
  rintro candidates w₁ - ⟨hl, hcandidates⟩
  have hnext : ∀ d, w₁.nextSocket d = w.nextSocket d := by
    intro d
    rw [nextSocket, nextSocket, hl.sockets]
  refine .bind ((register_quiet hh family r.flags).imp (fun u hp => hl.openPart hp)
    (fun ref u _ hp => hp) ?_) ?_
  · rintro f u - ⟨hu, g, hg, rfl⟩
    exact .unmade family g u (hu.of_lookedUp hl) hg
  rintro ref w₂ - ⟨rfl, d, x, hd, ho⟩
  rw [hnext] at ho
  refine .bind ((enableInline_quiet m hh ho).imp (fun u hp => hl.openPart hp)
    (fun _ u _ hp => hp) ?_) ?_
  · rintro f u - ⟨calls, ho', ht, hf, hs⟩
    exact .option _ x calls f u (ho'.of_lookedUp hl) ht hf hs
  rintro _ w₃ - ⟨calls, ho₃, ht⟩
  refine (tryCandidates_quiet hh rfl candidates none x calls w₃ ho₃ ht (by simp)).imp
    (fun u hp => hl.openPart hp) ?_ ?_
  · rintro ref u - ⟨rfl, x', calls', ho', ht', hs⟩
    exact ⟨hl.newcomer, _, x', calls', ho'.of_lookedUp hl, ht', hs⟩
  · rintro f u - ⟨x', calls', ho', ht', hf⟩
    rw [hl.registry] at hf
    exact .attempt _ candidates d x' calls' f u hport hfamily hcandidates hd (ho'.of_lookedUp hl)
      ht' hf

end Manager
end TcpSessions
