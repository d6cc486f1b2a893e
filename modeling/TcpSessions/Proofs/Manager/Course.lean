import TcpSessions.Proofs.Manager.Exchanges
import TcpSessions.Proofs.Manager.Patience
/-!
# The course of an open over its candidates

`Attempt.Course` says what an open does from its first candidate on, in terms of the replies to its
connects alone: which connects it makes, whether the token was set when each of them was left, and
how it ends. `Manager.tryCandidates_course` is by induction over the candidates. What is claimed of
all candidates together can then be shown by the cases of a course, without looking at any world.
-/
namespace TcpSessions

open Act World

variable {ω α β : Type} {h : Host ω} {w u v : World ω} {token : Option TokenId}
variable {flags : SessionFlags} {socket : Socket} {x : Session} {calls : List SocketCall}
variable {address : SocketAddress} {peer : Peer} {patience : Nat}

/-- The same end with another result. -/
def Outcome.map (f : α → β) : Outcome α → Outcome β
  | .returned a => .returned (f a)
  | .failed e => .failed e
  | .stalled => .stalled

theorem Outcome.map_eq_returned {f : α → β} {o : Outcome α} {b : β} :
    o.map f = .returned b ↔ ∃ a, o = .returned a ∧ f a = b := by
  cases o <;> simp [Outcome.map]

theorem Outcome.map_eq_failed {f : α → β} {o : Outcome α} {e : Failure} :
    o.map f = .failed e ↔ o = .failed e := by
  cases o <;> simp [Outcome.map]

@[simp] theorem Outcome.map_map {γ : Type} (f : α → β) (g : β → γ) (o : Outcome α) :
    (o.map f).map g = o.map fun a => g (f a) := by
  cases o <;> rfl

/-- A connect that was made and answered. -/
structure Connect where
  socket : Socket
  address : SocketAddress
  reply : Except Failure Unit
  /-- Whether the token of the open was set when the connect was left. -/
  isSet : Bool

/-- The connect that an exchange is, seen by an open that obeys a token. -/
def Exchange.connect? (token : Option TokenId) : Exchange → Option Connect
  | ⟨.connect socket address, reply, now⟩ => some ⟨socket, address, reply, now.isSet token⟩
  | _ => none

theorem Exchange.connect?_eq_none {e : Exchange} (h : e.call.socket? = none) :
    e.connect? token = none := by
  obtain ⟨c, reply, now⟩ := e
  cases c with
  | connect socket address => cases h
  | _ => rfl

/-- Connects of a socket to an address that were interrupted while the token was not set. -/
def interrupted (socket : Socket) (address : SocketAddress) (interruptions : List Failure) :
    List Connect :=
  interruptions.map fun f => ⟨socket, address, .error f, false⟩

/-- The connects of a socket to an address: some that were interrupted, and the one that ended
them. -/
def dials (socket : Socket) (address : SocketAddress) (interruptions : List Failure)
    (reply : Except Failure Unit) (isSet : Bool) : List Connect :=
  interrupted socket address interruptions ++ [⟨socket, address, reply, isSet⟩]

namespace World.Opening

/-- The session of an open has a handle if and only if its socket reports a descriptor. -/
theorem descriptor_ne (ho : w.Opening flags socket x calls u) (hx : x.isOpen = true) :
    socket.descriptor ≠ -1 := by
  intro hd
  rw [Session.isOpen, ho.handle] at hx
  simp [Handle.ofInt?, hd] at hx

theorem descriptor_eq (ho : w.Opening flags socket x calls u) (hx : x.handle = none) :
    socket.descriptor = -1 := by
  by_contra hd
  rw [ho.handle] at hx
  simp [Handle.ofInt?, hd] at hx

end World.Opening

namespace Manager

/-! ## One candidate -/

/-- How connecting a socket to an address ends: with the reply to the last connect, or by giving up
after as many interruptions as there is patience for. -/
inductive Dialled (token : Option TokenId) (w : World ω) (flags : SessionFlags) (socket : Socket)
    (x : Session) (address : SocketAddress) (patience : Nat) (u : World ω) :
    Outcome (Except Failure Unit) × World ω → Prop
  | answered (interruptions : List Failure) (reply : Except Failure Unit)
    (calls : List SocketCall) (v : World ω) (ho : w.Opening flags socket x calls v)
    (hi : ∀ f ∈ interruptions, f.isInterrupted = true)
    (htold : u.Told (Exchange.connect? token)
      (dials socket address interruptions reply (v.now.isSet token)) v)
    (hreply : ∀ f, reply = .error f → f.isInterrupted = true → v.now.isSet token = true) :
    Dialled token w flags socket x address patience u (.returned reply, v)
  | worn (interruptions : List Failure) (calls : List SocketCall) (v : World ω)
    (ho : w.Opening flags socket x calls v) (hl : interruptions.length = patience)
    (hi : ∀ f ∈ interruptions, f.isInterrupted = true)
    (htold : u.Told (Exchange.connect? token) (interrupted socket address interruptions) v) :
    Dialled token w flags socket x address patience u (.stalled, v)

/-- One more interruption before. -/
theorem Dialled.again {f : Failure} {result : Outcome (Except Failure Unit) × World ω}
    (hi : f.isInterrupted = true)
    (htold : u.Told (Exchange.connect? token) [⟨socket, address, .error f, false⟩] v)
    (hd : Dialled token w flags socket x address patience v result) :
    Dialled token w flags socket x address (patience + 1) u result := by
  cases hd with
  | answered interruptions reply calls v' ho his htold' hreply =>
    refine .answered (f :: interruptions) reply calls v' ho ?_ (htold.trans htold') hreply
    simpa [hi] using his
  | worn interruptions calls v' ho hl his htold' =>
    refine .worn (f :: interruptions) calls v' ho (by simp [hl]) ?_ (htold.trans htold')
    simpa [hi] using his

theorem connectSocket_dialled (hh : h.Quiet) (hp : h.Prompt) (peer : Peer) :
    ∀ (patience : Nat) (calls : List SocketCall) (u : World ω),
      w.Opening flags socket x calls u →
      Dialled token w flags socket x peer.socketAddress patience u
        (connectSocket h token socket peer patience u)
  | 0, calls, u, ho => .worn [] calls u ho rfl (by simp) (.refl _ u)
  | patience + 1, calls, u, ho => by
    rcases hh.call_cases token (.connect socket peer.socketAddress) u with
      ⟨reply, v, hcall, hc⟩ | ⟨v, hcall, -⟩
    case inr => exact absurd (by rw [hcall]) (hp.call token (.connect socket peer.socketAddress) u)
    have ho' := ho.called hc rfl
    have htold : u.Told (Exchange.connect? token)
        [⟨socket, peer.socketAddress, reply, v.now.isSet token⟩] v := hc.told rfl
    rw [connectSocket, bind_eq hcall]
    -- a reply ends the connects unless it is an interruption while the token is not set
    have hend : (∀ f, reply = .error f → f.isInterrupted = true → v.now.isSet token = true) →
        Dialled token w flags socket x peer.socketAddress (patience + 1) u (.returned reply, v) :=
      fun hreply => .answered [] reply _ v ho' (by simp) htold hreply
    cases reply with
    | ok r => exact hend nofun
    | error f =>
      dsimp only
      split
      case isFalse hi =>
        refine hend fun g hg hgi => ?_
        obtain rfl := Except.error.inj hg
        exact absurd hgi hi
      rename_i hi
      have hset : Act.isCancelled token v = (.returned (v.now.isSet token), v) := rfl
      rw [bind_eq hset]
      cases hs : v.now.isSet token with
      | true => exact hend fun _ _ _ => hs
      | false =>
        rw [hs] at htold
        exact (connectSocket_dialled hh hp peer patience _ v ho').again hi htold

theorem connectSession_dialled (hh : h.Quiet) (hp : h.Prompt) (token : Option TokenId)
    (ho : w.Opening flags socket x calls u) (peer : Peer) :
    Dialled token w flags socket x peer.socketAddress h.patience u
      (connectSession h token w.newcomer peer u) := by
  rw [connectSession, bind_eq (session_some ho.get?), ho.socket_eq]
  exact connectSocket_dialled hh hp peer h.patience calls u ho

/-! ## All candidates -/

/-- The endpoint that an attempt makes of a candidate. -/
abbrev Attempt.endpoint (a : Attempt) (bytes : Address.Bytes) : Except PeerError Peer :=
  Peer.ofFields { family := .known a.family, address := bytes, port := a.port }

/-- What an attempt does about its candidates when the token is set, or not, and `last` is the
latest refusal: the connects it makes, and the endpoint that it connects to or how it fails. -/
inductive Attempt.Course (a : Attempt) (id : Int) (socket : Socket) (patience : Nat) :
    Bool → Option Failure → List Address.Bytes → List Connect → Outcome Peer → Prop
  | exhausted {set : Bool} {last : Option Failure} :
    Course a id socket patience set last [] []
      (.failed (.backed (.connection id · false) (last.map (·.errnoOr)) last))
  | malformed {set : Bool} {last : Option Failure} {bytes : Address.Bytes}
    {rest : List Address.Bytes} (e : PeerError) (he : a.endpoint bytes = .error e) :
    Course a id socket patience set last (bytes :: rest) [] (.failed (.of (.peer e)))
  | barred {last : Option Failure} {bytes : Address.Bytes} {rest : List Address.Bytes}
    (peer : Peer) (hpeer : a.endpoint bytes = .ok peer) :
    Course a id socket patience true last (bytes :: rest) []
      (.failed (.backed (.connection id · true) (some Errno.interrupted) none))
  | connected {last : Option Failure} {bytes : Address.Bytes} {rest : List Address.Bytes}
    (peer : Peer) (interruptions : List Failure) (set : Bool)
    (hpeer : a.endpoint bytes = .ok peer) (hi : ∀ f ∈ interruptions, f.isInterrupted = true)
    (hd : socket.descriptor ≠ -1) :
    Course a id socket patience false last (bytes :: rest)
      (dials socket peer.socketAddress interruptions (.ok ()) set) (.returned peer)
  | noHandle {last : Option Failure} {bytes : Address.Bytes} {rest : List Address.Bytes}
    (peer : Peer) (interruptions : List Failure) (set : Bool)
    (hpeer : a.endpoint bytes = .ok peer) (hd : socket.descriptor = -1) :
    Course a id socket patience false last (bytes :: rest)
      (dials socket peer.socketAddress interruptions (.ok ()) set)
      (.failed (.of (.lifecycle .notAttached)))
  | interrupted {last : Option Failure} {bytes : Address.Bytes} {rest : List Address.Bytes}
    (peer : Peer) (interruptions : List Failure) (f : Failure)
    (hpeer : a.endpoint bytes = .ok peer) (hi : ∀ f ∈ interruptions, f.isInterrupted = true)
    (hf : f.isInterrupted = true) :
    Course a id socket patience false last (bytes :: rest)
      (dials socket peer.socketAddress interruptions (.error f) true)
      (.failed (.backed (.connection id · true) (some f.errnoOr) (some f)))
  | refused {last : Option Failure} {bytes : Address.Bytes} {rest : List Address.Bytes}
    {connects : List Connect} {outcome : Outcome Peer} (peer : Peer)
    (interruptions : List Failure) (f : Failure) (set : Bool)
    (hpeer : a.endpoint bytes = .ok peer) (hi : ∀ f ∈ interruptions, f.isInterrupted = true)
    (hf : f.isInterrupted = false) (hs : f.isSystem = true)
    (hrest : Course a id socket patience set (some f) rest connects outcome) :
    Course a id socket patience false last (bytes :: rest)
      (dials socket peer.socketAddress interruptions (.error f) set ++ connects) outcome
  | fault {last : Option Failure} {bytes : Address.Bytes} {rest : List Address.Bytes}
    (peer : Peer) (interruptions : List Failure) (f : Failure) (set : Bool)
    (hpeer : a.endpoint bytes = .ok peer) (hs : f.isSystem = false) :
    Course a id socket patience false last (bytes :: rest)
      (dials socket peer.socketAddress interruptions (.error f) set) (.failed f)
  | worn {last : Option Failure} {bytes : Address.Bytes} {rest : List Address.Bytes}
    (peer : Peer) (interruptions : List Failure) (hpeer : a.endpoint bytes = .ok peer)
    (hl : interruptions.length = patience)
    (hi : ∀ f ∈ interruptions, f.isInterrupted = true) :
    Course a id socket patience false last (bytes :: rest)
      (TcpSessions.interrupted socket peer.socketAddress interruptions) .stalled

/-- A run over candidates follows a course: it makes these connects, it ends in this way, and a
session that was connected says so. -/
inductive Attempt.Follows (a : Attempt) (h : Host ω) (w : World ω) (flags : SessionFlags)
    (socket : Socket) (u : World ω) (last : Option Failure) (candidates : List Address.Bytes) :
    Outcome SessionRef × World ω → Prop
  | intro (connects : List Connect) (outcome : Outcome Peer) (x : Session)
    (calls : List SocketCall) (v : World ω)
    (hcourse : a.Course w.now.registry.table.nextId socket h.patience (u.now.isSet a.token) last
      candidates connects outcome)
    (htold : u.Told (Exchange.connect? a.token) connects v)
    (ho : w.Opening flags socket x calls v)
    (hx : ∀ peer, outcome = .returned peer → x.state = .connected ∧ x.peer = some peer) :
    Follows a h w flags socket u last candidates (outcome.map fun _ => w.newcomer, v)

theorem Attempt.Follows.failed {a : Attempt} {candidates : List Address.Bytes}
    {last : Option Failure} {connects : List Connect} {f : Failure}
    (hcourse : a.Course w.now.registry.table.nextId socket h.patience (u.now.isSet a.token) last
      candidates connects (.failed f))
    (htold : u.Told (Exchange.connect? a.token) connects v)
    (ho : w.Opening flags socket x calls v) :
    a.Follows h w flags socket u last candidates (.failed f, v) :=
  .intro connects (.failed f) x calls v hcourse htold ho nofun

/-- The rest of the candidates follows a course after one that refused. -/
theorem Attempt.Follows.refused {a : Attempt} {bytes : Address.Bytes} {rest : List Address.Bytes}
    {last : Option Failure} {interruptions : List Failure} {f : Failure}
    {result : Outcome SessionRef × World ω} (hpeer : a.endpoint bytes = .ok peer)
    (hi : ∀ f ∈ interruptions, f.isInterrupted = true) (hf : f.isInterrupted = false)
    (hs : f.isSystem = true) (hset : u.now.isSet a.token = false)
    (htold : u.Told (Exchange.connect? a.token)
      (dials socket peer.socketAddress interruptions (.error f) (v.now.isSet a.token)) v)
    (hrest : a.Follows h w flags socket v (some f) rest result) :
    a.Follows h w flags socket u last (bytes :: rest) result := by
  obtain ⟨connects, outcome, x, calls, v', hcourse, htold', ho, hx⟩ := hrest
  refine .intro _ outcome x calls v' ?_ (htold.trans htold') ho hx
  rw [hset]
  exact .refused peer interruptions f _ hpeer hi hf hs hcourse

theorem tryCandidates_course (hh : h.Quiet) (hp : h.Prompt) {a : Attempt}
    (ha : a.ref = w.newcomer) :
    ∀ (candidates : List Address.Bytes) (last : Option Failure) (x : Session)
      (calls : List SocketCall) (u : World ω), w.Opening flags socket x calls u →
      a.Follows h w flags socket u last candidates (tryCandidates h a last candidates u)
  | [], last, x, calls, u, ho => by
    rw [tryCandidates, failConnection_eq ha ho last]
    exact .failed .exhausted ((Told.refl _ u).notice _) (ho.notice _)
  | bytes :: rest, last, x, calls, u, ho => by
    rw [tryCandidates]
    cases hpeer : Peer.ofFields { family := .known a.family, address := bytes, port := a.port } with
    | error e =>
      exact .failed (.malformed e hpeer) (.refl _ u) ho
    | ok peer => ?_
    have hset : Act.isCancelled a.token u = (.returned (u.now.isSet a.token), u) := rfl
    dsimp only
    rw [bind_eq hset, ha]
    cases hs : u.now.isSet a.token with
    | true =>
      rw [if_pos rfl, failCancelled_eq ho]
      refine .failed ?_ ((Told.refl _ u).notice _) (ho.notice _)
      rw [hs]
      exact .barred peer hpeer
    | false => ?_
    have htarget : Act.changeSession w.newcomer (fun s => .ok (s.target peer)) u =
        (.returned (), u.setRegistry (u.now.registry.set w.newcomer (x.target peer))) :=
      changeSession_ok ho.get? rfl
    rw [if_neg Bool.false_ne_true, bind_eq htarget]
    have hdialled := connectSession_dialled hh hp a.token (ho.targeted peer) peer
    generalize hrun : connectSession h a.token w.newcomer peer
      (u.setRegistry (u.now.registry.set w.newcomer (x.target peer))) = result at hdialled
    cases hdialled with
    | worn interruptions calls' v ho' hl hi htold =>
      rw [bind_stalled hrun]
      refine .intro _ .stalled _ calls' v ?_ htold ho' fun _ hreturned => by cases hreturned
      rw [hs]
      exact .worn peer interruptions hpeer hl hi
    | answered interruptions reply calls' v ho' hi htold hreply =>
    rw [bind_eq hrun]
    cases reply with
    | ok r =>
      dsimp only
      cases hy : (x.target peer).markConnected peer with
      | ok y =>
        obtain ⟨hopen, rfl⟩ := markConnected_eq_ok hy
        have hjoined := ho'.set (y := (x.target peer).joined peer) rfl rfl rfl rfl
        rw [bind_eq (changeSession_ok ho'.get? hy), bind_eq (session_some hjoined.get?)]
        refine .intro _ (.returned peer) _ calls' _ ?_ (htold.notice _) (hjoined.notice _) ?_
        · rw [hs]
          exact .connected peer interruptions _ hpeer hi (ho'.descriptor_ne hopen)
        · intro p hp
          obtain rfl := Outcome.returned.inj hp
          exact ⟨rfl, rfl⟩
      | error e =>
        obtain ⟨hclosed, rfl⟩ := markConnected_eq_error hy
        rw [bind_failed (changeSession_error ho'.get? hy)]
        refine .failed ?_ htold ho'
        rw [hs]
        exact .noHandle peer interruptions _ hpeer (ho'.descriptor_eq hclosed)
    | error f =>
      dsimp only
      split
      · rename_i hf
        rw [failCancelled_eq ho']
        refine .failed ?_ (htold.notice _) (ho'.notice _)
        rw [hs, hreply f rfl hf]
        exact .interrupted peer interruptions f hpeer hi hf
      rename_i hf
      split
      · rename_i hsys
        have hnotice : Act.notice (.attemptFailed peer.host a.port f.reason.errno?) v =
            (.returned (),
              v.push (.noticed (.attemptFailed peer.host a.port f.reason.errno?))) := rfl
        rw [bind_eq hnotice]
        exact .refused hpeer hi (by simpa using hf) hsys hs (htold.notice _)
          (tryCandidates_course hh hp ha rest (some f) _ calls' _ (ho'.notice _))
      · rename_i hsys
        refine .failed ?_ htold ho'
        rw [hs]
        exact .fault peer interruptions f _ hpeer (by simpa using hsys)

end Manager
end TcpSessions
