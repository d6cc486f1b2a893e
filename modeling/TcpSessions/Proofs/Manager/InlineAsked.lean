import TcpSessions.Proofs.Manager.Primitives
import TcpSessions.Proofs.Session.Validity
/-!
# Sockets that are asked for inline delivery

A manager with the option asks every socket that a factory returns to deliver urgent data inline,
once, and before it connects the socket, whatever requests are nested in its calls
(`Environment.asks_each_once`). Between the attachment of a socket and the question nothing else
happens, so that only there a socket is pending (`World.Asks`).
-/
namespace TcpSessions

open Act

variable {ω α : Type} {env : Environment ω} {h : Host ω} {m : Manager} {w u : World ω}
variable {pending made : List Socket} {socket : Socket} {ref : SessionRef} {x y : Session}
variable {token : Option TokenId} {c : Call} {e : Event}

/-- The socket that an event asks to deliver urgent data inline. -/
def Event.asks? : Event → Option Socket
  | .entered (.setInline s) _ _ => some s
  | _ => none

/-- The socket on which an event enters a connect. -/
def Event.connects? : Event → Option Socket
  | .entered (.connect s _) _ _ => some s
  | _ => none

/-- The sockets that were asked to deliver urgent data inline, latest first. -/
def asked (past : List Event) : List Socket := past.filterMap Event.asks?

/-- Connects were entered only on sockets that had been asked before. -/
def AskedFirst : List Event → Prop
  | [] => True
  | e :: past => (∀ s, e.connects? = some s → s ∈ asked past) ∧ AskedFirst past

/-- All sockets but the pending ones were asked in the order in which they were made, and before
they were connected. Sessions have only sockets that were made; `made` names some of those. -/
structure World.Asks (pending made : List Socket) (w : World ω) : Prop where
  sockets : pending ++ asked w.past = w.now.sockets.reverse
  first : AskedFirst w.past
  sessions : ∀ {ref x s}, w.now.registry.get? ref = some x → x.socket = some s →
    s ∈ w.now.sockets
  made : ∀ s ∈ made, s ∈ w.now.sockets

namespace World.Asks

/-! ## Changes that ask and connect nothing -/

theorem congr (hw : w.Asks pending made)
    (hr : ∀ ref, u.now.registry.get? ref = w.now.registry.get? ref)
    (hs : u.now.sockets = w.now.sockets) (hp : u.past = w.past) : u.Asks pending made where
  sockets := by rw [hp, hs, hw.sockets]
  first := hp ▸ hw.first
  sessions := by
    intro ref x s hx hsock
    rw [hr] at hx
    rw [hs]
    exact hw.sessions hx hsock
  made := hs ▸ hw.made

theorem push (hw : w.Asks pending made) (ha : e.asks? = none) (hc : e.connects? = none) :
    (w.push e).Asks pending made where
  sockets := by
    have hasked : asked (e :: w.past) = asked w.past := by simp [asked, ha]
    exact hasked ▸ hw.sockets
  first := ⟨fun s hs => by simp [hc] at hs, hw.first⟩
  sessions := hw.sessions
  made := hw.made

theorem create (hw : w.Asks pending made) (flags : SessionFlags) :
    (w.setRegistry (w.now.registry.create flags).2).Asks pending made where
  sockets := hw.sockets
  first := hw.first
  sessions := by
    intro ref x s hx hsock
    cases hold : w.now.registry.get? ref with
    | some y =>
      obtain rfl := Option.some.inj (hx.symm.trans (Registry.get?_create_of_some hold))
      exact hw.sessions hold hsock
    | none =>
      obtain ⟨-, rfl⟩ := Registry.eq_of_get?_create hx hold
      cases hsock
  made := hw.made

/-- A session keeps its socket or loses it. -/
theorem set (hw : w.Asks pending made) (hx : w.now.registry.get? ref = some x)
    (hy : y.socket = x.socket ∨ y.socket = none) :
    (w.setRegistry (w.now.registry.set ref y)).Asks pending made where
  sockets := hw.sockets
  first := hw.first
  sessions := by
    intro ref' z s hz hsock
    have hz : (w.now.registry.set ref y).get? ref' = some z := hz
    rw [Registry.get?_set hx] at hz
    split at hz
    · obtain rfl := Option.some.inj hz
      rcases hy with hy | hy
      · exact hw.sessions hx (hy ▸ hsock)
      · rw [hy] at hsock
        cases hsock
    · exact hw.sessions hz hsock
  made := hw.made

theorem mono {made' : List Socket} (hw : w.Asks pending made') (hm : ∀ s ∈ made, s ∈ made') :
    w.Asks pending made :=
  ⟨hw.sockets, hw.first, hw.sessions, fun s hs => hw.made s (hm s hs)⟩

/-! ## A new socket -/

/-- A session gets a new socket, which is pending from then on. -/
theorem bound (hw : w.Asks [] made) (hx : w.now.registry.get? ref = some x) (d : Int) :
    World.Asks [w.nextSocket d] made { w with now := { w.now with
      registry := w.now.registry.set ref (x.bound (w.nextSocket d))
      sockets := w.now.sockets ++ [w.nextSocket d] } } where
  sockets := by
    rw [List.reverse_append, ← hw.sockets]
    rfl
  first := hw.first
  sessions := by
    intro ref' z s hz hsock
    have hz : (w.now.registry.set ref (x.bound (w.nextSocket d))).get? ref' = some z := hz
    rw [Registry.get?_set hx] at hz
    refine List.mem_append.2 ?_
    split at hz
    · obtain rfl := Option.some.inj hz
      obtain rfl := Option.some.inj hsock
      exact .inr (by simp)
    · exact .inl (hw.sessions hz hsock)
  made := fun s hs => List.mem_append_left _ (hw.made s hs)

/-- A pending socket is asked. -/
theorem ask (hw : w.Asks [socket] made) (token : Option TokenId) (now : Situation) :
    (w.push (.entered (.setInline socket) token now)).Asks [] made where
  sockets := hw.sockets
  first := ⟨nofun, hw.first⟩
  sessions := hw.sessions
  made := hw.made

/-- A socket that was made is connected when none is pending. -/
theorem connect (hw : w.Asks [] made) (hs : socket ∈ made) (address : SocketAddress)
    (token : Option TokenId) (now : Situation) :
    (w.push (.entered (.connect socket address) token now)).Asks [] made where
  sockets := hw.sockets
  first := by
    refine ⟨fun s hcon => ?_, hw.first⟩
    obtain rfl := Option.some.inj hcon
    have hasked : asked w.past = w.now.sockets.reverse := hw.sockets
    rw [hasked, List.mem_reverse]
    exact hw.made _ hs
  sessions := hw.sessions
  made := hw.made

end World.Asks

/-! ## Calls -/

/-- The calls that leave no socket pending: all but the question itself, and connects of sockets
that were made. -/
def Call.OnMade (made : List Socket) : Call → Prop
  | .setInline _ => False
  | .connect s _ => s ∈ made
  | _ => True

theorem World.Asks.enter (hw : w.Asks [] made) (hc : c.OnMade made) (token : Option TokenId) :
    (w.push (.entered c token w.now)).Asks [] made := by
  cases c with
  | setInline s => exact hc.elim
  | connect s address => exact hw.connect hc address token w.now
  | _ => exact hw.push rfl rfl

/-- Requests nested in the calls of a host leave no socket pending. -/
def Host.Asking (h : Host ω) : Prop :=
  ∀ made, ∀ q : Request, q.OfManager →
    Keeps (World.Asks [] made) (World.Asks [] made) (h.nested q)

namespace Host

/-- A call leaves no socket pending if there is none once it has been entered. -/
theorem call_asks (hn : h.environment.Nests Request.OfManager) (hh : h.Asking)
    (hw : (w.push (.entered c token w.now)).Asks [] made) :
    Ends (World.Asks [] made) (h.call token c) w (fun _ u => u.Asks [] made)
      fun _ u => u.Asks [] made := by
  have hrun := Host.keeps_runNested (fun _ hu => hu) (fun _ _ _ hu => hu.push rfl rfl) (hh made) _
    (hn c w.outside) (h.entering token c w) (hw.congr (fun _ => rfl) rfl rfl)
  refine .of_eq Host.call_eq (.bind hrun ?_)
  rintro _ u hu -
  have hleft : ∀ reply, ((replying (h.environment.react c w.outside) u).push
      (.left c reply u.now)).Asks [] made := fun reply =>
    (hu.congr (u := replying (h.environment.react c w.outside) u) (fun _ => rfl) rfl rfl).push
      rfl rfl
  exact .of_returned rfl (hleft _) (hleft _)

theorem attends_asks (hn : h.environment.Nests Request.OfManager) (hh : h.Asking)
    (made : List Socket) :
    h.Attends (Call.OnMade made) (World.Asks [] made) (World.Asks [] made) where
  always := fun _ hw => hw
  notice := fun _ _ hw => hw.push rfl rfl
  call := fun token _ hc _ hw => call_asks hn hh (hw.enter hc token)

/-- A call leaves a session without a handle as it is. -/
theorem Sound.call_spares (hh : h.Sound) (hx : w.now.registry.get? ref = some x)
    (ho : x.isOpen = false) :
    Ends (fun _ => True) (h.call token c) w (fun _ u => u.now.registry.get? ref = some x)
      fun _ _ => True := by
  refine (hh.call_ends token c w).imp (fun _ _ => trivial) ?_ fun _ _ _ _ => trivial
  rintro reply u - ⟨v, hv, rfl⟩
  exact hv.get?_of_not_open hx ho

end Host

/-! ## Operations -/

namespace Manager

theorem markClosed_asks (ref : SessionRef) : Keeps (World.Asks [] made) (World.Asks [] made)
    (Act.changeSession ref fun s => .ok s.markClosed : Act ω Unit) := by
  refine Act.keeps_changeSession (fun _ hw => hw) ref fun w x y hw hx hy => ?_
  obtain rfl := Except.ok.inj hy
  exact hw.set hx (.inr rfl)

theorem target_asks (ref : SessionRef) (p : Peer) : Keeps (World.Asks [] made)
    (World.Asks [] made) (Act.changeSession ref fun s => .ok (s.target p) : Act ω Unit) := by
  refine Act.keeps_changeSession (fun _ hw => hw) ref fun w x y hw hx hy => ?_
  obtain rfl := Except.ok.inj hy
  exact hw.set hx (.inl rfl)

theorem markConnected_asks (ref : SessionRef) (p : Peer) : Keeps (World.Asks [] made)
    (World.Asks [] made) (Act.changeSession ref fun s => s.markConnected p : Act ω Unit) := by
  refine Act.keeps_changeSession (fun _ hw => hw) ref fun w x y hw hx hy => ?_
  obtain ⟨-, rfl⟩ := markConnected_eq_ok hy
  exact hw.set hx (.inl rfl)

section
variable (hn : h.environment.Nests Request.OfManager) (hh : h.Asking)

include hn hh

/-- The socket of a session was made, and stays so during all attempts to connect it. -/
theorem connectSession_asks (ref : SessionRef) (peer : Peer) :
    Keeps (World.Asks [] made) (World.Asks [] made) (connectSession h token ref peer) := by
  intro w hw
  unfold connectSession
  refine .session_bind (fun x hx => ?_) (fun _ => ⟨hw, fun _ => hw⟩)
  cases hsock : x.socket with
  | none => exact .fail hw hw
  | some s =>
    have hw' : w.Asks [] (s :: made) :=
      ⟨hw.sockets, hw.first, hw.sessions,
        List.forall_mem_cons.2 ⟨hw.sessions hx hsock, hw.made⟩⟩
    have hp := Host.attends_asks hn hh (s :: made)
    have hgood : (Call.connect s peer.socketAddress).OnMade (s :: made) := List.mem_cons_self
    have hdrop : ∀ u : World ω, u.Asks [] (s :: made) → u.Asks [] made :=
      fun u hu => hu.mono fun t ht => List.mem_cons_of_mem s ht
    exact (hp.keeps_connectSocket hgood h.patience w hw').imp hdrop (fun _ u hu _ => hdrop u hu)
      fun _ u hu _ => hdrop u hu

/-- A session was registered, and its socket is pending. -/
def Owes (w : World ω) (made : List Socket) (ref : SessionRef) : Prop :=
  ∃ x s, w.now.registry.get? ref = some x ∧ x.socket = some s ∧ w.Asks [s] made

/-- What follows a registration starts with the socket of its session pending. -/
theorem register_bind {k : SessionRef → Act ω α} (hs : h.Sound) (family : Family)
    (flags : SessionFlags) (hw : w.Asks [] made)
    (hk : ∀ ref u, Owes u made ref → Ends (World.Asks [] made) (k ref) u
      (fun _ u => u.Asks [] made) fun _ u => u.Asks [] made) :
    Ends (World.Asks [] made) (register h token family flags >>= k) w (fun _ u => u.Asks [] made)
      fun _ u => u.Asks [] made := by
  obtain ⟨w₁, hw₁⟩ : ∃ w₁, w.setRegistry (w.now.registry.create flags).2 = w₁ := ⟨_, rfl⟩
  have hnew : w₁.now.registry.get? (w.now.registry.create flags).1 =
      some { id := w.now.registry.table.nextId, flags } :=
    hw₁ ▸ Registry.get?_create_new w.now.registry flags
  have hcall : Ends (World.Asks [] made) (h.call token (.createSocket family)) w₁
      (fun _ u => u.Asks [] made) fun _ u => u.Asks [] made :=
    Host.call_asks hn hh (hw₁ ▸ (hw.create flags).push rfl rfl)
  -- nested requests leave the new session alone, since it has no handle yet
  have hcreated : Ends (World.Asks [] made) (h.call token (.createSocket family)) w₁
      (fun _ u => u.Asks [] made ∧ u.now.registry.get? (w.now.registry.create flags).1 =
        some { id := w.now.registry.table.nextId, flags }) fun _ u => u.Asks [] made :=
    ⟨hcall.always, fun a ha => ⟨hcall.returned a ha, (hs.call_spares hnew rfl).returned a ha⟩,
      hcall.failed⟩
  unfold register
  simp only [Act.bind_assoc]
  refine .onRegistry_bind (hw₁ ▸ .bind hcreated ?_)
  rintro reply u - ⟨hu, hx⟩
  cases reply with
  | error f =>
    refine .of_eq (bind_eq (m := Host.socketFrom _) rfl _) ?_
    have hremoved : (u.setRegistry (u.now.registry.remove (w.now.registry.create flags).1).2).Asks
        [] made := hu.congr (fun _ => Registry.get?_remove) rfl rfl
    dsimp only
    split
    · exact .of_failed rfl hremoved hremoved
    · exact .of_failed rfl hu hu
  | ok d =>
    refine .of_eq (bind_eq (m := Host.socketFrom _) rfl _) ?_
    dsimp only
    rw [Act.bind_assoc]
    refine .changeSession_bind hx (fun z hz => ?_) (fun e he => ?_)
    · rw [attach_created rfl] at hz
      obtain rfl := Except.ok.inj hz
      exact hk _ _ ⟨_, _, Registry.get?_set_self hx _, rfl, hu.bound hx d⟩
    · rw [attach_created rfl] at he
      cases he

variable (ho : m.oobInline = true)

include ho

/-- With the option, the pending socket of a session is asked at once. -/
theorem enableInline_asks (hw : Owes w made ref) :
    Ends (World.Asks [] made) (m.enableInline h token ref) w (fun _ u => u.Asks [] made)
      fun _ u => u.Asks [] made := by
  obtain ⟨x, s, hx, hsock, hw⟩ := hw
  unfold enableInline
  refine .of_eq (bind_eq (session_some hx) _) ?_
  rw [hsock]
  dsimp only
  rw [if_pos ho]
  refine .bind (Host.call_asks hn hh (hw.ask token w.now)) ?_
  rintro reply u - hu
  cases reply with
  | ok _ => exact .pure hu hu
  | error f =>
    dsimp only
    split
    · refine .session_bind (fun y _ => ?_) (fun _ => ⟨hu, fun _ => hu⟩)
      exact .of_returned rfl (hu.push rfl rfl) (hu.push rfl rfl)
    · exact .fail hu hu

theorem openSession_asks (hs : h.Sound) (r : OpenRequest) :
    Keeps (World.Asks [] made) (World.Asks [] made) (m.openSession h r) := by
  have hp := Host.attends_asks hn hh made
  intro w hw
  unfold openSession
  refine .ofExcept_bind (fun port _ => ?_) (fun _ _ => ⟨hw, hw⟩)
  refine .ofExcept_bind (fun family _ => ?_) (fun _ _ => ⟨hw, hw⟩)
  refine .bind (Host.Preserves.candidatesOf_ends (hp.keeps_resolve trivial trivial w hw)) ?_
  rintro candidates u - ⟨hu, -⟩
  refine register_bind hn hh hs family r.flags hu fun ref v hv => ?_
  refine .bind (enableInline_asks hn hh ho hv) fun _ v' hv' _ => ?_
  exact hp.keeps_tryCandidates _ (fun p _ => target_asks ref p)
    (fun p _ => markConnected_asks ref p) candidates
    (fun _ _ peer _ => connectSession_asks hn hh ref peer) none v' hv'

theorem maintains_asks (hs : h.Sound) :
    h.Maintains m (World.Asks [] made) (World.Asks [] made) where
  always := fun _ hw => hw
  notice := fun _ _ hw => hw.push rfl rfl
  answered := fun _ _ _ hw => hw.push rfl rfl
  tokens := fun _ _ hw => hw.congr (fun _ => rfl) rfl rfl
  untrack := fun _ _ hw => hw.congr (fun _ => Registry.get?_remove) rfl rfl
  close := fun ref =>
    (Host.attends_asks hn hh made).keeps_closeSession (fun _ => trivial) (markClosed_asks ref)
  reverse := (Host.attends_asks hn hh made).keeps_reverse (fun _ => trivial) fun _ => trivial
  openSession := openSession_asks hn hh ho hs

end

end Manager

/-! ## Runs -/

/-- Requests to a manager with the option leave no socket pending, however deep they are nested. -/
theorem perform_asks (henv : env.Nests Request.OfManager) (ho : m.oobInline = true) :
    ∀ bound patience : Nat, Host.Asking ⟨env, perform env m bound, patience⟩
  | 0, _ => fun _ _ _ _ hw => .of_stalled rfl hw
  | bound + 1, _ => fun _ q hq =>
    (Manager.maintains_asks henv (perform_asks henv ho bound (bound + 1)) ho
      (henv.sound m bound (bound + 1))).serve q hq

/-- Every socket that a factory returned was asked for inline delivery exactly once, in the order
in which they were made, and before it was connected. -/
structure World.AsksEachOnce (w : World ω) : Prop where
  asked : (asked w.past).reverse = w.now.sockets
  accounted : w.Accounted
  distinct : w.now.sockets.Nodup
  first : AskedFirst w.past

/-- A run of a manager with the option asks every socket once, whatever is nested in its calls. -/
theorem Environment.asks_each_once (henv : env.Nests Request.OfManager) (ho : m.oobInline = true)
    (bound : Nat) {qs : List Request} (hqs : ∀ q ∈ qs, q.OfManager) (start : ω) :
    (env.after m bound qs start).AsksEachOnce := by
  have hstart : World.Asks [] [] ({ outside := start } : World ω) :=
    ⟨rfl, trivial, fun hx => by simp [Registry.get?] at hx, by simp⟩
  have hkeeps := Host.keeps_runNested (h := ⟨env, perform env m bound, bound⟩) (fun _ hw => hw)
    (fun _ _ _ hw => hw.push rfl rfl) (perform_asks henv ho bound bound []) qs hqs
  have hasks : (env.after m bound qs start).Asks [] [] := (hkeeps _ hstart).always
  have hsince := env.after_since m bound start henv hqs
  constructor
  · have hasked : asked (env.after m bound qs start).past = _ := hasks.sockets
    rw [hasked, List.reverse_reverse]
  · exact hsince.induct (P := World.Accounted) rfl fun hs hu => hs.accounted hu
  · exact (hsince.induct (P := World.Numbered) rfl fun hs hu => hs.numbered hu).nodup
  · exact hasks.first

end TcpSessions
