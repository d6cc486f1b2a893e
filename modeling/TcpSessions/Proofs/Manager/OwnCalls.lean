import TcpSessions.Proofs.Manager.Primitives
/-!
# The calls that an operation makes itself

The history tells the calls of an operation from those of the requests nested in them: the former
are entered while no other call of the operation is running (`ownStarts`). Requests leave as many
calls running as they found (`Event.Level`), so what is nested in a call never shows outside of it.
`World.Made` and `World.Making` say that an operation has started only good calls.
-/
namespace TcpSessions

open Act

/-- A call that was entered, by an operation that obeys a token, if any. -/
structure Start where
  call : Call
  token : Option TokenId
  /-- How things stood when the call was entered. -/
  now : Situation

def Start.event (s : Start) : Event := .entered s.call s.token s.now

variable {ω : Type} {env : Environment ω} {h : Host ω} {w u : World ω}
variable {es later : List Event} {Fine : Start → Prop}

/-- How many calls are running after some events, earliest first, when `depth` were before. -/
def callDepth : Nat → List Event → Nat
  | depth, [] => depth
  | depth, .entered .. :: es => callDepth (depth + 1) es
  | depth, .left .. :: es => callDepth (depth - 1) es
  | depth, .noticed _ :: es => callDepth depth es
  | depth, .answered _ :: es => callDepth depth es

/-- The calls that are entered while no other one is running, when `depth` are before some events,
earliest first. -/
def ownStarts : Nat → List Event → List Start
  | _, [] => []
  | depth, .entered c token now :: es =>
    if depth = 0 then ⟨c, token, now⟩ :: ownStarts 1 es else ownStarts (depth + 1) es
  | depth, .left .. :: es => ownStarts (depth - 1) es
  | depth, .noticed _ :: es => ownStarts depth es
  | depth, .answered _ :: es => ownStarts depth es

theorem callDepth_append : ∀ (depth : Nat) (es later : List Event),
    callDepth depth (es ++ later) = callDepth (callDepth depth es) later
  | _, [], _ => rfl
  | depth, .entered .. :: es, later => callDepth_append (depth + 1) es later
  | depth, .left .. :: es, later => callDepth_append (depth - 1) es later
  | depth, .noticed _ :: es, later => callDepth_append depth es later
  | depth, .answered _ :: es, later => callDepth_append depth es later

theorem ownStarts_append : ∀ (depth : Nat) (es later : List Event),
    ownStarts depth (es ++ later) = ownStarts depth es ++ ownStarts (callDepth depth es) later
  | _, [], _ => rfl
  | depth, .entered c token now :: es, later => by
    by_cases hd : depth = 0
    · subst hd
      simp [ownStarts, callDepth, ownStarts_append 1 es later]
    · simp [ownStarts, callDepth, hd, ownStarts_append (depth + 1) es later]
  | depth, .left .. :: es, later => ownStarts_append (depth - 1) es later
  | depth, .noticed _ :: es, later => ownStarts_append depth es later
  | depth, .answered _ :: es, later => ownStarts_append depth es later

/-! ## Events that leave no call running -/

/-- Inside a running call the events show no calls. -/
def Event.Hidden (es : List Event) : Prop := ∀ depth, ownStarts (depth + 1) es = []

/-- The events leave as many calls running as there were, and show none inside a running call. -/
structure Event.Level (es : List Event) : Prop where
  depth_eq : ∀ depth, callDepth depth es = depth
  hidden : Event.Hidden es

namespace Event

theorem level_nil : Level [] := ⟨fun _ => rfl, fun _ => rfl⟩

theorem level_noticed (n : Notice) : Level [.noticed n] := ⟨fun _ => rfl, fun _ => rfl⟩

theorem level_answered (now : Situation) (answer : Except Failure Answer) :
    Level [@Event.answered now answer] :=
  ⟨fun _ => rfl, fun _ => rfl⟩

theorem Level.own_append (h : Level es) (depth : Nat) (later : List Event) :
    ownStarts depth (es ++ later) = ownStarts depth es ++ ownStarts depth later := by
  rw [ownStarts_append, h.depth_eq]

theorem Level.append (h : Level es) (h' : Level later) : Level (es ++ later) where
  depth_eq := by
    intro depth
    rw [callDepth_append, h.depth_eq, h'.depth_eq]
  hidden := by
    intro depth
    rw [h.own_append, h.hidden, h'.hidden]
    rfl

/-- A call that is running shows itself alone. -/
theorem own_entered (hes : Hidden es) (c : Call) (token : Option TokenId) (now : Situation) :
    ownStarts 0 (.entered c token now :: es) = [⟨c, token, now⟩] := by
  show _ :: ownStarts 1 es = _
  rw [hes 0]

theorem hidden_entered (hes : Hidden es) (c : Call) (token : Option TokenId) (now : Situation) :
    Hidden (.entered c token now :: es) := by
  intro depth
  show (if depth + 1 = 0 then _ else ownStarts (depth + 2) es) = []
  rw [if_neg (by omega), hes (depth + 1)]

/-- A call that was entered and left, with whatever was nested in it. -/
theorem Level.call (hes : Level es) (c : Call) (token : Option TokenId) (now now' : Situation)
    (reply : Except Failure c.Reply) :
    Level (.entered c token now :: es ++ [.left c reply now']) where
  depth_eq := by
    intro depth
    rw [callDepth_append]
    show callDepth (depth + 1) es - 1 = depth
    rw [hes.depth_eq]
    omega
  hidden := by
    intro depth
    rw [ownStarts_append, hidden_entered hes.hidden]
    rfl

end Event

/-! ## What an operation has done so far -/

/-- From `w` to `u` only fine calls were started, and none of them is running. -/
def World.Made (Fine : Start → Prop) (w u : World ω) : Prop :=
  ∃ es, u.past = es.reverse ++ w.past ∧ Event.Level es ∧ ∀ s ∈ ownStarts 0 es, Fine s

/-- From `w` to `u` only fine calls were started; one of them may be running. -/
def World.Making (Fine : Start → Prop) (w u : World ω) : Prop :=
  ∃ es, u.past = es.reverse ++ w.past ∧ Event.Hidden es ∧ ∀ s ∈ ownStarts 0 es, Fine s

namespace World

theorem Made.making (h : w.Made Fine u) : w.Making Fine u := by
  obtain ⟨es, hp, hes, hfine⟩ := h
  exact ⟨es, hp, hes.hidden, hfine⟩

theorem made_refl (Fine : Start → Prop) (w : World ω) : w.Made Fine w :=
  ⟨[], rfl, Event.level_nil, by simp [ownStarts]⟩

/-- Events that are no calls of the operation change nothing. -/
theorem Made.push (h : w.Made Fine u) {e : Event} (he : Event.Level [e])
    (hown : ownStarts 0 [e] = []) : w.Made Fine (u.push e) := by
  obtain ⟨es, hp, hes, hfine⟩ := h
  refine ⟨es ++ [e], by simp [World.push, hp], hes.append he, ?_⟩
  rw [hes.own_append, hown, List.append_nil]
  exact hfine

variable {v : World ω} {nested : List Event} {c : Call} {token : Option TokenId}

/-- A fine call is running, with what is nested in it so far. -/
theorem Made.entered (hu : w.Made Fine u) (hc : Fine ⟨c, token, u.now⟩) (hn : Event.Hidden nested)
    (hv : v.past = nested.reverse ++ .entered c token u.now :: u.past) : w.Making Fine v := by
  obtain ⟨es, hp, hes, hfine⟩ := hu
  refine ⟨es ++ .entered c token u.now :: nested, by simp [hv, hp], fun depth => ?_,
    fun s hs => ?_⟩
  · rw [hes.own_append, hes.hidden, Event.hidden_entered hn]
    rfl
  · rw [hes.own_append, Event.own_entered hn, List.mem_append, List.mem_singleton] at hs
    rcases hs with hs | rfl
    · exact hfine s hs
    · exact hc

/-- A fine call has been left, with whatever was nested in it. -/
theorem Made.left (hu : w.Made Fine u) (hc : Fine ⟨c, token, u.now⟩) (hn : Event.Level nested)
    (hv : v.past = nested.reverse ++ .entered c token u.now :: u.past) (reply : Except Failure c.Reply)
    (now : Situation) : w.Made Fine (v.push (.left c reply now)) := by
  obtain ⟨es, hp, hes, hfine⟩ := hu
  refine ⟨es ++ (.entered c token u.now :: nested ++ [.left c reply now]),
    by simp [World.push, hv, hp], hes.append (hn.call c token _ _ reply), fun s hs => ?_⟩
  have hleft : ∀ depth, ownStarts depth [.left c reply now] = [] := fun _ => rfl
  rw [hes.own_append, ownStarts_append, hleft, List.append_nil, Event.own_entered hn.hidden,
    List.mem_append, List.mem_singleton] at hs
  rcases hs with hs | rfl
  · exact hfine s hs
  · exact hc

end World

/-! ## Calls -/

/-- Requests nested in the calls of a host leave no call of theirs running. -/
def Host.Closed (h : Host ω) : Prop :=
  ∀ w : World ω, ∀ q : Request, q.OfManager →
    Keeps (w.Making fun _ => True) (w.Made fun _ => True) (h.nested q)

/-- Nested requests run to the end or give up: no failure of theirs gets out. -/
theorem Host.runNested_ne_failed (hn : h.environment.Nests Request.OfManager) (c : Call)
    (w v : World ω) (f : Failure) :
    h.runNested (h.environment.react c w.outside).nested v ≠ (.failed f, u) := by
  intro hw
  have hends := Host.runNested_ends (h := h) (R := fun _ => True) (P := Request.OfManager)
    (fun _ _ _ _ => trivial) (fun _ _ _ => trivial) _ v (hn c w.outside) trivial
  exact hends.failed f (by rw [hw])

/-- A call is made that is fine as things stand, and what is nested in it does not show. -/
theorem Host.call_made (hn : h.environment.Nests Request.OfManager) (hh : h.Closed)
    {token : Option TokenId} {c : Call} (hu : w.Made Fine u) (hc : Fine ⟨c, token, u.now⟩) :
    Ends (w.Making Fine) (h.call token c) u (fun _ v => w.Made Fine v)
      (fun _ v => w.Made Fine v) := by
  obtain ⟨halways, hreturned, -⟩ := Host.keeps_runNested (fun _ hv => hv.making)
    (fun _ now answer hv => hv.push (Event.level_answered now answer) rfl)
    (hh (h.entering token c u)) _ (hn c u.outside) _ (World.made_refl _ _)
  rcases hrun : h.runNested (h.environment.react c u.outside).nested (h.entering token c u) with
    ⟨o, v⟩
  rw [hrun] at halways hreturned
  cases o with
  | returned a =>
    obtain ⟨nested, hv, hlevel, -⟩ := hreturned a rfl
    have hmade : ∀ reply : Except Failure c.Reply, w.Made Fine
        ((Host.replying (h.environment.react c u.outside) v).push (.left c reply v.now)) :=
      fun reply => hu.left hc hlevel hv reply v.now
    exact .of_returned (Host.call_of_returned hrun) (hmade _).making (hmade _)
  | failed f => exact absurd hrun (Host.runNested_ne_failed hn c u _ f)
  | stalled =>
    obtain ⟨nested, hv, hhidden, -⟩ := halways
    exact .of_stalled (Host.call_of_stalled hrun) (hu.entered hc hhidden hv)

/-- What an operation has done so far survives everything but a call that is not good. -/
theorem Host.preserves_made (hn : h.environment.Nests Request.OfManager) (hh : h.Closed)
    {Good : Call → Prop} (hgood : ∀ s : Start, Good s.call → Fine s) (w : World ω) :
    h.Preserves Good (w.Making Fine) (w.Made Fine) where
  always := fun _ hu => hu.making
  notice := fun _ n hu => hu.push (Event.level_noticed n) rfl
  sockets := fun _ _ hu => hu
  create := fun _ _ hu => hu
  remove := fun _ _ hu => hu
  change := fun _ _ _ _ hu _ _ => hu
  call := fun _ _ hc _ hu => Host.call_made hn hh hu (hgood _ hc)

/-! ## Nested requests -/

/-- Requests to a manager leave no call of theirs running, however deep they are nested. -/
theorem perform_closed (henv : env.Nests Request.OfManager) (m : Manager) :
    ∀ bound patience : Nat, Host.Closed ⟨env, perform env m bound, patience⟩
  | 0, _ => fun _ _ _ _ hu => .of_stalled rfl hu.making
  | bound + 1, _ => fun w q hq =>
    ((Host.preserves_made henv (perform_closed henv m bound (bound + 1)) (fun _ _ => trivial)
      w).maintains (m := m) (fun _ now answer hu => hu.push (Event.level_answered now answer) rfl)
      (fun _ _ hu => hu)).serve q hq

/-- Serving an open does no more than the open itself. -/
theorem Manager.serve_openSession_making (m : Manager) {r : OpenRequest}
    (hopen : Ends (w.Making Fine) (m.openSession h r) w (fun _ u => w.Made Fine u)
      (fun _ u => w.Made Fine u)) :
    w.Making Fine ((Operation.openSession r).serve h m w).2 :=
  (hopen.bind fun ref u _ hu =>
    ((keeps_session (fun _ hv => hv.making) ref).bind fun _ =>
      keeps_pure (fun _ hv => hv.making) _) u hu).always

/-- An open makes only good calls if those that prepare it are good, and those on its candidates. -/
theorem Manager.openSession_making (m : Manager) (hn : h.environment.Nests Request.OfManager)
    (hh : h.Closed) {Good : Call → Prop} (r : OpenRequest)
    (hprepare : ∀ family, m.checkFamily r.family = .ok family →
      ∀ c : Call, c.Prepares r.host family → Good c)
    (hconnect : ∀ port family candidates, Manager.checkPort (r.port.getD m.defaultPort) = .ok port →
      m.checkFamily r.family = .ok family →
      (m.resolve h r.token r.host family w).1 = .returned candidates → ∀ bytes ∈ candidates,
      ∀ peer, Peer.ofFields { family := .known family, address := bytes, port } = .ok peer →
      ∀ socket, Good (.connect socket peer.socketAddress)) :
    w.Making (fun s => Good s.call) ((Operation.openSession r).serve h m w).2 := by
  have hp : h.Preserves Good (w.Making fun s => Good s.call) (w.Made fun s => Good s.call) :=
    Host.preserves_made hn hh (fun _ hs => hs) w
  exact m.serve_openSession_making
    (hp.openSession_ends (m := m) r hprepare hconnect (World.made_refl _ w))

end TcpSessions
