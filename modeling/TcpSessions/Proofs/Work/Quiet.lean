import TcpSessions.Proofs.Work.Perform
/-!
# Calls with no operation nested in them

On a quiet host a call changes nothing that sessions are made of: it is entered, tokens may change,
and a reply of the surroundings is noted (`World.Called`), unless a nested request stalls
(`World.Entered`). `Host.Quiet.call_cases` says so, and `Act.Ends.quiet_bind` is the rule for work
that starts with such a call.
-/
namespace TcpSessions

open Act World

variable {ω β : Type}

/-- Whether an event is the answer to a nested request. -/
def Event.isAnswer : Event → Bool
  | .answered _ => true
  | _ => false

/-- A reply that the surroundings may give to a call. -/
def Environment.MayAnswer (env : Environment ω) (c : Call) (reply : Except Failure c.Reply) : Prop :=
  ∃ o o', ((env.react c o).answer o').1 = reply

/-- From `w` to `w'` a call was entered and not left yet; at most tokens changed. -/
structure World.Entered (token : Option TokenId) (c : Call) (w w' : World ω) : Prop where
  registry : w'.now.registry = w.now.registry
  sockets : w'.now.sockets = w.now.sockets
  past : ∃ answers, w'.past = answers ++ .entered c token w.now :: w.past ∧
    ∀ e ∈ answers, e.isAnswer = true

/-- From `w` to `w'` a call was made and answered; besides that at most tokens changed. -/
structure World.Called (env : Environment ω) (token : Option TokenId) (c : Call)
    (reply : Except Failure c.Reply) (w w' : World ω) : Prop where
  registry : w'.now.registry = w.now.registry
  sockets : w'.now.sockets = w.now.sockets
  past : ∃ answers, w'.past = .left c reply w'.now :: (answers ++ .entered c token w.now :: w.past) ∧
    ∀ e ∈ answers, e.isAnswer = true
  reply_eq : reply = ((env.react c w.outside).answer (env.react c w.outside).state).1
  outside : w'.outside = ((env.react c w.outside).answer (env.react c w.outside).state).2

/-- Only requests to tokens are nested in the calls of the host, and they only set and clear
tokens. -/
structure Host.Quiet (h : Host ω) : Prop where
  nests : h.environment.Quiet
  tokens : ∀ q, q.OfToken → ∀ w, ∃ ts,
    (h.nested q w).2 = { w with now := { w.now with cancelled := ts } }

variable {env : Environment ω} {h : Host ω} {w w' : World ω} {token : Option TokenId} {c : Call}

namespace World

theorem Called.mayAnswer {reply : Except Failure c.Reply} (hc : w.Called env token c reply w') :
    env.MayAnswer c reply :=
  ⟨_, _, hc.reply_eq.symm⟩

theorem Called.noted {reply : Except Failure c.Reply} (hc : w.Called env token c reply w') :
    ∃ later, w'.past = later ++ w.past ∧ .left c reply w'.now ∈ later := by
  obtain ⟨answers, hp, -⟩ := hc.past
  exact ⟨.left c reply w'.now :: (answers ++ [.entered c token w.now]), by simp [hp], by simp⟩

end World

namespace Host

theorem Quiet.runNested_ends (hh : h.Quiet) (hw : w.Entered token c w')
    (ho : w'.outside = (h.environment.react c w.outside).state) :
    Ends (fun u => w.Entered token c u ∧ u.outside = (h.environment.react c w.outside).state)
      (h.runNested (h.environment.react c w.outside).nested) w' (fun _ _ => True)
      (fun _ _ => False) := by
  refine Host.runNested_ends (P := Request.OfToken) ?_ ?_ _ _ (hh.nests c w.outside) ⟨hw, ho⟩
  · rintro q hq u ⟨hu, huo⟩
    obtain ⟨ts, hts⟩ := hh.tokens q hq u
    rw [hts]
    exact ⟨⟨hu.registry, hu.sockets, hu.past⟩, huo⟩
  · rintro u answer ⟨hu, huo⟩
    obtain ⟨answers, hp, ha⟩ := hu.past
    refine ⟨⟨hu.registry, hu.sockets, @Event.answered u.now answer :: answers, ?_, ?_⟩, huo⟩
    · simp [push, hp]
    · simpa [Event.isAnswer] using ha

theorem entered_entering : w.Entered token c (h.entering token c w) where
  registry := rfl
  sockets := rfl
  past := ⟨[], rfl, by simp⟩

/-- A call on a quiet host is answered, unless a request nested in it stalls. -/
theorem Quiet.call_cases (hh : h.Quiet) (token : Option TokenId) (c : Call) (w : World ω) :
    (∃ reply w', h.call token c w = (.returned reply, w') ∧
      w.Called h.environment token c reply w') ∨
    ∃ w', h.call token c w = (.stalled, w') ∧ w.Entered token c w' := by
  obtain ⟨⟨hs, ho⟩, -, hf⟩ := hh.runNested_ends
    (entered_entering : w.Entered token c (h.entering token c w)) rfl
  rcases hrun : h.runNested (h.environment.react c w.outside).nested (h.entering token c w)
    with ⟨o, w'⟩
  rw [hrun] at hs ho hf
  dsimp only at hs ho hf
  cases o with
  | returned a =>
    refine .inl ⟨_, _, call_of_returned hrun, ?_⟩
    obtain ⟨answers, hp, ha⟩ := hs.past
    rw [ho]
    exact {
      registry := hs.registry
      sockets := hs.sockets
      past := ⟨answers, by simp [push, replying, hp], ha⟩
      reply_eq := rfl
      outside := by simp [push, replying, ho] }
  | failed f => exact (hf f rfl).elim
  | stalled => exact .inr ⟨w', call_of_stalled hrun, hs⟩

end Host

/-- Work that starts with a call on a quiet host. -/
theorem Act.Ends.quiet_bind {R : World ω → Prop} {P : β → World ω → Prop}
    {E : Failure → World ω → Prop} {k : Except Failure c.Reply → Act ω β} (hh : h.Quiet)
    (hin : ∀ w', w.Entered token c w' → R w')
    (hk : ∀ reply w', w.Called h.environment token c reply w' → Ends R (k reply) w' P E) :
    Ends R (h.call token c >>= k) w P E := by
  rcases hh.call_cases token c w with ⟨reply, w', hcall, hc⟩ | ⟨w', hcall, hc⟩
  · exact .of_eq (bind_eq hcall k) (hk reply w' hc)
  · exact .of_stalled (bind_stalled hcall k) (hin w' hc)

/-! ## Fixed replies -/

/-- The environment that answers each call in one way only. -/
def Environment.ofReplies (reply : (c : Call) → Except Failure c.Reply) : Environment Unit where
  react c _ := { state := (), answer := fun _ => (reply c, ()) }

theorem Environment.ofReplies_quiet (reply : (c : Call) → Except Failure c.Reply) :
    (ofReplies reply).Quiet := by
  intro c o q hq
  cases hq

theorem Environment.mayAnswer_ofReplies {reply : (c : Call) → Except Failure c.Reply} {c : Call}
    {r : Except Failure c.Reply} (h : (ofReplies reply).MayAnswer c r) : reply c = r := by
  obtain ⟨o, o', hr⟩ := h
  exact hr

/-! ## The hosts on which requests are carried out -/

theorem perform_token (m : Manager) (bound : Nat) {q : Request} (hq : q.OfToken) (w : World ω) :
    ∃ ts, (perform env m bound q w).2 = { w with now := { w.now with cancelled := ts } } := by
  cases bound with
  | zero => exact ⟨w.now.cancelled, rfl⟩
  | succ bound =>
    cases q with
    | token t r =>
      cases r with
      | cancel => exact ⟨t :: w.now.cancelled, rfl⟩
      | reset => exact ⟨w.now.cancelled.filter (· ≠ t), rfl⟩
      | isCancelled => exact ⟨w.now.cancelled, rfl⟩
      | interrupt => exact ⟨t :: w.now.cancelled, rfl⟩
    | _ => exact hq.elim

theorem Environment.Nests.sound (henv : env.Nests Request.OfManager) (m : Manager)
    (bound patience : Nat) : Host.Sound ⟨env, perform env m bound, patience⟩ :=
  ⟨henv, perform_since m henv bound, fun _ hq w => registry_perform m bound hq w⟩

theorem Environment.Quiet.host (henv : env.Quiet) (m : Manager) (bound patience : Nat) :
    Host.Quiet ⟨env, perform env m bound, patience⟩ :=
  ⟨henv, fun _ hq w => perform_token m bound hq w⟩

end TcpSessions
