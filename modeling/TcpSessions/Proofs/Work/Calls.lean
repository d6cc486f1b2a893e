import TcpSessions.Proofs.Work.Ends
import TcpSessions.Proofs.Work.Since
/-!
# Calls to the surroundings

A call is entered, the requests nested in it run, and its reply is noted. `Host.Sound` says that
nested requests only take steps; then a call only takes steps as well, and `Act.Ends.call_bind` is
the rule for work that starts with one.
-/
namespace TcpSessions

variable {ω α β : Type}

/-- Nested requests are requests to the manager and only take steps; those to tokens leave the
sessions alone. -/
structure Host.Sound (h : Host ω) : Prop where
  nests : h.environment.Nests Request.OfManager
  since : ∀ q, q.OfManager → ∀ w, World.Since h.environment w (h.nested q w).2
  tokens : ∀ q, q.OfToken → ∀ w, (h.nested q w).2.now.registry = w.now.registry

namespace Host

variable {h : Host ω} {w w' : World ω} {token : Option TokenId} {c : Call}

/-- The world in which the requests nested in a call start. -/
def entering (h : Host ω) (token : Option TokenId) (c : Call) (w : World ω) : World ω :=
  { w.push (.entered c token w.now) with outside := (h.environment.react c w.outside).state }

/-- The world in which a reply is given. -/
def replying {ρ : Type} (r : Reaction ω ρ) (w : World ω) : World ω :=
  { w with outside := (r.answer w.outside).2 }

theorem runNested_cons (q : Request) (qs : List Request) :
    h.runNested (q :: qs) = (Act.attempt (h.nested q) >>= fun answer =>
      Act.situation >>= fun now => Act.record (@Event.answered now answer) >>= fun _ =>
      h.runNested qs) := rfl

/-- Nested requests run to the end or stall; failures of theirs are noted. What each of them keeps,
all of them keep. -/
theorem runNested_ends {R : World ω → Prop} {P : Request → Prop}
    (hn : ∀ q, P q → ∀ w, R w → R (h.nested q w).2)
    (he : ∀ w answer, R w → R (w.push (@Event.answered w.now answer))) :
    ∀ (qs : List Request) (w : World ω), (∀ q ∈ qs, P q) → R w →
      Act.Ends R (h.runNested qs) w (fun _ _ => True) (fun _ _ => False)
  | [], _, _, hw => .pure hw trivial
  | q :: qs, w, hq, hw => by
    have hs : R (h.nested q w).2 := hn q (hq q (by simp)) w hw
    have hend : Act.Ends R (h.nested q) w (fun _ _ => True) (fun _ _ => True) :=
      ⟨hs, fun _ _ => trivial, fun _ _ => trivial⟩
    have hrest : ∀ (answer : Except Failure Answer) (w' : World ω), R w' →
        Act.Ends R (Act.situation >>= fun now =>
          Act.record (@Event.answered now answer) >>= fun _ => h.runNested qs) w'
          (fun _ _ => True) (fun _ _ => False) := by
      intro answer w' hw'
      exact .of_eq (Act.bind_eq rfl _) (.of_eq (Act.bind_eq rfl _)
        (runNested_ends hn he qs _ (fun q' hq' => hq q' (by simp [hq'])) (he w' answer hw')))
    rw [runNested_cons]
    exact .attempt_bind hend (fun _ w' hw' _ => hrest _ w' hw') fun _ w' hw' _ => hrest _ w' hw'

/-- Nested requests to the manager only take steps. -/
theorem Sound.runNested_ends (hh : h.Sound) {w₀ : World ω} (qs : List Request) (w : World ω)
    (hqs : ∀ q ∈ qs, q.OfManager) (hw : World.Since h.environment w₀ w) :
    Act.Ends (World.Since h.environment w₀) (h.runNested qs) w (fun _ _ => True)
      (fun _ _ => False) :=
  Host.runNested_ends (fun q hq w hw => hw.trans (hh.since q hq w)) (fun _ _ hw => hw.note rfl)
    qs w hqs hw

/-- Nested requests to tokens leave the sessions alone. -/
theorem Sound.registry_runNested (hh : h.Sound) (qs : List Request) (w : World ω)
    (hqs : ∀ q ∈ qs, q.OfToken) : (h.runNested qs w).2.now.registry = w.now.registry :=
  (Host.runNested_ends (R := fun u => u.now.registry = w.now.registry)
    (fun q hq u hu => (hh.tokens q hq u).trans hu) (fun _ _ hu => hu) qs w hqs rfl).always

theorem call_eq : h.call token c w =
    (h.runNested (h.environment.react c w.outside).nested >>= fun _ =>
      conclude (h.environment.react c w.outside) >>= fun reply => leave c reply >>= fun _ =>
      pure reply) (h.entering token c w) := rfl

theorem call_of_returned
    (hr : h.runNested (h.environment.react c w.outside).nested (h.entering token c w) =
      (.returned (), w')) :
    h.call token c w =
      (.returned ((h.environment.react c w.outside).answer w'.outside).1,
        (replying (h.environment.react c w.outside) w').push
          (.left c ((h.environment.react c w.outside).answer w'.outside).1 w'.now)) := by
  rw [call_eq, Act.bind_eq hr]
  rfl

theorem call_of_stalled
    (hr : h.runNested (h.environment.react c w.outside).nested (h.entering token c w) =
      (.stalled, w')) :
    h.call token c w = (.stalled, w') := by
  rw [call_eq, Act.bind_stalled hr]

/-- A call is answered or gives up: what goes wrong in it is its reply. -/
theorem call_returned_or_stalled (h : Host ω) (token : Option TokenId) (c : Call) (w : World ω) :
    (∃ reply u, h.call token c w = (.returned reply, u)) ∨
      ∃ u, h.call token c w = (.stalled, u) := by
  have hends : Act.Ends (fun _ => True) (h.runNested (h.environment.react c w.outside).nested)
      (h.entering token c w) (fun _ _ => True) (fun _ _ => False) :=
    runNested_ends (P := fun _ => True) (fun _ _ _ _ => trivial) (fun _ _ _ => trivial) _ _
      (fun _ _ => trivial) trivial
  rcases hrun : h.runNested (h.environment.react c w.outside).nested (h.entering token c w)
    with ⟨o, v⟩
  cases o with
  | returned a => exact .inl ⟨_, _, call_of_returned hrun⟩
  | failed f => exact (hends.failed f (by rw [hrun])).elim
  | stalled => exact .inr ⟨_, call_of_stalled hrun⟩

end Host

namespace World

variable {env : Environment ω} {w w' w'' : World ω}

theorem Since.outside (h : Since env w w') (o : ω) : Since env w { w' with outside := o } :=
  h.step (.around o w'.now.cancelled)

/-- A reply that changes nothing that a session owns is noted. -/
theorem Since.leave (h : Since env w w') (c : Call) (reply : Except Failure c.Reply)
    (hc : c.settles reply = false) : Since env w (w'.push (.left c reply w'.now)) :=
  h.note ⟨rfl, hc⟩

end World

/-- A call is entered, then only nested requests run, and then its reply is noted. -/
theorem Host.Sound.call_ends {h : Host ω} (hh : h.Sound) (token : Option TokenId) (c : Call)
    (w : World ω) :
    Act.Ends
      (fun u => ∃ v, World.Since h.environment (w.push (.entered c token w.now)) v ∧
        (u = v ∨ ∃ reply, u = v.push (.left c reply v.now)))
      (h.call token c) w
      (fun reply u => ∃ v, World.Since h.environment (w.push (.entered c token w.now)) v ∧
        u = v.push (.left c reply v.now))
      fun _ _ => False := by
  have hu : World.Since h.environment (w.push (.entered c token w.now)) (h.entering token c w) :=
    (World.Since.refl _).outside _
  obtain ⟨hs, -, hf⟩ := hh.runNested_ends _ _ (hh.nests c w.outside) hu
  rcases hrun : h.runNested (h.environment.react c w.outside).nested (h.entering token c w)
    with ⟨o, v⟩
  rw [hrun] at hs hf
  cases o with
  | returned a =>
    have hs' := hs.outside ((h.environment.react c w.outside).answer v.outside).2
    exact .of_returned (Host.call_of_returned hrun) ⟨_, hs', .inr ⟨_, rfl⟩⟩ ⟨_, hs', rfl⟩
  | failed f => exact (hf f rfl).elim
  | stalled => exact .of_stalled (Host.call_of_stalled hrun) ⟨v, hs, .inl rfl⟩

/-- Work that starts with a call. The continuation runs in the world in which the reply has been
noted; before that, only nested requests ran. -/
theorem Act.Ends.call_bind {h : Host ω} {w w₀ : World ω} {token : Option TokenId} {c : Call}
    {k : Except Failure c.Reply → Act ω β} {P : β → World ω → Prop}
    {E : Failure → World ω → Prop} (hh : h.Sound) (hw : World.Since h.environment w₀ w)
    (hc : c.startsAttempt = true → w.now.isSet token = false)
    (hk : ∀ (w₁ : World ω) (reply : Except Failure c.Reply),
      World.Since h.environment (w.push (.entered c token w.now)) w₁ →
      World.Since h.environment w₀ w₁ →
      (h.environment.Quiet → w₁.now.registry = w.now.registry) →
      Act.Ends (World.Since h.environment w₀) (k reply) (w₁.push (.left c reply w₁.now)) P E) :
    Act.Ends (World.Since h.environment w₀) (h.call token c >>= k) w P E := by
  have hentered : World.Since h.environment w₀ (w.push (.entered c token w.now)) :=
    hw.note ⟨rfl, hc⟩
  have hu : World.Since h.environment (w.push (.entered c token w.now)) (h.entering token c w) :=
    (World.Since.refl _).outside _
  obtain ⟨hs, -, hf⟩ := hh.runNested_ends _ _ (hh.nests c w.outside) hu
  have hquiet : h.environment.Quiet →
      (h.runNested (h.environment.react c w.outside).nested (h.entering token c w)).2.now.registry =
        w.now.registry := fun hq => hh.registry_runNested _ _ (hq c w.outside)
  rcases hrun : h.runNested (h.environment.react c w.outside).nested (h.entering token c w)
    with ⟨o, w'⟩
  rw [hrun] at hs hf hquiet
  cases o with
  | returned a =>
    have hs' := hs.outside ((h.environment.react c w.outside).answer w'.outside).2
    exact .of_eq (Act.bind_eq (Host.call_of_returned hrun) k)
      (hk _ _ hs' (hentered.trans hs') hquiet)
  | failed f => exact (hf f rfl).elim
  | stalled => exact .of_stalled (Act.bind_stalled (Host.call_of_stalled hrun) k) (hentered.trans hs)

end TcpSessions
