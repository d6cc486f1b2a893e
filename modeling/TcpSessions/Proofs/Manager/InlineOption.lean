import TcpSessions.Proofs.Manager.InlineAsked
import TcpSessions.Proofs.Work.Alike
/-!
# The option never matters

Two runs in the same surroundings, one by a manager without the option and one by a manager with
it, differ only in what the second asks of its sockets, whether it is granted or refused
(`Manager.option_never_matters`). The relation between the two (`World.SameButOption`) is kept by
everything that both do alike; the question itself happens on one side only.
-/
namespace TcpSessions

open Act

variable {ω σ α : Type} {env : Environment ω}
variable {option : Socket → ω → σ → Except Failure Unit × σ}
variable {w : World ω} {w' : World (ω × σ)} {h : Host ω} {h' : Host (ω × σ)} {m : Manager}
variable {token : Option TokenId} {c : Call} {e : Event}

/-! ## The surroundings of the second run -/

/-- The same surroundings, except that asking a socket for inline delivery is answered by `option`.
It may look at everything, but it changes only a state of its own and nests nothing. -/
def Environment.withOption (env : Environment ω)
    (option : Socket → ω → σ → Except Failure Unit × σ) : Environment (ω × σ) where
  react
    | .setInline s, o =>
      { state := o
        answer := fun (x, t) => ((option s x t).1, x, (option s x t).2) }
    | c, (x, t) =>
      { state := ((env.react c x).state, t)
        nested := (env.react c x).nested
        answer := fun (y, t) => (((env.react c x).answer y).1, ((env.react c x).answer y).2, t) }

theorem Environment.react_withOption (hc : c.isOption = false) (o : ω × σ) :
    (env.withOption option).react c o =
      { state := ((env.react c o.1).state, o.2)
        nested := (env.react c o.1).nested
        answer := fun p =>
          (((env.react c o.1).answer p.1).1, ((env.react c o.1).answer p.1).2, p.2) } := by
  cases c with
  | setInline s => cases hc
  | _ => rfl

theorem Environment.Nests.withOption (henv : env.Nests Request.OfManager) :
    (env.withOption option).Nests Request.OfManager := by
  intro c o q hq
  cases c with
  | setInline s => cases hq
  | _ => exact henv _ o.1 q hq

/-! ## What the two runs share -/

/-- Whether an event is the entry or the end of a question for inline delivery. -/
def Event.ofOption : Event → Bool
  | .entered c _ _ | .left c _ _ => c.isOption
  | _ => false

/-- Whether an event has nothing to do with the option: neither with the question nor with the
notice that it was refused. -/
def Event.isShared : Event → Bool
  | .noticed (.optionRefused ..) => false
  | e => !e.ofOption

/-- Two runs that differ in questions for inline delivery alone, and only the second has any. They
know the same, so the table and every session are the same, and they have the same past: the same
calls in the same order, with the same replies, and the same answers to all requests, each in the
same situation. -/
structure World.SameButOption (w : World ω) (w' : World (ω × σ)) : Prop where
  now : w.now = w'.now
  past : w.past.filter Event.isShared = w'.past.filter Event.isShared
  unasked : ∀ e ∈ w.past, e.ofOption = false
  outside : w.outside = w'.outside.1

namespace World.SameButOption

/-- The same happens in both. -/
theorem push (hw : w.SameButOption w') (he : e.ofOption = false) :
    (w.push e).SameButOption (w'.push e) where
  now := hw.now
  past := by
    show (e :: w.past).filter _ = (e :: w'.past).filter _
    rw [List.filter_cons, List.filter_cons, hw.past]
  unasked := List.forall_mem_cons.2 ⟨he, hw.unasked⟩
  outside := hw.outside

/-- Something happens in the second that has to do with the option. -/
theorem push_right (hw : w.SameButOption w') (he : e.isShared = false) :
    w.SameButOption (w'.push e) where
  now := hw.now
  past := by
    show _ = (e :: w'.past).filter _
    rw [List.filter_cons_of_neg (by simp [he]), hw.past]
  unasked := hw.unasked
  outside := hw.outside

theorem around (hw : w.SameButOption w') (o : ω) (o' : ω × σ) (ho : o = o'.1) :
    World.SameButOption { w with outside := o } { w' with outside := o' } :=
  ⟨hw.now, hw.past, hw.unasked, ho⟩

/-- Both come to know the same. -/
theorem know (hw : w.SameButOption w') (s : Situation) :
    World.SameButOption { w with now := s } { w' with now := s } :=
  ⟨rfl, hw.past, hw.unasked, hw.outside⟩

end World.SameButOption

theorem World.parallel_sameButOption :
    World.Parallel (World.SameButOption : World ω → World (ω × σ) → Prop) where
  now := fun _ _ hw => hw.now
  notice := fun _ _ _ hw => hw.push rfl
  answered := fun _ _ _ _ hw => hw.push rfl
  registry := by
    intro r w w' hw
    show World.SameButOption _ { w' with now := { w'.now with registry := r } }
    rw [← hw.now]
    exact hw.know _
  tokens := by
    intro ts w w' hw
    rw [← hw.now]
    exact hw.know _

/-! ## Calls -/

/-- A host in some surroundings, and one in the same surroundings with an option. What is nested in
their calls goes alike. -/
structure Host.Optioned (h : Host ω) (h' : Host (ω × σ))
    (option : Socket → ω → σ → Except Failure Unit × σ) : Prop where
  environment : h'.environment = h.environment.withOption option
  nests : h.environment.Nests Request.OfManager
  patience : h.patience = h'.patience
  nested : ∀ q : Request, q.OfManager → Act.Alike World.SameButOption (h.nested q) (h'.nested q)

namespace Host.Optioned

variable (hh : h.Optioned h' option)

include hh

theorem alike : h.Alike h' World.SameButOption where
  parallel := World.parallel_sameButOption
  patience := hh.patience
  call := by
    intro token c hc
    refine Host.alike_call (fun w w' hw => ?_) (fun w w' hw => ?_) fun w w' v v' hw hv => ?_
    · unfold Host.entering
      rw [hh.environment, Environment.react_withOption hc, ← hw.now]
      exact (hw.push (e := .entered c token w.now) hc).around _ _ (by rw [hw.outside])
    · rw [hh.environment, Environment.react_withOption hc, ← hw.outside]
      refine World.parallel_sameButOption.alike_runNested
        (S := fun q q' => q.OfManager ∧ q = q') ?_ ?_
      · rintro q _ ⟨hq, rfl⟩
        exact hh.nested q hq
      · exact List.forall₂_same.2 fun q hq => ⟨hh.nests c w.outside q hq, rfl⟩
    · rw [hh.environment, Environment.react_withOption hc, ← hw.outside, ← hv.now]
      refine ⟨by rw [hv.outside], fun reply => ?_⟩
      exact (hv.around _ _ (by rw [hv.outside])).push (e := .left c reply v.now) hc

/-- The second run asks, and only the answer comes of it. -/
theorem call_setInline (hw : w.SameButOption w') (token : Option TokenId) (socket : Socket) :
    ∃ u, h'.call token (.setInline socket) w' =
      (.returned (option socket w'.outside.1 w'.outside.2).1, u) ∧ w.SameButOption u := by
  obtain ⟨environment, nested, patience⟩ := h'
  obtain rfl : environment = h.environment.withOption option := hh.environment
  have hasked := hw.push_right (e := .entered (.setInline socket) token w'.now) rfl
  have hanswered := hasked.around w.outside
    (w'.outside.1, (option socket w'.outside.1 w'.outside.2).2) hw.outside
  exact ⟨_, rfl, hanswered.push_right (e := .left (.setInline socket)
    (option socket w'.outside.1 w'.outside.2).1 w'.now) rfl⟩

/-! ## Opening -/

omit hh in
theorem socketFrom (reply : Except Failure Int) :
    Act.Alike World.SameButOption (Host.socketFrom reply : Act ω (Except Failure Socket))
      (Host.socketFrom reply : Act (ω × σ) (Except Failure Socket)) := by
  cases reply with
  | error f => exact alike_pure _
  | ok d =>
    intro w w' hw
    have hsockets : w.now.sockets = w'.now.sockets := congrArg Situation.sockets hw.now
    refine ⟨?_, ?_⟩
    · show Outcome.returned (Except.ok (⟨w.now.sockets.length, d⟩ : Socket)) =
        .returned (.ok ⟨w'.now.sockets.length, d⟩)
      rw [hsockets]
    · show World.SameButOption { w with now := _ } { w' with now := _ }
      rw [← hsockets, ← hw.now]
      exact hw.know _

theorem register (token : Option TokenId) (family : Family) (flags : SessionFlags) :
    Act.Alike World.SameButOption (Manager.register h token family flags)
      (Manager.register h' token family flags) := by
  have hp := hh.alike.parallel
  unfold Manager.register
  refine (hp.alike_onRegistry _).bind fun ref => (hh.alike.call token _ rfl).bind fun reply =>
    (socketFrom reply).bind fun result => ?_
  cases result with
  | error f =>
    dsimp only
    split
    · exact (hp.alike_onRegistry _).bind fun _ => alike_fail _
    · exact alike_fail f
  | ok socket => exact (hp.alike_changeSession ref _).bind fun _ => alike_pure ref

/-- A refusal of the system is noticed, and that is all. -/
theorem enableInline (hoption : ∀ s x t f, (option s x t).1 = .error f → f.isSystem = true)
    (token : Option TokenId) (ref : SessionRef) :
    Act.Alike World.SameButOption ({ m with oobInline := false }.enableInline h token ref)
      ({ m with oobInline := true }.enableInline h' token ref) := by
  intro w w' hw
  unfold Manager.enableInline
  cases hx : w.now.registry.get? ref with
  | none =>
    rw [bind_failed (session_none hx), bind_failed (session_none (hw.now ▸ hx))]
    exact ⟨rfl, hw⟩
  | some x =>
    rw [bind_eq (session_some hx), bind_eq (session_some (hw.now ▸ hx))]
    cases x.socket with
    | none => exact ⟨rfl, hw⟩
    | some s =>
      obtain ⟨u, hcall, hu⟩ := hh.call_setInline hw token s
      have hxu : u.now.registry.get? ref = some x := hu.now ▸ hx
      show Outcome.returned () = ((h'.call token (.setInline s) >>= _) w').1 ∧
        w.SameButOption ((h'.call token (.setInline s) >>= _) w').2
      rw [bind_eq hcall]
      cases hanswer : (option s w'.outside.1 w'.outside.2).1 with
      | ok _ => exact ⟨rfl, hu⟩
      | error f =>
        dsimp only
        rw [if_pos (hoption _ _ _ _ hanswer), bind_eq (session_some hxu)]
        exact ⟨rfl, hu.push_right rfl⟩

theorem openSession (hoption : ∀ s x t f, (option s x t).1 = .error f → f.isSystem = true)
    (r : OpenRequest) :
    Act.Alike World.SameButOption ({ m with oobInline := false }.openSession h r)
      ({ m with oobInline := true }.openSession h' r) := by
  unfold Manager.openSession
  exact (alike_ofExcept _).bind fun port => (alike_ofExcept _).bind fun family =>
    (hh.alike.candidatesOf rfl r.token r.host family).bind fun candidates =>
    (hh.register r.token family r.flags).bind fun ref =>
    (hh.enableInline hoption r.token ref).bind fun _ => hh.alike.tryCandidates _ candidates none

end Host.Optioned

/-! ## Runs -/

/-- Requests go alike with the option and without it, however deep they are nested. -/
theorem perform_optioned (henv : env.Nests Request.OfManager)
    (hoption : ∀ s x t f, (option s x t).1 = .error f → f.isSystem = true) :
    ∀ (bound patience : Nat), Host.Optioned
      ⟨env, perform env { m with oobInline := false } bound, patience⟩
      ⟨env.withOption option,
        perform (env.withOption option) { m with oobInline := true } bound, patience⟩ option
  | 0, _ => ⟨rfl, henv, rfl, fun _ _ => alike_stall⟩
  | bound + 1, _ => by
    have ih := perform_optioned henv hoption bound (bound + 1)
    exact ⟨rfl, henv, rfl, ih.alike.serve rfl (ih.openSession hoption)⟩

/-- Take a run of a manager without the option, and one with it in the same surroundings, in which
sockets are asked for inline delivery and grant it or refuse it by an error of the system. All that
the second run does besides the first is to ask each socket once, before it connects it. -/
theorem Manager.option_never_matters (m : Manager) (bound : Nat) {qs : List Request} (start : ω)
    (start' : σ) (henv : env.Nests Request.OfManager) (hqs : ∀ q ∈ qs, q.OfManager)
    (hoption : ∀ s x t f, (option s x t).1 = .error f → f.isSystem = true) :
    (env.after { m with oobInline := false } bound qs start).SameButOption
        ((env.withOption option).after { m with oobInline := true } bound qs (start, start')) ∧
      ((env.withOption option).after { m with oobInline := true } bound qs
        (start, start')).AsksEachOnce := by
  refine ⟨?_, Environment.asks_each_once henv.withOption rfl bound hqs _⟩
  have hh := perform_optioned (m := m) henv hoption bound bound
  have hstart : World.SameButOption ({ outside := start } : World ω)
      ({ outside := (start, start') } : World (ω × σ)) := ⟨rfl, rfl, by simp, rfl⟩
  refine (World.parallel_sameButOption.alike_runNested (S := fun q q' => q.OfManager ∧ q = q') ?_
    (List.forall₂_same.2 fun q hq => ⟨hqs q hq, rfl⟩) _ _ hstart).2
  rintro q _ ⟨hq, rfl⟩
  exact hh.nested q hq

/-- While the factory makes a socket for an open, another open is nested. The first candidate
refuses to be connected. -/
def Script.crossing : Script where
  hosts := [("gate", { addresses := [[192, 0, 2, 1], [192, 0, 2, 2]] })]
  coming := [{
    create := { nested := [.operation (.openSession { host := "gate" })] }
    connect := some [("192.0.2.1", [{ failure := some (.of (.system .refused .nothing)) }])] }]

/-- The first question is refused, the others are granted. -/
def grudging (_ : Socket) (_ : Script) (n : Nat) : Except Failure Unit × Nat :=
  (if n = 0 then .error (.of (.system .general .nothing)) else .ok (), n + 1)

theorem Manager.option_never_matters_crossing :
    let env := Script.environment.nesting Request.OfManager
    let qs := [.operation (.openSession { host := "gate" }), .operation .teardownAll]
    let off := env.after { oobInline := false } 4 qs Script.crossing
    let on := (env.withOption grudging).after { oobInline := true } 4 qs (Script.crossing, 0)
    on.now.sockets.map (·.descriptor) = [10, 11] ∧ on.outside.2 = 2 ∧
      off.SameButOption on ∧ on.AsksEachOnce := by
  intro env qs off on
  refine ⟨by decide +kernel, by decide +kernel, ?_⟩
  refine Manager.option_never_matters {} 4 Script.crossing 0
    (Script.environment.nesting_nests Request.OfManager) (by simp [qs, Request.OfManager]) ?_
  intro s x n f hf
  unfold grudging at hf
  split at hf
  · obtain rfl := Except.error.inj hf
    rfl
  · cases hf

end TcpSessions
