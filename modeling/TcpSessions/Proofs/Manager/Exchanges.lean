import TcpSessions.Proofs.Manager.OwnCalls
import TcpSessions.Proofs.Manager.Scope
/-!
# The exchanges of an operation

What an operation asks of its surroundings and what it is told: the calls that it makes itself, each
with its reply, in order (`World.exchangesSince`). Whatever is nested in a call belongs to other
operations and does not show. `w.Exchanged log u` says that these are the exchanges from `w` to `u`;
it goes through work piece by piece.
-/
namespace TcpSessions

open Act World

variable {ω : Type} {env : Environment ω} {h : Host ω} {w u v : World ω}
variable {es later : List Event} {token : Option TokenId} {c : Call}

/-- A call that was made and answered. -/
structure Exchange where
  call : Call
  reply : Except Failure call.Reply
  /-- How things stood when the call was left. -/
  now : Situation

/-- The event that ends an exchange. -/
def Exchange.event (e : Exchange) : Event := .left e.call e.reply e.now

/-- The calls that are left when no other one is running any more, when `depth` are before some
events, earliest first. -/
def ownExchanges : Nat → List Event → List Exchange
  | _, [] => []
  | depth, .entered .. :: es => ownExchanges (depth + 1) es
  | depth, .left c reply now :: es =>
    if depth = 1 then ⟨c, reply, now⟩ :: ownExchanges 0 es else ownExchanges (depth - 1) es
  | depth, .noticed _ :: es => ownExchanges depth es
  | depth, .answered _ :: es => ownExchanges depth es

/-- The calls that were made and answered since an earlier world, earliest first, without those
nested in others. -/
def World.exchangesSince (u w : World ω) : List Exchange := ownExchanges 0 (u.newsSince w).reverse

/-- The calls that were started since an earlier world, earliest first, without those nested in
others. -/
def World.startsSince (u w : World ω) : List Start := ownStarts 0 (u.newsSince w).reverse

theorem World.Making.of_mem_startsSince {Fine : Start → Prop} (hw : w.Making Fine u) {s : Start}
    (hs : s ∈ u.startsSince w) : Fine s := by
  obtain ⟨es, hp, -, hfine⟩ := hw
  rw [World.startsSince, World.newsSince_of_append hp, List.reverse_reverse] at hs
  exact hfine s hs

theorem ownExchanges_append : ∀ (depth : Nat) (es later : List Event),
    ownExchanges depth (es ++ later) =
      ownExchanges depth es ++ ownExchanges (callDepth depth es) later
  | _, [], _ => rfl
  | depth, .entered .. :: es, later => ownExchanges_append (depth + 1) es later
  | depth, .left c reply now :: es, later => by
    by_cases hd : depth = 1
    · subst hd
      simp [ownExchanges, callDepth, ownExchanges_append 0 es later]
    · simp [ownExchanges, callDepth, hd, ownExchanges_append (depth - 1) es later]
  | depth, .noticed _ :: es, later => ownExchanges_append depth es later
  | depth, .answered _ :: es, later => ownExchanges_append depth es later

theorem event_mem_of_mem_ownExchanges {e : Exchange} : ∀ {depth : Nat} {es : List Event},
    e ∈ ownExchanges depth es → e.event ∈ es
  | _, [], he => by cases he
  | _, .entered .. :: _, he => List.mem_cons_of_mem _ (event_mem_of_mem_ownExchanges he)
  | depth, .left c reply now :: es, he => by
    unfold ownExchanges at he
    split at he
    · rcases List.mem_cons.1 he with rfl | he
      · exact List.mem_cons_self ..
      · exact List.mem_cons_of_mem _ (event_mem_of_mem_ownExchanges he)
    · exact List.mem_cons_of_mem _ (event_mem_of_mem_ownExchanges he)
  | _, .noticed _ :: _, he => List.mem_cons_of_mem _ (event_mem_of_mem_ownExchanges he)
  | _, .answered _ :: _, he => List.mem_cons_of_mem _ (event_mem_of_mem_ownExchanges he)

/-! ## What is nested in a call -/

/-- Where no call is entered, none is running afterwards if none was before. -/
theorem callDepth_zero : ∀ (es : List Event), ownStarts 0 es = [] → callDepth 0 es = 0
  | [], _ => rfl
  | .entered c token now :: es, hown => by simp [ownStarts] at hown
  | .left .. :: es, hown => callDepth_zero es hown
  | .noticed _ :: es, hown => callDepth_zero es hown
  | .answered _ :: es, hown => callDepth_zero es hown

/-- As long as a call is running, what is left inside it does not show. -/
theorem ownExchanges_of_running : ∀ (depth : Nat) (es : List Event), ownStarts (depth + 1) es = [] →
    0 < callDepth (depth + 1) es → ownExchanges (depth + 1) es = []
  | _, [], _, _ => rfl
  | depth, .entered .. :: es, hown, hrun => ownExchanges_of_running (depth + 1) es hown hrun
  | 0, .left .. :: es, hown, hrun => by
    have hidle : callDepth 0 es = 0 := callDepth_zero es hown
    exact absurd hidle (Nat.ne_of_gt hrun)
  | depth + 1, .left .. :: es, hown, hrun => ownExchanges_of_running depth es hown hrun
  | depth, .noticed _ :: es, hown, hrun => ownExchanges_of_running depth es hown hrun
  | depth, .answered _ :: es, hown, hrun => ownExchanges_of_running depth es hown hrun

namespace Event

theorem Level.ownExchanges_eq_nil (hes : Level es) (depth : Nat) :
    ownExchanges (depth + 1) es = [] := by
  refine ownExchanges_of_running depth es (hes.hidden depth) ?_
  rw [hes.depth_eq]
  exact Nat.succ_pos depth

theorem Level.exchanges_append (hes : Level es) (later : List Event) :
    ownExchanges 0 (es ++ later) = ownExchanges 0 es ++ ownExchanges 0 later := by
  rw [ownExchanges_append, hes.depth_eq]

/-- A call shows itself and its reply, and nothing of what is nested in it. -/
theorem Level.exchanges_call (hes : Level es) (c : Call) (token : Option TokenId)
    (now now' : Situation) (reply : Except Failure c.Reply) :
    ownExchanges 0 (.entered c token now :: es ++ [.left c reply now']) = [⟨c, reply, now'⟩] := by
  show ownExchanges 1 (es ++ [.left c reply now']) = _
  rw [ownExchanges_append, hes.depth_eq, hes.ownExchanges_eq_nil]
  rfl

theorem level_answers : ∀ {es : List Event}, (∀ e ∈ es, e.isAnswer = true) → Level es
  | [], _ => level_nil
  | @Event.answered now answer :: _, h =>
    (level_answered now answer).append (level_answers fun e he => h e (List.mem_cons_of_mem _ he))
  | .entered .. :: _, h | .left .. :: _, h | .noticed _ :: _, h => by
    cases h _ (List.mem_cons_self ..)

end Event

/-! ## The exchanges of a piece of work -/

/-- From `w` to `u` exactly these calls were made and answered, and no other is running. -/
def World.Exchanged (w : World ω) (log : List Exchange) (u : World ω) : Prop :=
  ∃ es, u.past = es.reverse ++ w.past ∧ Event.Level es ∧ ownExchanges 0 es = log

namespace World

variable {log log' : List Exchange}

theorem Exchanged.refl (w : World ω) : w.Exchanged [] w := ⟨[], rfl, Event.level_nil, rfl⟩

theorem Exchanged.trans (hw : w.Exchanged log u) (hu : u.Exchanged log' v) :
    w.Exchanged (log ++ log') v := by
  obtain ⟨es, hp, hes, rfl⟩ := hw
  obtain ⟨es', hp', hes', rfl⟩ := hu
  exact ⟨es ++ es', by simp [hp, hp'], hes.append hes', hes.exchanges_append es'⟩

theorem Exchanged.notice (hw : w.Exchanged log u) (n : Notice) :
    w.Exchanged log (u.push (.noticed n)) := by
  obtain ⟨es, hp, hes, hlog⟩ := hw
  refine ⟨es ++ [.noticed n], by simp [push, hp], hes.append (Event.level_noticed n), ?_⟩
  rw [hes.exchanges_append, hlog]
  exact List.append_nil log

theorem Exchanged.congr (hw : w.Exchanged log u) (hp : v.past = u.past) : w.Exchanged log v := by
  obtain ⟨es, hu, hes⟩ := hw
  exact ⟨es, hp.trans hu, hes⟩

theorem Exchanged.notices (hw : w.Exchanged log u) : ∀ {notices : List Notice} {v : World ω},
    v.past = notices.map Event.noticed ++ u.past → w.Exchanged log v
  | [], _, hp => hw.congr hp
  | n :: notices, v, hp =>
    have hrest : w.Exchanged log { v with past := notices.map Event.noticed ++ u.past } :=
      hw.notices rfl
    (hrest.notice n).congr hp

/-- The history alone tells the exchanges. -/
theorem Exchanged.since_eq (hw : w.Exchanged log u) : u.exchangesSince w = log := by
  obtain ⟨es, hp, -, hlog⟩ := hw
  rw [exchangesSince, newsSince_of_append hp, List.reverse_reverse, hlog]

/-- What an exchange ended in is in the history. -/
theorem Exchanged.noted {e : Exchange} (hw : w.Exchanged log u) (he : e ∈ log) :
    e.event ∈ u.past := by
  obtain ⟨es, hp, -, rfl⟩ := hw
  rw [hp]
  exact List.mem_append_left _ (List.mem_reverse.2 (event_mem_of_mem_ownExchanges he))

/-- A call with no operation nested in it is an exchange. -/
theorem Called.exchanged {reply : Except Failure c.Reply} (hc : w.Called env token c reply u) :
    w.Exchanged [⟨c, reply, u.now⟩] u := by
  obtain ⟨answers, hp, ha⟩ := hc.past
  have hlevel : Event.Level answers.reverse :=
    Event.level_answers fun e he => ha e (List.mem_reverse.1 he)
  exact ⟨.entered c token w.now :: answers.reverse ++ [.left c reply u.now], by simp [hp],
    hlevel.call c token w.now u.now reply, hlevel.exchanges_call c token w.now u.now reply⟩

end World

/-- A call that was answered was entered and left, and what was nested in it does not show. -/
theorem Host.Closed.past_of_call (hh : h.Closed) (hn : h.environment.Nests Request.OfManager)
    {reply : Except Failure c.Reply} (hcall : h.call token c w = (.returned reply, u)) :
    ∃ nested, Event.Level nested ∧
      u.past = .left c reply u.now :: (nested.reverse ++ .entered c token w.now :: w.past) := by
  obtain ⟨-, hmade, -⟩ := Host.keeps_runNested (fun _ hv => hv.making)
    (fun _ now answer hv => hv.push (Event.level_answered now answer) rfl)
    (hh (h.entering token c w)) _ (hn c w.outside) _ (World.made_refl _ _)
  rcases hrun : h.runNested (h.environment.react c w.outside).nested (h.entering token c w)
    with ⟨o, v⟩
  rw [hrun] at hmade
  cases o with
  | returned a =>
    rw [Host.call_of_returned hrun] at hcall
    obtain ⟨hreply, rfl⟩ := Prod.mk.inj hcall
    obtain rfl := Outcome.returned.inj hreply
    obtain ⟨nested, (hv : v.past = _), hlevel, -⟩ := hmade a rfl
    have hp : v.past = nested.reverse ++ .entered c token w.now :: w.past := hv
    exact ⟨nested, hlevel, by simp [World.push, Host.replying, hp]⟩
  | failed f => exact absurd hrun (Host.runNested_ne_failed hn c w _ f)
  | stalled =>
    rw [Host.call_of_stalled hrun] at hcall
    cases hcall

/-- So it is an exchange. -/
theorem Host.Closed.exchanged (hh : h.Closed) (hn : h.environment.Nests Request.OfManager)
    {reply : Except Failure c.Reply} (hcall : h.call token c w = (.returned reply, u)) :
    w.Exchanged [⟨c, reply, u.now⟩] u := by
  obtain ⟨nested, hlevel, hp⟩ := hh.past_of_call hn hcall
  exact ⟨.entered c token w.now :: nested ++ [.left c reply u.now], by simp [hp],
    hlevel.call c token w.now u.now reply, hlevel.exchanges_call c token w.now u.now reply⟩

/-- A call was answered: what was nested in it only took steps, and does not show. -/
structure World.Answered (env : Environment ω) (w : World ω) (token : Option TokenId) (c : Call)
    (reply : Except Failure c.Reply) (u : World ω) : Prop where
  steps : ∃ v, Since env (w.push (.entered c token w.now)) v ∧ u = v.push (.left c reply v.now)
  exchanged : w.Exchanged [⟨c, reply, u.now⟩] u

theorem Host.Sound.answered (hh : h.Sound) (hc : h.Closed) {reply : Except Failure c.Reply}
    (hcall : h.call token c w = (.returned reply, u)) : w.Answered h.environment token c reply u :=
  ⟨((hh.call_ends token c w).of_eq_returned hcall).2, hc.exchanged hh.nests hcall⟩

/-- Work that starts with a call. Nothing is said of work that gives up. -/
theorem Act.Ends.answered_bind {β : Type} {k : Except Failure c.Reply → Act ω β}
    {P : β → World ω → Prop} {E : Failure → World ω → Prop} (hh : h.Sound) (hc : h.Closed)
    (hk : ∀ reply u, w.Answered h.environment token c reply u →
      Ends (fun _ => True) (k reply) u P E) :
    Ends (fun _ => True) (h.call token c >>= k) w P E := by
  rcases h.call_returned_or_stalled token c w with ⟨reply, u, hcall⟩ | ⟨u, hcall⟩
  · exact .of_eq (bind_eq hcall k) (hk reply u (hh.answered hc hcall))
  · exact .of_stalled (bind_stalled hcall k) trivial

/-! ## What exchanges tell -/

section
variable {α : Type} {pick : Exchange → Option α} {ts ts' : List α}

/-- The exchanges from `w` to `u` tell exactly this, when `pick` says what each of them tells. -/
def World.Told (pick : Exchange → Option α) (w : World ω) (ts : List α) (u : World ω) : Prop :=
  ∃ log, w.Exchanged log u ∧ log.filterMap pick = ts

namespace World

theorem Told.refl (pick : Exchange → Option α) (w : World ω) : w.Told pick [] w :=
  ⟨[], .refl w, rfl⟩

theorem Told.trans (hw : w.Told pick ts u) (hu : u.Told pick ts' v) :
    w.Told pick (ts ++ ts') v := by
  obtain ⟨log, hlog, rfl⟩ := hw
  obtain ⟨log', hlog', rfl⟩ := hu
  exact ⟨log ++ log', hlog.trans hlog', List.filterMap_append⟩

theorem Told.notice (hw : w.Told pick ts u) (n : Notice) :
    w.Told pick ts (u.push (.noticed n)) := by
  obtain ⟨log, hlog, hpick⟩ := hw
  exact ⟨log, hlog.notice n, hpick⟩

theorem Told.congr (hw : w.Told pick ts u) (hp : v.past = u.past) : w.Told pick ts v := by
  obtain ⟨log, hlog, hpick⟩ := hw
  exact ⟨log, hlog.congr hp, hpick⟩

/-- The history alone tells. -/
theorem Told.since_eq (hw : w.Told pick ts u) : (u.exchangesSince w).filterMap pick = ts := by
  obtain ⟨log, hlog, hpick⟩ := hw
  rw [hlog.since_eq, hpick]

theorem Called.told {reply : Except Failure c.Reply} (hc : w.Called env token c reply u) {a : α}
    (ha : pick ⟨c, reply, u.now⟩ = some a) : w.Told pick [a] u :=
  ⟨_, hc.exchanged, by simp [ha]⟩

theorem Called.told_nothing {reply : Except Failure c.Reply} (hc : w.Called env token c reply u)
    (hnone : pick ⟨c, reply, u.now⟩ = none) : w.Told pick [] u :=
  ⟨_, hc.exchanged, by simp [hnone]⟩

end World

section
variable {Good : Call → Prop}

/-- Nothing but a call can tell anything. -/
theorem Host.preserves_told {R : World ω → Prop} (hR : ∀ u, w.Told pick ts u → R u)
    (hcall : ∀ token c, Good c → Keeps R (w.Told pick ts) (h.call token c)) :
    h.Preserves Good R (w.Told pick ts) where
  always := hR
  notice := fun _ n hu => hu.notice n
  sockets := fun _ _ hu => hu
  create := fun _ _ hu => hu
  remove := fun _ _ hu => hu
  change := fun _ _ _ _ hu _ _ => hu
  call := hcall

/-- Calls that tell nothing leave it at what was told before. -/
theorem Host.Quiet.preserves_told (hh : h.Quiet) (hp : h.Prompt)
    (hpick : ∀ e : Exchange, Good e.call → pick e = none) (w : World ω) (ts : List α) :
    h.Preserves Good (w.Told pick ts) (w.Told pick ts) := by
  refine Host.preserves_told (fun _ hu => hu) fun token c hc u hu => ?_
  rcases hh.call_cases token c u with ⟨reply, v, hcall, hcalled⟩ | ⟨v, hcall, -⟩
  · have hv := hu.trans (hcalled.told_nothing (hpick ⟨c, reply, v.now⟩ hc))
    rw [List.append_nil] at hv
    exact .of_returned hcall hv hv
  · exact absurd (by rw [hcall]) (hp.call token c u)

/-- So they do when other operations are nested in them. -/
theorem Host.Closed.preserves_told (hc : h.Closed) (hn : h.environment.Nests Request.OfManager)
    (hpick : ∀ e : Exchange, Good e.call → pick e = none) (w : World ω) (ts : List α) :
    h.Preserves Good (fun _ => True) (w.Told pick ts) := by
  refine Host.preserves_told (fun _ _ => trivial) fun token c hgood u hu => ?_
  rcases h.call_returned_or_stalled token c u with ⟨reply, v, hcall⟩ | ⟨v, hcall⟩
  · have hv : u.Told pick [] v :=
      ⟨_, hc.exchanged hn hcall, by simp [hpick ⟨c, reply, v.now⟩ hgood]⟩
    have hall := hu.trans hv
    rw [List.append_nil] at hall
    exact .of_returned hcall trivial hall
  · exact .of_stalled hcall trivial

end

end

end TcpSessions
