import TcpSessions.Proofs.Manager.Exchanges
import TcpSessions.Proofs.Session.Attainable
/-!
# Who takes a session out of the table

A run of an operation goes by turns: stretches in which the operation is at work itself, and its
calls, in which others may be. The situations that the history keeps tell them apart
(`World.stretchesSince`), so they tell which sessions the operation took out of the table itself
(`World.unlinkedSince`) and which ones left it meanwhile (`World.lostMeanwhile`). A session that has
left the table does not come back (`Situation.Sheds`): of two operations, whether one follows the
other or is nested in it, no session is unlinked by both.
-/
namespace TcpSessions

open Act World

variable {ω : Type} {h : Host ω} {env : Environment ω} {w u v w' u' : World ω} {n : Nat}
variable {ref : SessionRef} {gone : List SessionRef} {s s' s'' start stop : Situation}
variable {es later : List Event} {c : Call} {token : Option TokenId}

/-! ## Leaving the table -/

namespace Situation

/-- The sessions that are tracked. -/
abbrev refs (s : Situation) : List SessionRef := s.registry.table.refs

/-- The session was created and is not tracked any more. -/
def Dropped (s : Situation) (ref : SessionRef) : Prop :=
  ref.index < s.registry.sessions.length ∧ ref ∉ s.refs

/-- From the first situation to the second, sessions may have left the table, but none has come
back. -/
structure Sheds (s s' : Situation) : Prop where
  tracked : ∀ ref ∈ s.refs, ref ∈ s'.refs ∨ s'.Dropped ref
  dropped : ∀ ref, s.Dropped ref → s'.Dropped ref

theorem Sheds.refl (s : Situation) : s.Sheds s := ⟨fun _ hr => .inl hr, fun _ hr => hr⟩

theorem Sheds.trans (hs : s.Sheds s') (hs' : s'.Sheds s'') : s.Sheds s'' where
  tracked := fun ref hr => (hs.tracked ref hr).elim (hs'.tracked ref) fun hd =>
    .inr (hs'.dropped ref hd)
  dropped := fun ref hr => hs'.dropped ref (hs.dropped ref hr)

end Situation

namespace World

theorem Step.sheds (hs : Step env n w u) (hi : w.now.registry.Indexed) : w.now.Sheds u.now where
  tracked := by
    intro ref hr
    by_cases hu : ref ∈ u.now.refs
    · exact .inl hu
    · exact .inr ⟨Nat.lt_of_lt_of_le (hi.index_lt hr) hs.count_le, hu⟩
  dropped := fun _ hr => ⟨Nat.lt_of_lt_of_le hr.1 hs.count_le, hs.untracked hr.1 hr.2⟩

/-- A step notes at most the situation that it starts from. -/
theorem Step.past_cases (hs : Step env n w u) : u.past = w.past ∨
    ∃ e : Event, u.past = e :: w.past ∧ (e.situation? = none ∨ e.situation? = some w.now) := by
  cases hs with
  | note e he =>
    refine .inr ⟨e, rfl, ?_⟩
    cases e with
    | noticed x => exact .inl rfl
    | answered a =>
      obtain rfl := he
      exact .inr rfl
    | entered c token now =>
      obtain ⟨rfl, -⟩ := he
      exact .inr rfl
    | left c reply now =>
      obtain ⟨rfl, -⟩ := he
      exact .inr rfl
  | attach f d ref x _ _ _ _ => exact .inr ⟨_, rfl, .inr rfl⟩
  | close socket ref x _ _ _ => exact .inr ⟨_, rfl, .inr rfl⟩
  | _ => exact .inl rfl

theorem Later.indexed (hu : w.Later env u) (hi : w.now.registry.Indexed) :
    u.now.registry.Indexed := by
  induction hu with
  | refl => exact hi
  | tail _ hs ih => exact hs.indexed ih

theorem Later.past_suffix (hu : w.Later env u) : w.past <:+ u.past := by
  induction hu with
  | refl => exact List.suffix_rfl
  | tail _ hs ih => exact ih.trans hs.past_suffix

/-- A situation more at the end. -/
theorem sheds_concat {l : List Situation} (hl : (l ++ [s]).Pairwise Situation.Sheds)
    (hs : s.Sheds s') : (l ++ [s] ++ [s']).Pairwise Situation.Sheds := by
  refine List.pairwise_append.2 ⟨hl, List.pairwise_singleton _ _, fun a ha b hb => ?_⟩
  obtain rfl := List.mem_singleton.1 hb
  rcases List.mem_append.1 ha with ha | ha
  · exact ((List.pairwise_append.1 hl).2.2 a ha s (List.mem_singleton_self s)).trans hs
  · rwa [List.mem_singleton.1 ha]

/-- Another situation at the end. -/
theorem sheds_last {l : List Situation} (hl : (l ++ [s]).Pairwise Situation.Sheds)
    (hs : s.Sheds s') : (l ++ [s']).Pairwise Situation.Sheds :=
  (sheds_concat hl hs).sublist ((List.sublist_append_left l [s]).append (.refl [s']))

theorem Later.exists_sheds (hu : w.Later env u) (hi : w.now.registry.Indexed) :
    ∃ es : List Event, u.past = es.reverse ++ w.past ∧
      (w.now :: es.filterMap Event.situation? ++ [u.now]).Pairwise Situation.Sheds := by
  induction hu with
  | refl => exact ⟨[], rfl, by simp [Situation.Sheds.refl]⟩
  | @tail v u hv hs ih =>
    obtain ⟨es, hp, hpairs⟩ := ih
    have hlast : v.now.Sheds u.now := hs.sheds (Later.indexed hv hi)
    rcases hs.past_cases with hsame | ⟨e, he, hnone | hsome⟩
    · exact ⟨es, hsame.trans hp, sheds_last hpairs hlast⟩
    · refine ⟨es ++ [e], by simp [he, hp], ?_⟩
      rw [List.filterMap_append, List.filterMap_cons_none hnone, List.filterMap_nil, List.append_nil]
      exact sheds_last hpairs hlast
    · refine ⟨es ++ [e], by simp [he, hp], ?_⟩
      rw [List.filterMap_append, List.filterMap_cons_some hsome, List.filterMap_nil]
      exact sheds_concat hpairs hlast

/-- Sessions are shed from each situation of a run to all that come after it. -/
theorem Later.sheds (hu : w.Later env u) (hi : w.now.registry.Indexed)
    (hp : u.past = es.reverse ++ w.past) :
    (w.now :: es.filterMap Event.situation? ++ [u.now]).Pairwise Situation.Sheds := by
  obtain ⟨es', hp', hpairs⟩ := hu.exists_sheds hi
  obtain rfl : es = es' :=
    List.reverse_injective (List.append_cancel_right (hp.symm.trans hp'))
  exact hpairs

end World

/-! ## The turns of a run -/

/-- A part of a run, from one situation to a later one, with the operation itself at work or with
one of its calls running. -/
structure Stretch where
  own : Bool
  start : Situation
  stop : Situation

/-- The sessions that leave the table in the course of a stretch. -/
def Stretch.lost (s : Stretch) : List SessionRef := s.start.refs.filter (· ∉ s.stop.refs)

/-- How things stand when an event enters the first of the calls that are running, or leaves the
last one. -/
def Event.turn? (depth : Nat) : Event → Option Situation
  | .entered _ _ now => if depth = 0 then some now else none
  | .left _ _ now => if depth = 1 then some now else none
  | _ => none

/-- The stretches that some events make, earliest first, when `depth` calls are running before them.
The first one began at `start`, and the last one ends at `stop`. -/
def stretches (stop : Situation) : Nat → Situation → List Event → List Stretch
  | depth, start, [] => [⟨depth = 0, start, stop⟩]
  | depth, start, e :: es =>
    match e.turn? depth with
    | some now => ⟨depth = 0, start, now⟩ :: stretches stop (callDepth depth [e]) now es
    | none => stretches stop (callDepth depth [e]) start es

/-- The stretches from an earlier world on, by turns with the operation at work and with a call of
it running. -/
def World.stretchesSince (u w : World ω) : List Stretch :=
  stretches u.now 0 w.now (u.newsSince w).reverse

/-- The sessions that leave the table in own stretches while some events happen. -/
def ownLosses (stop start : Situation) (es : List Event) : List SessionRef :=
  ((stretches stop 0 start es).filter (·.own)).flatMap Stretch.lost

/-- The sessions that an operation has taken out of the table itself since an earlier world. -/
def World.unlinkedSince (u w : World ω) : List SessionRef :=
  ownLosses u.now w.now (u.newsSince w).reverse

/-- The sessions that have left the table since an earlier world while calls were running. -/
def World.lostMeanwhile (u w : World ω) : List SessionRef :=
  ((u.stretchesSince w).filter (!·.own)).flatMap Stretch.lost

section
variable {e : Event} {depth : Nat} {now : Situation} {t : Stretch}

theorem stretches_of_turn (he : e.turn? depth = some now) :
    stretches stop depth start (e :: es) =
      ⟨depth = 0, start, now⟩ :: stretches stop (callDepth depth [e]) now es := by
  rw [stretches, he]

theorem stretches_of_no_turn (he : e.turn? depth = none) :
    stretches stop depth start (e :: es) = stretches stop (callDepth depth [e]) start es := by
  rw [stretches, he]

theorem Event.situation?_of_turn? (he : e.turn? depth = some now) : e.situation? = some now := by
  cases e with
  | entered c token now' => exact (Option.ite_none_right_eq_some.1 he).2
  | left c reply now' => exact (Option.ite_none_right_eq_some.1 he).2
  | _ => cases he

/-- While a call is running, what does not end it leaves one running. -/
theorem callDepth_of_no_turn (he : e.turn? (depth + 1) = none) :
    ∃ d, callDepth (depth + 1) [e] = d + 1 := by
  cases e with
  | entered c token now => exact ⟨_, rfl⟩
  | left c reply now =>
    cases depth with
    | zero => cases he
    | succ depth => exact ⟨depth, rfl⟩
  | _ => exact ⟨depth, rfl⟩

/-- Sessions are shed along the stretches when they are along the situations. -/
theorem stretches_shed : ∀ {es : List Event} {depth : Nat} {start : Situation},
    (start :: es.filterMap Event.situation? ++ [stop]).Pairwise Situation.Sheds →
    ∀ t ∈ stretches stop depth start es,
      start.Sheds t.start ∧ t.start.Sheds t.stop ∧ t.stop.Sheds stop
  | [], _, start, hp, t, ht => by
    obtain rfl := List.mem_singleton.1 ht
    exact ⟨.refl start, List.rel_of_pairwise_cons hp (List.mem_singleton_self stop), .refl stop⟩
  | e :: es, depth, start, hp, t, ht => by
    cases hturn : e.turn? depth with
    | none =>
      rw [stretches_of_no_turn hturn] at ht
      have hsub := ((List.sublist_cons_self e es).filterMap Event.situation?).cons_cons start
      exact stretches_shed (hp.sublist (hsub.append (.refl [stop]))) t ht
    | some now =>
      rw [stretches_of_turn hturn] at ht
      rw [List.filterMap_cons_some (Event.situation?_of_turn? hturn)] at hp
      obtain ⟨hstart, hrest⟩ := List.pairwise_cons.1 hp
      have hnow : start.Sheds now := hstart now (List.mem_cons_self ..)
      rcases List.mem_cons.1 ht with rfl | ht
      · exact ⟨.refl start, hnow, List.rel_of_pairwise_cons hrest (by simp)⟩
      · obtain ⟨hfirst, hlast⟩ := stretches_shed hrest t ht
        exact ⟨hnow.trans hfirst, hlast⟩

/-- A session that is tracked at first and not in the end leaves the table in some stretch. -/
theorem exists_lost (hn : ref ∉ stop.refs) : ∀ {es : List Event} {depth : Nat} {start : Situation},
    ref ∈ start.refs → ∃ t ∈ stretches stop depth start es, ref ∈ t.lost
  | [], _, start, hr =>
    ⟨_, List.mem_singleton_self _, List.mem_filter.2 ⟨hr, by simpa using hn⟩⟩
  | e :: es, depth, start, hr => by
    cases hturn : e.turn? depth with
    | none =>
      rw [stretches_of_no_turn hturn]
      exact exists_lost hn hr
    | some now =>
      rw [stretches_of_turn hturn]
      by_cases hnow : ref ∈ now.refs
      · have hrest : ∃ t ∈ stretches stop (callDepth depth [e]) now es, ref ∈ t.lost :=
          exists_lost hn hnow
        obtain ⟨t, ht, hlost⟩ := hrest
        exact ⟨t, List.mem_cons_of_mem _ ht, hlost⟩
      · exact ⟨_, List.mem_cons_self .., List.mem_filter.2 ⟨hr, by simpa using hnow⟩⟩

/-- So does one that is tracked when some stretch ends. -/
theorem exists_lost_of_stop (hn : ref ∉ stop.refs) :
    ∀ {es : List Event} {depth : Nat} {start : Situation}, ∀ t ∈ stretches stop depth start es,
      ref ∈ t.stop.refs → ∃ t' ∈ stretches stop depth start es, ref ∈ t'.lost
  | [], _, start, t, ht, hr => by
    obtain rfl := List.mem_singleton.1 ht
    exact absurd hr hn
  | e :: es, depth, start, t, ht, hr => by
    cases hturn : e.turn? depth with
    | none =>
      rw [stretches_of_no_turn hturn] at ht ⊢
      exact exists_lost_of_stop hn t ht hr
    | some now =>
      rw [stretches_of_turn hturn] at ht ⊢
      have hrest : ∃ t' ∈ stretches stop (callDepth depth [e]) now es, ref ∈ t'.lost := by
        rcases List.mem_cons.1 ht with rfl | ht
        · exact exists_lost hn hr
        · exact exists_lost_of_stop hn t ht hr
      obtain ⟨t', ht', hlost⟩ := hrest
      exact ⟨t', List.mem_cons_of_mem _ ht', hlost⟩

/-! ## Running calls -/

/-- What happens inside a running call makes no stretch of its own. -/
theorem stretches_of_running : ∀ (depth : Nat) (es : List Event), ownStarts (depth + 1) es = [] →
    0 < callDepth (depth + 1) es → stretches stop (depth + 1) start (es ++ later) =
      stretches stop (callDepth (depth + 1) es) start later
  | _, [], _, _ => rfl
  | depth, .entered .. :: es, hown, hrun => stretches_of_running (depth + 1) es hown hrun
  | 0, .left .. :: es, hown, hrun => by
    have hidle : callDepth 0 es = 0 := callDepth_zero es hown
    exact absurd hidle (Nat.ne_of_gt hrun)
  | depth + 1, .left .. :: es, hown, hrun => stretches_of_running depth es hown hrun
  | depth, .noticed _ :: es, hown, hrun => stretches_of_running depth es hown hrun
  | depth, .answered _ :: es, hown, hrun => stretches_of_running depth es hown hrun

/-- What happens while a call is running is one stretch more, between two own ones. -/
theorem stretches_call (hes : Event.Level es) (c : Call) (token : Option TokenId)
    (now now' : Situation) (reply : Except Failure c.Reply) :
    stretches stop 0 start (.entered c token now :: es ++ .left c reply now' :: later) =
      ⟨true, start, now⟩ :: ⟨false, now, now'⟩ :: stretches stop 0 now' later := by
  show _ :: stretches stop 1 now (es ++ .left c reply now' :: later) = _
  have hrun : 0 < callDepth 1 es := by
    rw [hes.depth_eq]
    exact Nat.one_pos
  rw [stretches_of_running 0 es (hes.hidden 0) hrun, hes.depth_eq]
  rfl

/-- Own stretches begin after a running call, whenever that began. -/
theorem own_of_running (ho : t.own = true) : ∀ {es : List Event} {depth : Nat},
    t ∈ stretches stop (depth + 1) start es → ∀ start', t ∈ stretches stop (depth + 1) start' es
  | [], depth, ht, _ => by
    obtain rfl := List.mem_singleton.1 ht
    cases ho
  | e :: es, depth, ht, start' => by
    cases hturn : e.turn? (depth + 1) with
    | none =>
      rw [stretches_of_no_turn hturn] at ht ⊢
      obtain ⟨d, hd⟩ := callDepth_of_no_turn hturn
      rw [hd] at ht ⊢
      exact own_of_running ho ht start'
    | some now =>
      rw [stretches_of_turn hturn] at ht ⊢
      rcases List.mem_cons.1 ht with rfl | ht
      · cases ho
      · exact List.mem_cons_of_mem _ ht

/-- An own stretch ends before a call that is running, or begins after it. -/
theorem own_append (ho : t.own = true) (stop' start' : Situation) :
    ∀ {es : List Event} {depth : Nat} {start : Situation}, 0 < callDepth depth es →
      t ∈ stretches stop depth start (es ++ later) →
      t ∈ stretches stop' depth start es ∨ t ∈ stretches stop (callDepth depth es) start' later
  | [], 0, _, hrun, _ => absurd hrun (Nat.lt_irrefl 0)
  | [], depth + 1, _, _, ht => .inr (own_of_running ho ht start')
  | e :: es, depth, start, hrun, ht => by
    have hdepth : callDepth depth (e :: es) = callDepth (callDepth depth [e]) es :=
      callDepth_append depth [e] es
    rw [hdepth] at hrun ⊢
    cases hturn : e.turn? depth with
    | none =>
      rw [List.cons_append, stretches_of_no_turn hturn] at ht
      rw [stretches_of_no_turn hturn]
      exact own_append ho stop' start' hrun ht
    | some now =>
      rw [List.cons_append, stretches_of_turn hturn] at ht
      rw [stretches_of_turn hturn]
      rcases List.mem_cons.1 ht with rfl | ht
      · exact .inl (List.mem_cons_self ..)
      · exact (own_append ho stop' start' hrun ht).imp_left (List.mem_cons_of_mem _)

end

/-! ## No session is unlinked twice -/

namespace World

/-- An operation that started in `w` has a call running in `w'`. -/
def Waits (w w' : World ω) : Prop := 0 < callDepth 0 (w'.newsSince w).reverse

theorem exists_of_mem_unlinkedSince (hr : ref ∈ u.unlinkedSince w) :
    ∃ t ∈ u.stretchesSince w, t.own = true ∧ ref ∈ t.start.refs ∧ ref ∉ t.stop.refs := by
  obtain ⟨t, ht, hlost⟩ := List.mem_flatMap.1 hr
  obtain ⟨hmem, hown⟩ := List.mem_filter.1 ht
  obtain ⟨hstart, hstop⟩ := List.mem_filter.1 hlost
  exact ⟨t, hmem, hown, hstart, by simpa using hstop⟩

/-- A session that leaves the table in a stretch is dropped when that ends. -/
theorem dropped_of_lost {t : Stretch} (ht : t.start.Sheds t.stop) (hr : ref ∈ t.start.refs)
    (hn : ref ∉ t.stop.refs) : t.stop.Dropped ref :=
  (ht.tracked ref hr).resolve_left hn

variable (hi : w.now.registry.Indexed) (hu : w.Later env u)

include hi hu

theorem Later.stretches_shed {t : Stretch} (ht : t ∈ u.stretchesSince w) :
    w.now.Sheds t.start ∧ t.start.Sheds t.stop ∧ t.stop.Sheds u.now := by
  obtain ⟨es, hp, hpairs⟩ := hu.exists_sheds hi
  rw [stretchesSince, newsSince_of_append hp, List.reverse_reverse] at ht
  exact TcpSessions.stretches_shed hpairs t ht

/-- What an operation unlinked was not dropped before and is dropped since. -/
theorem Later.dropped_of_unlinked (hr : ref ∈ u.unlinkedSince w) :
    ¬ w.now.Dropped ref ∧ u.now.Dropped ref := by
  obtain ⟨t, ht, -, hstart, hstop⟩ := exists_of_mem_unlinkedSince hr
  obtain ⟨hfirst, hstretch, hlast⟩ := hu.stretches_shed hi ht
  exact ⟨fun hd => (hfirst.dropped ref hd).2 hstart,
    hlast.dropped ref (dropped_of_lost hstretch hstart hstop)⟩

/-- Two operations of which one follows the other unlink different sessions. -/
theorem Later.disjoint_of_following (hw' : u.Later env w') (hu' : w'.Later env u') :
    (u.unlinkedSince w).Disjoint (u'.unlinkedSince w') := by
  intro ref hr hr'
  have hiu : u.now.registry.Indexed := hu.indexed hi
  obtain ⟨es, hp, hpairs⟩ := hw'.exists_sheds hiu
  have hsheds : u.now.Sheds w'.now := List.rel_of_pairwise_cons hpairs (by simp)
  exact (hu'.dropped_of_unlinked (hw'.indexed hiu) hr').1
    (hsheds.dropped ref (hu.dropped_of_unlinked hi hr).2)

omit hu in
/-- An operation and one that is nested in a call of it unlink different sessions. -/
theorem Later.disjoint_of_nested (hw' : w.Later env w') (hrun : w.Waits w')
    (hmade : w'.Made (fun _ => True) u') (hu' : w'.Later env u') (hu : u'.Later env u) :
    (u.unlinkedSince w).Disjoint (u'.unlinkedSince w') := by
  intro ref hr hr'
  have hi' : w'.now.registry.Indexed := hw'.indexed hi
  obtain ⟨hbefore, hafter⟩ := hu'.dropped_of_unlinked hi' hr'
  obtain ⟨es, hp, hpairs⟩ := hw'.exists_sheds hi
  obtain ⟨nested, hpn, hlevel, -⟩ := hmade
  obtain ⟨es', hp', hpairs'⟩ := hu.exists_sheds (hu'.indexed hi')
  obtain ⟨t, ht, hown, hstart, hstop⟩ := exists_of_mem_unlinkedSince hr
  rw [Waits, newsSince_of_append hp, List.reverse_reverse] at hrun
  have hall : u.past = (es ++ (nested ++ es')).reverse ++ w.past := by simp [hp', hpn, hp]
  rw [stretchesSince, newsSince_of_append hall, List.reverse_reverse] at ht
  rcases own_append hown w'.now u'.now hrun ht with ht | ht
  · -- the outer operation would have unlinked it before the nested one started
    obtain ⟨-, hstretch, hlast⟩ := TcpSessions.stretches_shed hpairs t ht
    exact hbefore (hlast.dropped ref (dropped_of_lost hstretch hstart hstop))
  · -- the nested one had unlinked it before the outer one went on
    obtain ⟨d, hd⟩ : ∃ d, callDepth 0 es = d + 1 := ⟨_, (Nat.succ_pred_eq_of_pos hrun).symm⟩
    have hnested : 0 < callDepth (d + 1) nested := by
      rw [hlevel.depth_eq]
      exact Nat.succ_pos d
    rw [hd, stretches_of_running d nested (hlevel.hidden d) hnested] at ht
    obtain ⟨hfirst, -⟩ := TcpSessions.stretches_shed hpairs' t ht
    exact (hfirst.dropped ref hafter).2 hstart

end World

/-! ## What a piece of work unlinks -/

/-- The operation is at work until it enters a call. -/
theorem callDepth_zero_of_no_turn {e : Event} (he : e.turn? 0 = none) : callDepth 0 [e] = 0 := by
  cases e with
  | entered c token now => cases he
  | _ => rfl

theorem Stretch.lost_eq_nil {t : Stretch} (ht : t.start.refs = t.stop.refs) : t.lost = [] := by
  unfold Stretch.lost
  rw [ht]
  exact List.filter_eq_nil_iff.2 fun ref hr => by simp [hr]

/-- Nothing leaves the table in the stretch that is under way when a call comes that finds the table
as it was; what is lost in the call is not lost in an own stretch. -/
theorem ownLosses_call (hes : Event.Level es) (c : Call) (token : Option TokenId)
    {now : Situation} (hstart : start.refs = now.refs) (now' : Situation)
    (reply : Except Failure c.Reply) :
    ownLosses stop start (.entered c token now :: es ++ .left c reply now' :: later) =
      ownLosses stop now' later := by
  have hnone : Stretch.lost ⟨true, start, now⟩ = [] := Stretch.lost_eq_nil hstart
  rw [ownLosses, stretches_call hes]
  simp [hnone, ownLosses]

section
variable {mid : Situation}

/-- A session less that is tracked is one less to lose. -/
theorem lost_untrack (hd : start.refs.Nodup) (hr : ref ∈ start.refs)
    (hmid : mid.refs = start.refs.filter (· ≠ ref)) (hn : ref ∉ s.refs) :
    (Stretch.lost ⟨true, start, s⟩).Perm (ref :: Stretch.lost ⟨true, mid, s⟩) := by
  have hout : ref ∉ Stretch.lost ⟨true, mid, s⟩ := fun hmem => by
    have hin : ref ∈ mid.refs := (List.mem_filter.1 hmem).1
    simp [hmid] at hin
  have hmidd : mid.refs.Nodup := by
    rw [hmid]
    exact hd.filter _
  refine (List.perm_ext_iff_of_nodup (hd.filter _)
    (List.nodup_cons.2 ⟨hout, hmidd.filter _⟩)).2 fun r => ?_
  by_cases heq : r = ref
  · subst heq
    simp [Stretch.lost, hr, hn]
  · simp [Stretch.lost, hmid, heq]

/-- What is unlinked in the stretch that is under way leaves the table in it. -/
theorem ownLosses_untrack (hd : start.refs.Nodup) (hr : ref ∈ start.refs)
    (hmid : mid.refs = start.refs.filter (· ≠ ref)) : ∀ {es : List Event},
    (∀ s ∈ es.filterMap Event.situation? ++ [stop], ref ∉ s.refs) →
    (ownLosses stop start es).Perm (ref :: ownLosses stop mid es)
  | [], hn => by
    have hlost := lost_untrack hd hr hmid (hn stop (by simp))
    simpa [ownLosses, stretches] using hlost
  | e :: es, hn => by
    unfold ownLosses
    cases hturn : e.turn? 0 with
    | none =>
      rw [stretches_of_no_turn hturn, stretches_of_no_turn hturn, callDepth_zero_of_no_turn hturn]
      refine ownLosses_untrack hd hr hmid fun s hs => hn s ?_
      have hsub := ((List.sublist_cons_self e es).filterMap Event.situation?).append (.refl [stop])
      exact hsub.subset hs
    | some now =>
      rw [stretches_of_turn hturn, stretches_of_turn hturn]
      have hnow : ref ∉ now.refs := hn now (by simp [Event.situation?_of_turn? hturn])
      have hlost := lost_untrack hd hr hmid hnow
      simpa using hlost.append_right _

end

/-- From `w` to `u` an operation took just these sessions out of the table itself, in this order. -/
structure World.Unlinks (w : World ω) (gone : List SessionRef) (u : World ω) : Prop where
  indexed : u.now.registry.Indexed
  nodup : gone.Nodup
  dropped : ∀ ref ∈ gone, u.now.Dropped ref
  /-- Whatever it does next adds to them. -/
  losses : ∃ es, u.past = es.reverse ++ w.past ∧ ∀ start stop later, start.refs = w.now.refs →
    (∀ s ∈ later.filterMap Event.situation? ++ [stop], ∀ ref ∈ gone, ref ∉ s.refs) →
    ∃ mid, mid.refs = u.now.refs ∧
      (ownLosses stop start (es ++ later)).Perm (gone ++ ownLosses stop mid later)

namespace World.Unlinks

theorem refl (hi : w.now.registry.Indexed) : w.Unlinks [] w where
  indexed := hi
  nodup := List.nodup_nil
  dropped := by simp
  losses := ⟨[], rfl, fun start _ _ hstart _ => ⟨start, hstart, .refl _⟩⟩

/-- The history alone tells what was unlinked. -/
theorem since_perm (hu : w.Unlinks gone u) : (u.unlinkedSince w).Perm gone := by
  obtain ⟨es, hp, hlosses⟩ := hu.losses
  obtain ⟨mid, hmid, hperm⟩ := hlosses w.now u.now [] rfl fun s hs ref hr => by
    obtain rfl : s = u.now := by simpa using hs
    exact (hu.dropped ref hr).2
  have hnone : ownLosses u.now mid [] = [] := by
    have hlost := Stretch.lost_eq_nil (t := ⟨true, mid, u.now⟩) hmid
    simpa [ownLosses, stretches] using hlost
  rw [hnone, List.append_nil, List.append_nil] at hperm
  rwa [unlinkedSince, newsSince_of_append hp, List.reverse_reverse]

theorem notice (hu : w.Unlinks gone u) (x : Notice) : w.Unlinks gone (u.push (.noticed x)) where
  indexed := hu.indexed
  nodup := hu.nodup
  dropped := hu.dropped
  losses := by
    obtain ⟨es, hp, hlosses⟩ := hu.losses
    refine ⟨es ++ [.noticed x], by simp [push, hp], fun start stop later hstart hn => ?_⟩
    rw [List.append_assoc]
    exact hlosses start stop (.noticed x :: later) hstart hn

/-- A session changes that stays the same one. -/
theorem change {x y : Session} (hu : w.Unlinks gone u) (hx : u.now.registry.get? ref = some x)
    (hid : y.id = x.id) : w.Unlinks gone (u.setRegistry (u.now.registry.set ref y)) where
  indexed := hu.indexed.set hx hid
  nodup := hu.nodup
  dropped := fun r hr => by
    obtain ⟨hlt, hn⟩ := hu.dropped r hr
    exact ⟨by simpa [setRegistry] using hlt, hn⟩
  losses := hu.losses

/-- A session that is tracked is unlinked. -/
theorem untrack (hu : w.Unlinks gone u) (hr : (u.now.registry.remove ref).1 = true) :
    w.Unlinks (gone ++ [ref]) (u.without ref) := by
  have hin : ref ∈ u.now.refs := Registry.mem_refs_of_remove hr
  have hrefs : (u.without ref).now.refs = u.now.refs.filter (· ≠ ref) :=
    (hu.indexed.remove_spec ref).2
  have hdropped : ∀ r ∈ gone ++ [ref], (u.without ref).now.Dropped r := by
    intro r hmem
    have hlt : r.index < u.now.registry.sessions.length ∧ r ∉ (u.without ref).now.refs := by
      rw [hrefs]
      rcases List.mem_append.1 hmem with hmem | hmem
      · obtain ⟨hlt, hn⟩ := hu.dropped r hmem
        exact ⟨hlt, fun h => hn (List.mem_filter.1 h).1⟩
      · obtain rfl := List.mem_singleton.1 hmem
        exact ⟨hu.indexed.index_lt hin, by simp⟩
    exact ⟨by simpa [setRegistry] using hlt.1, hlt.2⟩
  have hout : ref ∉ gone := fun hmem => (hu.dropped ref hmem).2 hin
  refine ⟨hu.indexed.remove ref, ?_, hdropped, ?_⟩
  · exact List.nodup_append.2 ⟨hu.nodup, List.nodup_singleton ref, fun a ha b hb => by
      obtain rfl := List.mem_singleton.1 hb
      rintro rfl
      exact hout ha⟩
  obtain ⟨es, hp, hlosses⟩ := hu.losses
  refine ⟨es, hp, fun start stop later hstart hn => ?_⟩
  obtain ⟨mid, hmid, hperm⟩ := hlosses start stop later hstart fun s hs r hr =>
    hn s hs r (List.mem_append_left _ hr)
  have hlost : (ownLosses stop mid later).Perm (ref :: ownLosses stop (u.without ref).now later) :=
    ownLosses_untrack (by rw [hmid]; exact hu.indexed.nodup_refs) (by rwa [hmid])
      (by rw [hrefs, hmid]) fun s hs => hn s hs ref (by simp)
  refine ⟨_, rfl, hperm.trans ?_⟩
  rw [List.append_assoc]
  exact hlost.append_left gone

/-- One that is not tracked is not. -/
theorem untrack_missing (hu : w.Unlinks gone u) (hr : (u.now.registry.remove ref).1 = false) :
    w.Unlinks gone (u.without ref) := by
  have hout : ref ∉ u.now.registry.table.refs := by
    simpa [(hu.indexed.remove_spec ref).1] using hr
  rwa [without, Registry.remove_of_notMem hout]

/-- What others take out of the table while a call is running does not count. -/
theorem call (hh : h.Sound) (hc : h.Closed) {reply : Except Failure c.Reply}
    (hu : w.Unlinks gone u) (hcall : h.call token c u = (.returned reply, v)) :
    w.Unlinks gone v := by
  obtain ⟨nested, hlevel, hp⟩ := hc.past_of_call hh.nests hcall
  obtain ⟨x, hsince, rfl⟩ := ((hh.call_ends token c u).of_eq_returned hcall).2
  have hx : x.past = nested.reverse ++ (u.push (.entered c token u.now)).past :=
    (List.cons.inj hp).2
  have hpairs := hsince.later.sheds hu.indexed hx
  have hsheds : ∀ s ∈ nested.filterMap Event.situation? ++ [x.now], u.now.Sheds s :=
    fun s hs => List.rel_of_pairwise_cons hpairs hs
  have hlast : u.now.Sheds x.now := hsheds x.now (by simp)
  refine ⟨hsince.later.indexed hu.indexed, hu.nodup,
    fun r hr => hlast.dropped r (hu.dropped r hr), ?_⟩
  obtain ⟨es, hes, hlosses⟩ := hu.losses
  refine ⟨es ++ (.entered c token u.now :: nested ++ [.left c reply x.now]),
    by simp [push, hx, hes], fun start stop later hstart hn => ?_⟩
  have hshape : es ++ (.entered c token u.now :: nested ++ [.left c reply x.now]) ++ later =
      es ++ (.entered c token u.now :: nested ++ .left c reply x.now :: later) := by simp
  have hgone : ∀ s, u.now.Sheds s → ∀ r ∈ gone, r ∉ s.refs :=
    fun s hs r hr => (hs.dropped r (hu.dropped r hr)).2
  rw [hshape]
  obtain ⟨mid, hmid, hperm⟩ := hlosses start stop
    (.entered c token u.now :: nested ++ .left c reply x.now :: later) hstart fun s hs => by
      have hs' : s = u.now ∨ s ∈ nested.filterMap Event.situation? ++ [x.now] ∨
          s ∈ later.filterMap Event.situation? ++ [stop] := by
        simp only [List.cons_append, List.filterMap_cons, Event.situation?, List.filterMap_append,
          List.mem_cons, List.mem_append, List.append_assoc, List.not_mem_nil] at hs ⊢
        tauto
      rcases hs' with rfl | hs' | hs'
      · exact hgone _ (.refl _)
      · exact hgone s (hsheds s hs')
      · exact hn s hs'
  rw [ownLosses_call hlevel c token hmid x.now reply] at hperm
  exact ⟨x.now, rfl, hperm⟩

end World.Unlinks

/-- What an operation unlinks itself it does not unlink in calls. -/
theorem Host.attends_unlinks (hh : h.Sound) (hc : h.Closed) (w : World ω) (gone : List SessionRef) :
    h.Attends (fun _ => True) (fun _ => True) (w.Unlinks gone) where
  always := fun _ _ => trivial
  notice := fun _ x hu => hu.notice x
  call := fun token c _ u hu => by
    rcases h.call_returned_or_stalled token c u with ⟨reply, v, hcall⟩ | ⟨v, hcall⟩
    · exact .of_returned hcall trivial (hu.call hh hc hcall)
    · exact .of_stalled hcall trivial

end TcpSessions
