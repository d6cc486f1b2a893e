import TcpSessions.Proofs.Manager.ClosingOne
import TcpSessions.Proofs.Manager.Unlinking
/-!
# Tearing down while others do the same

A teardown goes through the sessions that were tracked when it started. Meanwhile the closes that it
makes may run anything: further teardowns, closes of sessions that are still to come, opens of new
ones. `World.Drained` says what one turn after another adds up to, and `Manager.drain_unlinks` that
the answer counts what the drain took out of the table itself.
-/
namespace TcpSessions

open Act World

variable {ω : Type} {h : Host ω} {env : Environment ω} {m : Manager} {w u v : World ω}
variable {ref : SessionRef} {refs gone : List SessionRef} {x : Session} {handle : Handle}
variable {socket : Socket} {log : List Exchange}

/-! ## The sockets that are to be closed -/

/-- The socket of a session that has a handle. -/
def Registry.openSocket? (r : Registry) (ref : SessionRef) : Option Socket :=
  (r.get? ref).bind fun x => if x.isOpen then x.socket else none

/-- The sockets of those of some sessions that have a handle, in order. -/
def Registry.openSockets (r : Registry) (refs : List SessionRef) : List Socket :=
  refs.filterMap r.openSocket?

theorem Registry.openSocket?_eq_some {r : Registry} : r.openSocket? ref = some socket ↔
    ∃ x, r.get? ref = some x ∧ x.isOpen = true ∧ x.socket = some socket := by
  unfold openSocket?
  cases hx : r.get? ref with
  | none => simp
  | some x =>
    simp only [Option.bind_some, Option.some.injEq, exists_eq_left']
    split <;> simp_all

theorem Registry.openSockets_cons (r : Registry) (ref : SessionRef) (refs : List SessionRef) :
    r.openSockets (ref :: refs) = (r.openSocket? ref).toList ++ r.openSockets refs := by
  unfold openSockets
  cases hr : r.openSocket? ref with
  | none => rw [List.filterMap_cons_none hr]; rfl
  | some socket => rw [List.filterMap_cons_some hr]; rfl

/-- A session that others may only close has the socket it had, if it is still open. -/
theorem World.Since.openSocket? (hs : Since env w u) (hx : w.now.registry.get? ref = some x)
    (hu : u.now.registry.openSocket? ref = some socket) :
    w.now.registry.openSocket? ref = some socket := by
  obtain ⟨y, hy, ho, hsock⟩ := Registry.openSocket?_eq_some.1 hu
  obtain ⟨x', hx', hk⟩ := hs.kept hx
  obtain rfl := Option.some.inj (hy.symm.trans hx')
  rcases hk with rfl | ⟨-, rfl, -⟩
  · exact Registry.openSocket?_eq_some.2 ⟨_, hx, ho, hsock⟩
  · cases ho

theorem World.Since.openSockets_sublist (hs : Since env w u)
    (hrefs : ∀ ref ∈ refs, ∃ x, w.now.registry.get? ref = some x) :
    (u.now.registry.openSockets refs).Sublist (w.now.registry.openSockets refs) := by
  induction refs with
  | nil => exact List.Sublist.refl _
  | cons ref rest ih =>
    obtain ⟨x, hx⟩ := hrefs ref (by simp)
    rw [Registry.openSockets_cons, Registry.openSockets_cons]
    refine List.Sublist.append ?_ (ih fun s hs => hrefs s (by simp [hs]))
    cases hu : u.now.registry.openSocket? ref with
    | some socket =>
      rw [hs.openSocket? hx hu]
    | none => exact List.nil_sublist _

namespace Manager

/-- A turn comes first, and the drain goes on from where it left. -/
theorem drain_cons (hclose : closeForTeardown h ref w = (.returned (), v)) :
    drain h (ref :: refs) w = (drain h refs >>= fun others =>
      pure ((if (v.now.registry.remove ref).1 then 1 else 0) + others)) (v.without ref) :=
  (bind_eq hclose _).trans (bind_eq rfl _)

/-! ## One turn -/

/-- A close of a session closes its socket once, and goes by the reply. -/
theorem closeSession_exchanged (hh : h.Sound) (hc : h.Closed)
    (hx : w.HasSocket ref x handle socket) :
    Ends (fun _ => True) (closeSession h ref) w
      (fun _ u => ∃ now, w.Exchanged [⟨.close socket, .ok (), now⟩] u)
      (fun f u => ∃ g now, w.Exchanged [⟨.close socket, .error g, now⟩] u ∧
        f = closeFailure handle.number g) := by
  unfold closeSession
  refine .of_eq (bind_eq (session_some hx.session) _) ?_
  simp only [hx.handle, hx.socket]
  refine .answered_bind hh hc fun reply u ha => ?_
  have hexchanged := ha.exchanged
  obtain ⟨v, hsince, rfl⟩ := ha.steps
  have hentered : (w.push (.entered (.close socket) none w.now)).now.registry.get? ref = some x :=
    hx.session
  obtain ⟨y, hy, -⟩ := hsince.kept hentered
  cases reply with
  | error f =>
    dsimp only
    split
    · rename_i hsys
      exact .notice_bind (.fail trivial ⟨f, _, hexchanged.notice _, by simp [closeFailure, hsys]⟩)
    · rename_i hsys
      exact .fail trivial ⟨f, _, hexchanged, by simp [closeFailure, hsys]⟩
  | ok a =>
    refine .changeSession_bind hy (fun z _ => ?_) (fun e he => by cases he)
    exact .of_returned rfl trivial ⟨_, (hexchanged.congr rfl).notice _⟩

/-- In its turn a session that has a handle is closed once, and one that has none is let be. -/
theorem closeForTeardown_exchanged (hh : h.Sound) (hc : h.Closed) (hw : w.now.Valid)
    (hx : w.now.registry.get? ref = some x) :
    Ends (fun _ => True) (closeForTeardown h ref) w
      (fun _ u => ∃ log, w.Exchanged log u ∧
        log.map (·.call) = (w.now.registry.openSocket? ref).toList.map .close)
      (fun _ u => ∃ log, w.Exchanged log u ∧ ∃ e ∈ log, e.event.closesPlainly = false) := by
  unfold closeForTeardown
  refine .of_eq (bind_eq (session_some hx) _) ?_
  split
  · rename_i ho
    obtain ⟨handle, socket, hs⟩ := hw.hasSocket hx ho
    have hsocket : w.now.registry.openSocket? ref = some socket :=
      Registry.openSocket?_eq_some.2 ⟨x, hx, ho, hs.socket⟩
    rw [hsocket]
    refine .attempt_bind (closeSession_exchanged hh hc hs) (fun _ u _ hu => ?_) ?_
    · obtain ⟨now, hu⟩ := hu
      exact .pure trivial ⟨_, hu, rfl⟩
    · rintro f u - ⟨g, now, hu, rfl⟩
      dsimp only
      split
      · exact .of_returned rfl trivial ⟨_, hu.notice _, rfl⟩
      · rename_i hother
        -- the failure of a plain close would name the close
        have hstray : ¬ g.Plain := fun hg =>
          hother handle.number (some g.errnoOr) (by rw [hg.closeFailure_eq])
        exact .fail trivial ⟨_, hu, _, List.mem_singleton_self _,
          by simpa [Exchange.event, Event.closesPlainly] using hstray⟩
  · rename_i ho
    have hsocket : w.now.registry.openSocket? ref = none := by
      simp [Registry.openSocket?, hx, ho]
    rw [hsocket]
    exact .pure trivial ⟨[], .refl w, rfl⟩

end Manager

/-! ## One turn after another -/

/-- From `w` to `u` some sessions had their turn. -/
structure World.Drained (env : Environment ω) (w : World ω) (refs : List SessionRef) (u : World ω) :
    Prop where
  since : Since env w u
  /-- Only open sockets of these sessions were closed, in their order. -/
  exchanged : ∃ log, w.Exchanged log u ∧
    (log.map (·.call)).Sublist ((w.now.registry.openSockets refs).map .close)
  gone : ∀ ref ∈ refs, ref ∉ u.now.registry.table.refs
  /-- A close of the socket of a session that still has a handle was answered. -/
  tried : ∀ ref ∈ refs, ∀ socket, u.now.registry.openSocket? ref = some socket →
    ∃ reply now, .left (.close socket) reply now ∈ u.past

theorem World.Drained.nil (env : Environment ω) (w : World ω) : w.Drained env [] w where
  since := .refl w
  exchanged := ⟨[], .refl w, .refl _⟩
  gone := by simp
  tried := by simp

theorem Exchange.noted_of_call {c : Call} (hw : w.Exchanged log u) (hc : c ∈ log.map (·.call)) :
    ∃ reply now, .left c reply now ∈ u.past := by
  obtain ⟨⟨c, reply, now⟩, he, rfl⟩ := List.mem_map.1 hc
  exact ⟨reply, now, hw.noted he⟩

/-- One more session has its turn first. -/
theorem World.Drained.cons {rest : List SessionRef} (hw : w.now.Valid)
    (hrefs : ∀ s ∈ ref :: rest, ∃ x, w.now.registry.get? s = some x) (hs : Since env w v)
    (hf : v.MayForget ref) (hlog : w.Exchanged log v)
    (hcalls : log.map (·.call) = (w.now.registry.openSocket? ref).toList.map .close)
    (hrest : (v.without ref).Drained env rest u) : w.Drained env (ref :: rest) u := by
  have hstep : Since env w (v.without ref) := hs.step (.untrack ref hf)
  have hall : Since env w u := hstep.trans hrest.since
  obtain ⟨x, hx⟩ := hrefs ref (by simp)
  have hlt : ref.index < (v.without ref).count :=
    Nat.lt_of_lt_of_le (Registry.index_lt hx) hstep.count_le
  constructor
  · exact hall
  · obtain ⟨later, hlater, hsub⟩ := hrest.exchanged
    refine ⟨log ++ later, hlog.trans hlater, ?_⟩
    have hsame := hstep.openSockets_sublist fun s hs => hrefs s (List.mem_cons_of_mem _ hs)
    rw [List.map_append, hcalls, Registry.openSockets_cons, List.map_append]
    exact List.Sublist.append (.refl _) (hsub.trans (hsame.map _))
  · intro s hmem
    rcases List.mem_cons.1 hmem with rfl | hmem
    · refine hrest.since.later.untracked hlt ?_
      show s ∉ (v.now.registry.remove s).2.table.refs
      rw [((hs.valid hw).indexed.remove_spec s).2]
      simp
    · exact hrest.gone s hmem
  · intro s hmem socket hsocket
    rcases List.mem_cons.1 hmem with rfl | hmem
    · have hbefore := hall.openSocket? hx hsocket
      obtain ⟨reply, now, hnoted⟩ := Exchange.noted_of_call (c := .close socket) hlog
        (by rw [hcalls, hbefore]; simp)
      exact ⟨reply, now, hrest.since.past_suffix.subset hnoted⟩
    · exact hrest.tried s hmem socket hsocket

namespace Manager

/-- However the turns go, they add up; what stops them is a close that does not fail plainly. -/
theorem drain_drained (hh : h.Sound) (hc : h.Closed) : ∀ (refs : List SessionRef) (w : World ω),
    w.now.Valid → (∀ ref ∈ refs, ∃ x, w.now.registry.get? ref = some x) →
    Ends (fun _ => True) (drain h refs) w (fun _ u => w.Drained h.environment refs u)
      (fun _ u => ∃ log, w.Exchanged log u ∧ ∃ e ∈ log, e.event.closesPlainly = false)
  | [], w, _, _ => .pure trivial (.nil h.environment w)
  | ref :: rest, w, hw, hrefs => by
    obtain ⟨x, hx⟩ := hrefs ref (by simp)
    have hturn := (closeForTeardown_ends hh (.refl w)).and (closeForTeardown_exchanged hh hc hw hx)
    rcases hclose : closeForTeardown h ref w with ⟨o, v⟩
    cases o with
    | failed f =>
      obtain ⟨-, -, hstray⟩ := hturn.of_eq_failed hclose
      exact .of_failed (bind_failed hclose _) trivial hstray
    | stalled => exact .of_stalled (bind_stalled hclose _) trivial
    | returned a =>
      obtain ⟨⟨hs, -⟩, hf, log, hlog, hcalls⟩ := hturn.of_eq_returned hclose
      have hstep := hs.step (.untrack ref hf)
      have hrest := drain_drained hh hc rest (v.without ref) (hstep.valid hw) fun s hs => by
        obtain ⟨y, hy⟩ := hrefs s (List.mem_cons_of_mem _ hs)
        obtain ⟨z, hz, -⟩ := hstep.kept hy
        exact ⟨z, hz⟩
      refine .of_eq (drain_cons hclose) (.bind (hrest.mono (fun _ _ hp => hp) ?_) ?_)
      · rintro f u ⟨later, hlater, e, he, hstray⟩
        exact ⟨log ++ later, hlog.trans hlater, e, List.mem_append_right _ he, hstray⟩
      · exact fun _ u _ hdrained => .pure trivial (hdrained.cons hw hrefs hs hf hlog hcalls)

/-! ## Who takes them out of the table -/

theorem closeSession_unlinks (hh : h.Sound) (hc : h.Closed) (w : World ω) (gone : List SessionRef)
    (ref : SessionRef) : Keeps (fun _ => True) (w.Unlinks gone) (closeSession h ref) := by
  refine (Host.attends_unlinks hh hc w gone).keeps_closeSession (fun _ => trivial) ?_
  refine Act.keeps_changeSession (fun _ _ => trivial) ref fun u x y hu hx hy => hu.change hx ?_
  obtain rfl := Except.ok.inj hy
  rfl

/-- A drain counts the sessions that it takes out of the table itself. -/
theorem drain_unlinks (hh : h.Sound) (hc : h.Closed) :
    ∀ (refs gone : List SessionRef) (u : World ω), w.Unlinks gone u →
      Ends (fun _ => True) (drain h refs) u
        (fun n v => ∃ own, own.length = n ∧ own.Sublist refs ∧ w.Unlinks (gone ++ own) v)
        (fun _ _ => True)
  | [], gone, u, hu => .pure trivial ⟨[], rfl, .refl _, by rwa [List.append_nil]⟩
  | ref :: rest, gone, u, hu => by
    have hturn := Manager.keeps_closeForTeardown (fun _ _ => trivial)
      (Host.attends_unlinks hh hc w gone).keeps_notice (closeSession_unlinks hh hc w gone ref) u hu
    rcases hclose : closeForTeardown h ref u with ⟨o, v⟩
    cases o with
    | failed f => exact .of_failed (bind_failed hclose _) trivial trivial
    | stalled => exact .of_stalled (bind_stalled hclose _) trivial
    | returned a =>
      have hv : w.Unlinks gone v := (hturn.of_eq_returned hclose).2
      refine .of_eq (drain_cons hclose) ?_
      cases hr : (v.now.registry.remove ref).1 with
      | true =>
        refine .bind (drain_unlinks hh hc rest _ _ (hv.untrack hr)) ?_
        rintro _ u' - ⟨own, rfl, hsub, hu'⟩
        rw [List.append_assoc] at hu'
        exact .pure trivial ⟨ref :: own, Nat.add_comm _ 1, hsub.cons_cons ref, hu'⟩
      | false =>
        refine .bind (drain_unlinks hh hc rest _ _ (hv.untrack_missing hr)) ?_
        rintro _ u' - ⟨own, rfl, hsub, hu'⟩
        exact .pure trivial ⟨own, (Nat.zero_add _).symm, hsub.cons ref, hu'⟩

/-- A session that is removed with success is all that its removal takes out of the table. -/
theorem removeSession_unlinks (hh : h.Sound) (hc : h.Closed) (hw : w.now.registry.Indexed)
    (ref : SessionRef) :
    Ends (fun _ => True) (removeSession h ref) w
      (fun dropped u => dropped = true → w.Unlinks [ref] u) (fun _ _ => True) := by
  have hstart : w.Unlinks [] w := .refl hw
  have drop : ∀ u : World ω, w.Unlinks [] u →
      Ends (fun _ => True) (untrack ref) u (fun dropped v => dropped = true → w.Unlinks [ref] v)
        (fun _ _ => True) :=
    fun u hu => .of_returned rfl trivial fun hr => hu.untrack hr
  unfold removeSession
  refine .session_bind (fun x _ => ?_) (fun _ => ⟨trivial, fun _ => trivial⟩)
  split
  · exact .bind ((closeSession_unlinks hh hc w [] ref w hstart).mono (fun _ _ hu => hu)
      fun _ _ _ => trivial) fun _ u _ hu => drop u hu
  · exact drop w hstart

end Manager

/-! ## With nothing nested in the closes -/

/-- From `w` to `u` no session changed but one, and none left the table. -/
structure World.Turn (w : World ω) (ref : SessionRef) (u : World ω) : Prop where
  valid : u.now.Valid
  table : u.now.registry.table = w.now.registry.table
  others : ∀ s, s ≠ ref → u.now.registry.get? s = w.now.registry.get? s

namespace World.Turn

variable (ht : w.Turn ref u)

include ht

/-- The session whose turn it was is taken out of the table, if it is tracked, and no other. -/
theorem remove_spec : (u.now.registry.remove ref).1 = decide (ref ∈ w.now.registry.table.refs) ∧
    (u.without ref).now.registry.table.refs = w.now.registry.table.refs.filter (· ≠ ref) := by
  rw [← ht.table]
  exact ht.valid.indexed.remove_spec ref

/-- The sessions still to come are as they were. -/
theorem openSockets_eq (hout : ref ∉ refs) :
    (u.without ref).now.registry.openSockets refs = w.now.registry.openSockets refs := by
  refine List.filterMap_congr fun s hs => ?_
  have hne : s ≠ ref := fun h => hout (h ▸ hs)
  show (u.now.registry.remove ref).2.openSocket? s = _
  unfold Registry.openSocket?
  rw [Registry.get?_remove, ht.others s hne]

end World.Turn

namespace Manager

theorem closeForTeardown_unnested
    (hn : ∀ socket o, (h.environment.react (.close socket) o).nested = []) (hw : w.now.Valid)
    (hx : w.now.registry.get? ref = some x) :
    ∃ u, w.Turn ref u ∧ (closeForTeardown h ref w = (.returned (), u) ∨
      ∃ f, closeForTeardown h ref w = (.failed f, u)) := by
  unfold closeForTeardown
  rw [bind_eq (session_some hx)]
  split
  · rename_i ho
    obtain ⟨handle, socket, hs⟩ := hw.hasSocket hx ho
    obtain ⟨v, hcall, hcalled⟩ := Host.call_of_unnested none (hn socket w.outside)
    obtain ⟨u, hclose, hclosing⟩ := closeSession_of_call hs hcall hcalled
    have hturn : w.Turn ref u :=
      ⟨hclosing.valid hs hw, hclosing.table, fun s hne => by rw [hclosing.get? hx, if_neg hne]⟩
    rw [bind_eq (attempt_ofExcept hclose)]
    cases h.environment.reply (.close socket) w.outside with
    | ok a => exact ⟨u, hturn, .inl rfl⟩
    | error f =>
      dsimp only [Except.mapError]
      cases (closeFailure handle.number f).reason with
      | closing number errno =>
        exact ⟨u.push _, ⟨hturn.valid, hturn.table, hturn.others⟩, .inl rfl⟩
      | _ => exact ⟨u, hturn, .inr ⟨_, rfl⟩⟩
  · exact ⟨w, ⟨hw, rfl, fun _ _ => rfl⟩, .inl rfl⟩

/-- Undisturbed, a drain closes each open socket once, in order, and takes every session out of the
table. -/
theorem drain_unnested (hh : h.Sound) (hc : h.Closed)
    (hn : ∀ socket o, (h.environment.react (.close socket) o).nested = []) :
    ∀ (refs : List SessionRef) (w : World ω), w.now.Valid → refs.Nodup →
      (∀ ref ∈ refs, ref ∈ w.now.registry.table.refs) →
      (∃ u, drain h refs w = (.returned refs.length, u) ∧
        u.now.registry.table.refs = w.now.registry.table.refs.filter (· ∉ refs) ∧
        ∃ log, w.Exchanged log u ∧
          log.map (·.call) = (w.now.registry.openSockets refs).map .close) ∨
      ∃ f u, drain h refs w = (.failed f, u)
  | [], w, _, _, _ => .inl ⟨w, rfl, by simp, [], .refl w, rfl⟩
  | ref :: rest, w, hw, hd, hrefs => by
    obtain ⟨hout, hd⟩ := List.nodup_cons.1 hd
    have htracked := hrefs ref (by simp)
    obtain ⟨x, hx⟩ := hw.indexed.exists_get? htracked
    obtain ⟨v, hturn, hclose | ⟨f, hclose⟩⟩ := closeForTeardown_unnested hn hw hx
    case inr => exact .inr ⟨f, v, bind_failed hclose _⟩
    obtain ⟨-, log, hlog, hcalls⟩ := (closeForTeardown_exchanged hh hc hw hx).of_eq_returned hclose
    obtain ⟨hremoved, hleft⟩ := hturn.remove_spec
    have hrest := drain_unnested hh hc hn rest (v.without ref)
      (valid_untrack hturn.valid ref) hd fun s hs => by
        have hne : s ≠ ref := fun h => hout (h ▸ hs)
        rw [hleft]
        exact List.mem_filter.2 ⟨hrefs s (List.mem_cons_of_mem _ hs), by simpa using hne⟩
    rw [drain_cons hclose, hremoved, decide_eq_true htracked]
    rcases hrest with ⟨u, hdrain, hfilter, later, hlater, hlaterCalls⟩ | ⟨f, u, hdrain⟩
    · refine .inl ⟨u, (bind_eq hdrain _).trans ?_, ?_, log ++ later, hlog.trans hlater, ?_⟩
      · rw [List.length_cons, Nat.add_comm]
        rfl
      · rw [hfilter, hleft, List.filter_filter]
        refine List.filter_congr fun s _ => ?_
        simp [Bool.and_comm]
      · rw [List.map_append, hcalls, hlaterCalls, Registry.openSockets_cons, List.map_append]
        exact congrArg _ (congrArg _ (hturn.openSockets_eq hout))
    · exact .inr ⟨f, u, bind_failed hdrain _⟩

end Manager

end TcpSessions
