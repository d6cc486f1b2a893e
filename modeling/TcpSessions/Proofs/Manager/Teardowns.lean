import TcpSessions.Proofs.Manager.Draining
/-!
# Whole teardowns

However operations are nested in the closes that a teardown makes, it goes on to its end, and what
was tracked when it started is gone then. The answer counts what the teardown took out of the table
itself (`World.unlinkedSince`), so of all that run at once nobody counts a session that another one
counts (`Manager.CountsOnce`). Undisturbed, it closes every socket once and empties the table.
-/
namespace TcpSessions

open Act World

variable {ω : Type} {h : Host ω} {env : Environment ω} {m : Manager} {w u v : World ω}
variable {ref : SessionRef} {refs : List SessionRef} {socket : Socket}

theorem World.Drained.notice (hd : w.Drained env refs u) (n : Notice) :
    w.Drained env refs (u.push (.noticed n)) where
  since := hd.since.note trivial
  exchanged := by
    obtain ⟨log, hlog, hsub⟩ := hd.exchanged
    exact ⟨log, hlog.notice n, hsub⟩
  gone := hd.gone
  tried := by
    intro ref hr socket hsocket
    obtain ⟨reply, now, hmem⟩ := hd.tried ref hr socket hsocket
    exact ⟨reply, now, List.mem_cons_of_mem _ hmem⟩

/-- The reply in which an event ends a close of a socket. -/
def Event.closeReply? (socket : Socket) : Event → Option (Except Failure Unit)
  | .left (.close s) reply _ => if s = socket then some reply else none
  | _ => none

/-- How the latest close of a socket that has ended did end. -/
def lastClose? (socket : Socket) (past : List Event) : Option (Except Failure Unit) :=
  past.findSome? (Event.closeReply? socket)

theorem Event.closes_of_closeReply? {e : Event} {a : Unit}
    (he : e.closeReply? socket = some (.ok a)) : e.closes socket = true := by
  cases e with
  | left c reply now =>
    cases c with
    | close s =>
      obtain ⟨rfl, rfl⟩ : s = socket ∧ reply = .ok a := by simpa [closeReply?] using he
      simp [closes]
    | _ => cases he
  | _ => cases he

/-- If a socket is still in use and a close of it has ended, then the latest one failed. -/
theorem lastClose?_eq_error {past : List Event} {reply : Except Failure Unit} {now : Situation}
    (hn : ¬ Released past socket) (hmem : .left (.close socket) reply now ∈ past) :
    ∃ f, lastClose? socket past = some (.error f) := by
  cases hlast : lastClose? socket past with
  | none =>
    have hno := List.findSome?_eq_none_iff.1 hlast _ hmem
    simp [Event.closeReply?] at hno
  | some last =>
    obtain ⟨e, he, hreply⟩ := List.exists_of_findSome?_eq_some hlast
    cases last with
    | ok a => exact absurd ⟨e, he, Event.closes_of_closeReply? hreply⟩ hn
    | error f => exact ⟨f, rfl⟩

/-- What a teardown that started in `w` has done when it returns in `u`. -/
structure World.Emptied (w u : World ω) : Prop where
  gone : ∀ ref ∈ w.now.registry.table.refs, ref ∉ u.now.registry.table.refs
  closed : ∀ ref ∈ w.now.registry.table.refs, ∃ x, u.now.registry.get? ref = some x ∧
    (x.handle = none ∨ ∃ socket f, x.socket = some socket ∧
      lastClose? socket u.past = some (.error f))
  /-- Its own calls close sockets of sessions that were tracked and open, in table order. -/
  calls : ((u.exchangesSince w).map (·.call)).Sublist
    ((w.now.registry.openSockets w.now.registry.table.refs).map .close)
  /-- Sockets made since are none of its business. -/
  spared : ∀ socket, .close socket ∈ (u.exchangesSince w).map (·.call) → socket ∈ w.now.sockets
  /-- It takes no session out of the table that was not tracked when it started. -/
  known : ∀ ref ∈ u.unlinkedSince w, ref ∈ w.now.registry.table.refs
  /-- A session that came to be tracked since stays so, unless others take it out of the table while
  a call is running. -/
  kept : ∀ t ∈ u.stretchesSince w, ∀ ref ∈ t.stop.registry.table.refs,
    ref ∉ w.now.registry.table.refs →
    ref ∈ u.now.registry.table.refs ∨ ref ∈ u.lostMeanwhile w

/-- What is tracked at some moment and not in the end was unlinked, or lost meanwhile. -/
theorem World.mem_unlinkedSince_or_lostMeanwhile {t : Stretch} (ht : t ∈ u.stretchesSince w)
    (hr : ref ∈ t.stop.refs) (hn : ref ∉ u.now.refs) :
    ref ∈ u.unlinkedSince w ∨ ref ∈ u.lostMeanwhile w := by
  obtain ⟨t', ht', hlost⟩ := exists_lost_of_stop hn t ht hr
  cases hown : t'.own with
  | true => exact .inl (List.mem_flatMap.2 ⟨t', List.mem_filter.2 ⟨ht', hown⟩, hlost⟩)
  | false =>
    exact .inr (List.mem_flatMap.2 ⟨t', List.mem_filter.2 ⟨ht', by simp [hown]⟩, hlost⟩)

theorem World.Drained.emptied (hd : w.Drained env w.now.registry.table.refs u) (hw : w.now.Valid)
    (he : w.Engaged) (hknown : ∀ ref ∈ u.unlinkedSince w, ref ∈ w.now.registry.table.refs) :
    w.Emptied u := by
  obtain ⟨log, hlog, hcalls⟩ := hd.exchanged
  have hvalid := hd.since.valid hw
  constructor
  · exact hd.gone
  · intro ref hr
    obtain ⟨x, hx⟩ := hw.indexed.exists_get? hr
    obtain ⟨y, hy, -⟩ := hd.since.kept hx
    refine ⟨y, hy, ?_⟩
    cases ho : y.isOpen with
    | false => exact .inl (by simpa [Session.isOpen] using ho)
    | true =>
      obtain ⟨handle, socket, hs⟩ := hvalid.hasSocket hy ho
      obtain ⟨reply, now, hmem⟩ :=
        hd.tried ref hr socket (Registry.openSocket?_eq_some.2 ⟨y, hy, ho, hs.socket⟩)
      obtain ⟨f, hf⟩ := lastClose?_eq_error ((hd.since.engaged he).inUse hy ho hs.socket) hmem
      exact .inr ⟨socket, f, hs.socket, hf⟩
  · rw [hlog.since_eq]
    exact hcalls
  · intro socket hmem
    rw [hlog.since_eq] at hmem
    obtain ⟨s, hs, heq⟩ := List.mem_map.1 (hcalls.subset hmem)
    obtain rfl := Call.close.inj heq
    obtain ⟨ref, -, hsocket⟩ := List.mem_filterMap.1 hs
    obtain ⟨x, hx, -, hxs⟩ := Registry.openSocket?_eq_some.1 hsocket
    exact hw.coherent.made hx hxs
  · exact hknown
  · intro t ht ref hr hnew
    refine Classical.or_iff_not_imp_left.2 fun hn => ?_
    exact (World.mem_unlinkedSince_or_lostMeanwhile ht hr hn).resolve_left fun hmem =>
      hnew (hknown ref hmem)

/-- The sockets of sessions are all different. -/
theorem Situation.Valid.nodup_openSockets {s : Situation} (hs : s.Valid) :
    (s.registry.openSockets s.registry.table.refs).Nodup := by
  refine hs.indexed.nodup_refs.filterMap ?_
  intro ref ref' socket hr hr'
  obtain ⟨x, hx, -, hxs⟩ := Registry.openSocket?_eq_some.1 hr
  obtain ⟨x', hx', -, hxs'⟩ := Registry.openSocket?_eq_some.1 hr'
  exact hs.coherent.owner hx hx' hxs hxs'

namespace Manager

/-- What a teardown counts: the sessions that it took out of the table itself, each once. -/
structure Counts (w : World ω) (n : Nat) (u : World ω) : Prop where
  length_eq : n = (u.unlinkedSince w).length
  distinct : (u.unlinkedSince w).Nodup
  known : ∀ ref ∈ u.unlinkedSince w, ref ∈ w.now.registry.table.refs

theorem Counts.of_unlinks {own : List SessionRef} (hu : w.Unlinks own u)
    (hsub : own.Sublist w.now.registry.table.refs) : Counts w own.length u where
  length_eq := hu.since_perm.length_eq.symm
  distinct := hu.since_perm.nodup_iff.2 hu.nodup
  known := fun _ hr => hsub.subset (hu.since_perm.subset hr)

theorem teardownAll_drained (hh : h.Sound) (hc : h.Closed) (hw : w.now.Valid) :
    Ends (fun _ => True) (teardownAll h) w
      (fun n u => Counts w n u ∧ w.Drained h.environment w.now.registry.table.refs u)
      (fun _ u => ∃ log, w.Exchanged log u ∧ ∃ e ∈ log, e.event.closesPlainly = false) := by
  have hdrain := (drain_unlinks hh hc w.now.registry.table.refs [] w (.refl hw.indexed)).and
    (drain_drained hh hc w.now.registry.table.refs w hw fun ref hr => hw.indexed.exists_get? hr)
  unfold teardownAll
  refine .registry_bind (.bind (hdrain.imp (fun _ _ => trivial) (fun _ _ _ hp => hp)
    fun _ _ _ he => he.2) ?_)
  rintro _ u - ⟨⟨own, rfl, hsub, hunlinks⟩, hdrained⟩
  dsimp only
  split
  · exact .notice_bind (.pure trivial
      ⟨.of_unlinks (hunlinks.notice _) hsub, hdrained.notice _⟩)
  · exact .pure trivial ⟨.of_unlinks hunlinks hsub, hdrained⟩

theorem perform_teardownAll_ends (m : Manager) (bound : Nat) (henv : env.Nests Request.OfManager)
    (hw : w.now.Valid) :
    Ends (fun _ => True) (perform env m (bound + 1) (.operation .teardownAll)) w
      (fun answer u => ∃ n, answer = .count n ∧ Counts w n u ∧
        w.Drained env w.now.registry.table.refs u)
      (fun _ u => ∃ log, w.Exchanged log u ∧ ∃ e ∈ log, e.event.closesPlainly = false) := by
  let h : Host ω := ⟨env, perform env m bound, bound + 1⟩
  show Ends _ (teardownAll h >>= fun n => pure (Answer.count n)) w _ _
  refine .bind (teardownAll_drained (henv.sound m bound (bound + 1))
    (perform_closed henv m bound (bound + 1)) hw) ?_
  rintro n u - ⟨hcounts, hdrained⟩
  exact .pure trivial ⟨n, rfl, hcounts, hdrained⟩

/-- How a teardown ends. -/
structure TearsDown (w : World ω) (outcome : Outcome Answer) (u : World ω) : Prop where
  unfailing : ∀ f, outcome ≠ .failed f
  /-- The answer is how many sessions this teardown took out of the table itself. -/
  count : ∀ answer, outcome = .returned answer → answer = .count (u.unlinkedSince w).length
  emptied : ∀ answer, outcome = .returned answer → w.Emptied u

/-- How a teardown ends when nothing is nested in its closes. -/
structure TearsDownAlone (m : Manager) (bound : Nat) (env : Environment ω) (w : World ω)
    (outcome : Outcome Answer) (u : World ω) : Prop where
  count : outcome = .returned (.count w.now.registry.table.size)
  empty : u.now.registry.table.entries = []
  /-- Every open socket is closed once, in table order, whatever the closes before came to. -/
  calls : (u.exchangesSince w).map (·.call) =
    (w.now.registry.openSockets w.now.registry.table.refs).map .close
  distinct : (w.now.registry.openSockets w.now.registry.table.refs).Nodup
  again : perform env m (bound + 1) (.operation .teardownAll) u = (.returned (.count 0), u)

/-- Nobody counts a session that another one counts. -/
structure CountsOnce (m : Manager) (env : Environment ω) : Prop where
  /-- A teardown that returns counts the sessions that it took out of the table itself. -/
  teardown : ∀ (bound n : Nat) (w u : World ω), w.Attainable →
    perform env m (bound + 1) (.operation .teardownAll) w = (.returned (.count n), u) →
    n = (u.unlinkedSince w).length ∧ (u.unlinkedSince w).Nodup
  /-- A removal that is answered with success took its session out of the table, and no other. -/
  removal : ∀ (bound : Nat) (n : Int) (w u : World ω), w.Attainable →
    perform env m (bound + 1) (.operation (.remove n)) w = (.returned (.flag true), u) →
    ∃ ref, w.now.registry.nth? n = some ref ∧ u.unlinkedSince w = [ref]
  /-- Of two requests in a row, none takes out what the other does. -/
  following : ∀ (bound bound' : Nat) (q q' : Request) (w u w' u' : World ω) (o o' : Outcome Answer),
    q.OfManager → q'.OfManager → w.Attainable → perform env m bound q w = (o, u) →
    u.Later env w' → perform env m bound' q' w' = (o', u') →
    (u.unlinkedSince w).Disjoint (u'.unlinkedSince w')
  /-- Nor does a request nested in a call of another one, from `w'` to `u'` on the way from `w` to
  `u`. -/
  nested : ∀ (bound : Nat) (q : Request) (w w' u' u : World ω) (answer : Answer), q.OfManager →
    w.Attainable → w.Later env w' → w.Waits w' →
    perform env m bound q w' = (.returned answer, u') → u'.Later env u →
    (u.unlinkedSince w).Disjoint (u'.unlinkedSince w')

theorem perform_later (henv : env.Nests Request.OfManager) {bound : Nat} {q : Request}
    (hq : q.OfManager) {o : Outcome Answer} (hrun : perform env m bound q w = (o, u)) :
    w.Later env u := by
  have hsince := perform_since m henv bound q hq w
  rw [hrun] at hsince
  exact hsince.later

/-- A removal that is answered with success takes its session out of the table, and no other. -/
theorem perform_remove_unlinks (m : Manager) (bound : Nat) (henv : env.Nests Request.OfManager)
    (hw : w.now.Valid) (n : Int) :
    Ends (fun _ => True) (perform env m (bound + 1) (.operation (.remove n))) w
      (fun answer u => answer = .flag true →
        ∃ ref, w.now.registry.nth? n = some ref ∧ w.Unlinks [ref] u) (fun _ _ => True) := by
  show Ends _ (Act.nth n >>= fun ref => removeSession _ ref >>= fun dropped =>
    pure (Answer.flag dropped)) w _ _
  refine .bind (Q := fun ref u => w.now.registry.nth? n = some ref ∧ u = w) ?_ ?_
  · unfold Act.nth
    refine .registry_bind ?_
    split
    · rename_i href
      exact .pure trivial ⟨href, rfl⟩
    · exact .fail trivial trivial
  · rintro ref v - ⟨href, rfl⟩
    refine .bind (removeSession_unlinks (henv.sound m bound (bound + 1))
      (perform_closed henv m bound (bound + 1)) hw.indexed ref) fun dropped u _ hp => ?_
    exact .pure trivial fun hanswer => ⟨ref, href, hp (Answer.flag.inj hanswer)⟩

theorem countsOnce (m : Manager) (henv : env.Nests Request.OfManager) : CountsOnce m env where
  teardown := by
    intro bound n w u hw hrun
    obtain ⟨-, _, hn, hcounts, -⟩ :=
      (perform_teardownAll_ends m bound henv hw.valid).of_eq_returned hrun
    obtain rfl := Answer.count.inj hn
    exact ⟨hcounts.length_eq, hcounts.distinct⟩
  removal := by
    intro bound n w u hw hrun
    obtain ⟨ref, href, hunlinks⟩ :=
      ((perform_remove_unlinks m bound henv hw.valid n).of_eq_returned hrun).2 rfl
    exact ⟨ref, href, List.perm_singleton.1 hunlinks.since_perm⟩
  following := by
    intro bound bound' q q' w u w' u' o o' hq hq' hw hrun hlater hrun'
    exact (perform_later henv hq hrun).disjoint_of_following hw.valid.indexed hlater
      (perform_later henv hq' hrun')
  nested := by
    intro bound q w w' u' u answer hq hw hw' hwaits hrun hu
    have hmade := ((perform_closed henv m bound 0) w' q hq w' (made_refl _ w')).of_eq_returned hrun
    exact hw'.disjoint_of_nested hw.valid.indexed hwaits hmade.2 (perform_later henv hq hrun) hu

theorem teardownAll_of_drain {n : Nat}
    (hdrain : drain h w.now.registry.table.refs w = (.returned n, v)) :
    ∃ (u : World ω) (notices : List Notice), teardownAll h w = (.returned n, u) ∧
      u.now = v.now ∧ u.past = notices.map Event.noticed ++ v.past := by
  unfold teardownAll
  rw [bind_eq (m := Act.registry) (w := w) rfl, bind_eq hdrain]
  dsimp only
  split
  · exact ⟨v.push (.noticed (.tornDown n)), [.tornDown n], rfl, rfl, rfl⟩
  · exact ⟨v, [], rfl, rfl, rfl⟩

/-- Undisturbed, a teardown that does not fail empties the table. -/
theorem teardownAll_unnested (m : Manager) (bound : Nat) (henv : env.Nests Request.OfManager)
    (hw : w.now.Valid) (hn : ∀ socket o, (env.react (.close socket) o).nested = [])
    (hunfailing : ∀ f, (perform env m (bound + 1) (.operation .teardownAll) w).1 ≠ .failed f) :
    TearsDownAlone m bound env w (perform env m (bound + 1) (.operation .teardownAll) w).1
      (perform env m (bound + 1) (.operation .teardownAll) w).2 := by
  let h : Host ω := ⟨env, perform env m bound, bound + 1⟩
  have hserve : ∀ {v u : World ω} {n : Nat}, teardownAll h v = (.returned n, u) →
      perform env m (bound + 1) (.operation .teardownAll) v = (.returned (.count n), u) :=
    fun hteardown => bind_eq hteardown _
  have hc : h.Closed := perform_closed henv m bound (bound + 1)
  rcases drain_unnested (henv.sound m bound (bound + 1)) hc hn w.now.registry.table.refs w hw
    hw.indexed.nodup_refs fun _ hr => hr with ⟨v, hdrain, hleft, log, hlog, hcalls⟩ | ⟨f, v, hdrain⟩
  · have hcount : drain h w.now.registry.table.refs w =
        (.returned w.now.registry.table.refs.length, v) := hdrain
    obtain ⟨u, notices, hteardown, hnow, hpast⟩ := teardownAll_of_drain hcount
    have hempty : u.now.registry.table.refs = [] := by
      rw [hnow, hleft]
      exact List.filter_eq_nil_iff.2 fun s hs => by simp [hs]
    rw [hserve hteardown]
    exact {
      count := by rw [Table.refs, List.length_map, Table.size]
      empty := List.map_eq_nil_iff.1 hempty
      calls := by rw [(hlog.notices hpast).since_eq, hcalls]
      distinct := hw.nodup_openSockets
      again := hserve (teardownAll_of_empty hempty) }
  · have hfailed : teardownAll h w = (.failed f, v) := by
      unfold teardownAll
      rw [bind_eq (m := Act.registry) (w := w) rfl]
      exact bind_failed hdrain _
    have hserved : perform env m (bound + 1) (.operation .teardownAll) w = (.failed f, v) :=
      bind_failed hfailed _
    exact absurd (congrArg Prod.fst hserved) (hunfailing f)

/-- Whatever runs inside its closes, a teardown whose closes return or are plainly refused does not
fail; when it returns, every session that was tracked at first has left the table, and the answer is
how many of them it took out itself. -/
theorem teardown_drains (m : Manager) (bound : Nat) (henv : env.Nests Request.OfManager)
    (hw : w.Attainable) :
    let result := perform env m (bound + 1) (.operation .teardownAll) w
    (∀ e ∈ result.2.exchangesSince w, e.event.closesPlainly = true) →
      TearsDown w result.1 result.2 ∧ CountsOnce m env ∧
        ((∀ socket o, (env.react (.close socket) o).nested = []) →
          TearsDownAlone m bound env w result.1 result.2) := by
  intro result hplain
  have hends := perform_teardownAll_ends m bound henv hw.valid
  -- a failure would have left its trace
  have hunfailing : ∀ f, result.1 ≠ .failed f := by
    intro f hf
    obtain ⟨log, hlog, e, he, hstray⟩ := hends.failed f hf
    rw [hplain e (by rwa [hlog.since_eq])] at hstray
    cases hstray
  refine ⟨⟨hunfailing, fun answer ha => ?_, fun answer ha => ?_⟩, countsOnce m henv,
    fun hn => teardownAll_unnested m bound henv hw.valid hn hunfailing⟩
  · obtain ⟨n, rfl, hcounts, -⟩ := hends.returned answer ha
    exact congrArg Answer.count hcounts.length_eq
  · obtain ⟨n, -, hcounts, hdrained⟩ := hends.returned answer ha
    exact hdrained.emptied hw.valid hw.engaged hcounts.known

end Manager

/-- While the first socket is closed, the third session is removed and another one is opened; the
second socket cannot be closed. -/
def Script.removing : Script where
  hosts := [("gate", { addresses := [[192, 0, 2, 1]] })]
  coming := [
    { close := [{ nested := [.operation (.remove 3),
        .operation (.openSession { host := "gate" })] }] },
    { close := [{ failure := some (.of (.system .general .nothing)) }] }]

theorem Manager.teardown_drains_removing :
    let env := Script.environment.nesting Request.OfManager
    let gate : Request := .operation (.openSession { host := "gate" })
    let w := env.after {} 4 [gate, gate, gate] Script.removing
    let result := perform env {} 5 (.operation .teardownAll) w
    w.now.registry.trackedIds = [1, 2, 3] ∧ result.2.now.registry.trackedIds = [4] ∧
      result.2.now.registry.sessions.map (·.fd) = [-1, 11, -1, 13] ∧
      result.2.unlinkedSince w = [⟨0⟩, ⟨1⟩] ∧ result.2.lostMeanwhile w = [⟨2⟩] ∧
      TearsDown w result.1 result.2 := by
  intro env gate w result
  have henv : env.Nests Request.OfManager := Script.environment.nesting_nests Request.OfManager
  have hw : w.Attainable := Reachable.attainable
    ⟨env, {}, 4, [gate, gate, gate], Script.removing, henv, by decide, rfl⟩
  have hdrains := Manager.teardown_drains {} 4 henv hw (by decide +kernel)
  exact ⟨by decide +kernel, by decide +kernel, by decide +kernel, by decide +kernel,
    by decide +kernel, hdrains.1⟩

end TcpSessions
