import TcpSessions.Work.Perform
import TcpSessions.Proofs.Work.Calls
/-!
# Invariants of operations

Work keeps `I` if it takes a world with `I` to one with `I`, whether it returns or fails; where it
gives up, at least `R` holds. An invariant that a host maintains for the parts of operations it
maintains for requests (`Host.Maintains.serve`) and so for runs (`runNested_keeps`).
-/
namespace TcpSessions

open Act

variable {ω α β : Type} {R I : World ω → Prop} {m : Act ω α}

/-- The work keeps `I`, with `R` where it gives up. -/
def Act.Keeps (R I : World ω → Prop) (m : Act ω α) : Prop :=
  ∀ w, I w → Ends R m w (fun _ w' => I w') fun _ w' => I w'

namespace Act

/-- Work that only looks. -/
theorem keeps_of_reads (hR : ∀ w, I w → R w) (hm : ∀ w, (m w).2 = w) : Keeps R I m := by
  intro w hw
  refine ⟨?_, fun _ _ => ?_, fun _ _ => ?_⟩ <;> rw [hm w]
  · exact hR w hw
  · exact hw
  · exact hw

theorem keeps_pure (hR : ∀ w, I w → R w) (a : α) : Keeps R I (pure a) :=
  keeps_of_reads hR fun _ => rfl

theorem keeps_fail (hR : ∀ w, I w → R w) (f : Failure) : Keeps R I (fail f : Act ω α) :=
  keeps_of_reads hR fun _ => rfl

theorem keeps_ofExcept (hR : ∀ w, I w → R w) (r : Except Failure α) :
    Keeps R I (ofExcept r : Act ω α) :=
  keeps_of_reads hR fun _ => by cases r <;> rfl

theorem keeps_session (hR : ∀ w, I w → R w) (ref : SessionRef) :
    Keeps R I (session ref : Act ω Session) := by
  refine keeps_of_reads hR fun w => ?_
  cases hx : w.now.registry.get? ref with
  | some x => rw [session_some hx]
  | none => rw [session_none hx]

theorem keeps_registry (hR : ∀ w, I w → R w) : Keeps R I (registry : Act ω Registry) :=
  keeps_of_reads hR fun _ => rfl

theorem Keeps.bind {k : α → Act ω β} (hm : Keeps R I m) (hk : ∀ a, Keeps R I (k a)) :
    Keeps R I (m >>= k) :=
  fun w hw => .bind (hm w hw) fun a w' _ hw' => hk a w' hw'

theorem Keeps.attempt (hm : Keeps R I m) : Keeps R I (attempt m) := by
  intro w hw
  obtain ⟨ha, hr, hf⟩ := hm w hw
  rcases ho : m w with ⟨o, w'⟩
  rw [ho] at ha hr hf
  cases o with
  | returned a => exact .of_returned (attempt_returned ho) ha (hr a rfl)
  | failed f => exact .of_returned (attempt_failed ho) ha (hf f rfl)
  | stalled => exact .of_stalled (attempt_stalled ho) ha

end Act

/-- In a teardown one session is closed, and a close that fails is noticed. -/
theorem Manager.keeps_closeForTeardown {h : Host ω} {ref : SessionRef} (hR : ∀ w, I w → R w)
    (hnotice : ∀ n, Keeps R I (Act.notice n)) (hclose : Keeps R I (Manager.closeSession h ref)) :
    Keeps R I (Manager.closeForTeardown h ref) := by
  unfold Manager.closeForTeardown
  refine (keeps_session hR ref).bind fun x => ?_
  split
  · refine hclose.attempt.bind fun result => ?_
    cases result with
    | ok u => exact keeps_pure hR ()
    | error f =>
      dsimp only
      split
      · exact hnotice _
      · exact keeps_fail hR _
  · exact keeps_pure hR ()

/-- The parts of operations keep an invariant. -/
structure Host.Maintains (h : Host ω) (m : Manager) (R I : World ω → Prop) : Prop where
  always : ∀ w, I w → R w
  notice : ∀ w n, I w → I (w.push (.noticed n))
  answered : ∀ w now answer, I w → I (w.push (@Event.answered now answer))
  tokens : ∀ w ts, I w → I { w with now := { w.now with cancelled := ts } }
  untrack : ∀ w ref, I w → I (w.setRegistry (w.now.registry.remove ref).2)
  close : ∀ ref, Keeps R I (Manager.closeSession h ref)
  reverse : ∀ address, Keeps R I (m.reverse h address)
  openSession : ∀ r, Keeps R I (m.openSession h r)

namespace Host.Maintains

variable {h : Host ω} {m : Manager} (hm : h.Maintains m R I)

include hm

theorem keeps_notice (n : Notice) : Keeps R I (Act.notice n) := by
  intro w hw
  have hw' := hm.notice w n hw
  exact .of_returned rfl (hm.always _ hw') hw'

theorem keeps_untrack (ref : SessionRef) : Keeps R I (Manager.untrack ref) := by
  intro w hw
  have hw' := hm.untrack w ref hw
  exact .of_returned rfl (hm.always _ hw') hw'

theorem keeps_nth (n : Int) : Keeps R I (Act.nth n) := by
  refine (keeps_registry hm.always).bind fun r => ?_
  split
  · exact keeps_pure hm.always _
  · exact keeps_fail hm.always _

theorem keeps_removeSession (ref : SessionRef) : Keeps R I (Manager.removeSession h ref) := by
  unfold Manager.removeSession
  refine (keeps_session hm.always ref).bind fun x => ?_
  split
  · exact (hm.close ref).bind fun _ => hm.keeps_untrack ref
  · exact hm.keeps_untrack ref

theorem keeps_closeByHandle (handle : Int) (force : Bool) :
    Keeps R I (Manager.closeByHandle h handle force) := by
  unfold Manager.closeByHandle
  refine (keeps_registry hm.always).bind fun r => ?_
  split
  · exact keeps_fail hm.always _
  · rename_i ref _
    refine (keeps_session hm.always ref).bind fun x => ?_
    split
    · exact keeps_fail hm.always _
    · exact (hm.close ref).attempt.bind fun result =>
        (hm.keeps_untrack ref).bind fun _ => keeps_ofExcept hm.always result

theorem keeps_drain : ∀ refs, Keeps R I (Manager.drain h refs)
  | [] => keeps_pure hm.always 0
  | ref :: rest =>
    (Manager.keeps_closeForTeardown hm.always hm.keeps_notice (hm.close ref)).bind fun _ =>
      (hm.keeps_untrack ref).bind fun _ =>
      (keeps_drain rest).bind fun _ => keeps_pure hm.always _

theorem keeps_teardownAll : Keeps R I (Manager.teardownAll h) := by
  unfold Manager.teardownAll
  refine (keeps_registry hm.always).bind fun r => (hm.keeps_drain _).bind fun removed => ?_
  dsimp only
  split
  · exact (hm.keeps_notice _).bind fun _ => keeps_pure hm.always _
  · exact keeps_pure hm.always _

theorem keeps_shutdown : Keeps R I (Manager.shutdown h) :=
  hm.keeps_teardownAll.bind fun _ => (hm.keeps_notice _).bind fun _ => keeps_pure hm.always _

theorem keeps_listingOf (ref : SessionRef) : Keeps R I (m.listingOf h ref) := by
  unfold Manager.listingOf
  refine (keeps_session hm.always ref).bind fun x => ?_
  split
  · exact (keeps_session hm.always ref).bind fun _ => keeps_pure hm.always _
  · rename_i peer _
    exact (hm.reverse peer.address).bind fun _ =>
      (keeps_session hm.always ref).bind fun _ => keeps_pure hm.always _

theorem keeps_listingsOf : ∀ refs, Keeps R I (m.listingsOf h refs)
  | [] => keeps_pure hm.always []
  | ref :: rest => by
    unfold Manager.listingsOf
    refine (keeps_session hm.always ref).bind fun x => ?_
    split
    · exact (hm.keeps_listingOf ref).bind fun _ =>
        (keeps_listingsOf rest).bind fun _ => keeps_pure hm.always _
    · exact keeps_listingsOf rest

theorem keeps_operation (op : Operation) : Keeps R I (op.serve h m) := by
  cases op with
  | openSession r =>
    exact (hm.openSession r).bind fun ref =>
      (keeps_session hm.always ref).bind fun _ => keeps_pure hm.always _
  | close n =>
    exact (hm.keeps_nth n).bind fun ref => (hm.close ref).bind fun _ => keeps_pure hm.always _
  | remove n =>
    exact (hm.keeps_nth n).bind fun ref =>
      (hm.keeps_removeSession ref).bind fun _ => keeps_pure hm.always _
  | closeByHandle handle force =>
    exact (hm.keeps_closeByHandle handle force).bind fun _ => keeps_pure hm.always _
  | listAll =>
    exact ((keeps_registry hm.always).bind fun _ => hm.keeps_listingsOf _).bind fun _ =>
      keeps_pure hm.always _
  | teardownAll => exact hm.keeps_teardownAll.bind fun _ => keeps_pure hm.always _

theorem keeps_token (t : TokenId) (r : TokenRequest) : Keeps R I (r.serve t) := by
  intro w hw
  have hset := fun ts => hm.tokens w ts hw
  cases r with
  | cancel => exact .of_returned rfl (hm.always _ (hset _)) (hset (t :: w.now.cancelled))
  | reset =>
    exact .of_returned rfl (hm.always _ (hset _)) (hset (w.now.cancelled.filter (· ≠ t)))
  | isCancelled => exact .of_returned rfl (hm.always _ hw) hw
  | interrupt => exact .of_failed rfl (hm.always _ (hset _)) (hset (t :: w.now.cancelled))

theorem serve : ∀ q : Request, q.OfManager → Keeps R I (q.serve h m)
  | .operation op, _ => hm.keeps_operation op
  | .shutdown, _ => hm.keeps_shutdown.bind fun _ => keeps_pure hm.always _
  | .token t r, _ => hm.keeps_token t r

end Host.Maintains

/-- Nested requests that keep an invariant keep it one after another. -/
theorem Host.keeps_runNested {h : Host ω} (hR : ∀ w, I w → R w)
    (hanswered : ∀ w now answer, I w → I (w.push (@Event.answered now answer)))
    (hq : ∀ q : Request, q.OfManager → Keeps R I (h.nested q)) :
    ∀ qs : List Request, (∀ q ∈ qs, q.OfManager) → Keeps R I (h.runNested qs)
  | [], _ => keeps_pure hR ()
  | q :: qs, hqs => by
    rw [Host.runNested_cons]
    refine (hq q (hqs q (by simp))).attempt.bind fun answer => ?_
    refine (keeps_of_reads (m := Act.situation) hR fun _ => rfl).bind fun now => ?_
    refine Keeps.bind (fun w hw => ?_) fun _ =>
      keeps_runNested hR hanswered hq qs fun q' hq' => hqs q' (by simp [hq'])
    have hw' := hanswered w now answer hw
    exact .of_returned rfl (hR _ hw') hw'

variable {env : Environment ω} {m : Manager}

theorem perform_keeps (hm : ∀ bound, Host.Maintains ⟨env, perform env m bound, bound + 1⟩ m R I)
    (bound : Nat) {q : Request} (hq : q.OfManager) : Keeps R I (perform env m bound q) := by
  cases bound with
  | zero => exact fun w hw => .of_stalled rfl ((hm 0).always w hw)
  | succ bound => exact (hm bound).serve q hq

/-- Requests keep, one after another, what their hosts maintain. -/
theorem runNested_keeps
    (hm : ∀ bound, Host.Maintains ⟨env, perform env m bound, bound + 1⟩ m R I)
    (bound patience : Nat) (qs : List Request) (hqs : ∀ q ∈ qs, q.OfManager) :
    Keeps R I ((Host.mk env (perform env m bound) patience).runNested qs) :=
  Host.keeps_runNested (hm 0).always (hm 0).answered (fun _ hq => perform_keeps hm bound hq) qs hqs

end TcpSessions
