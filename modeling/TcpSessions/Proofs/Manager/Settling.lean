import TcpSessions.Work.Perform
import TcpSessions.Proofs.Work.Calls
/-!
# Work that settles

Work settles if it returns or fails from wherever it starts: it never gives up. On a prompt host,
where requests to tokens settle and no others are nested, every operation settles but an open,
which gives up on a connect that is interrupted again and again.
-/
namespace TcpSessions

open Act

variable {ω α β : Type}

/-- The work never gives up. -/
def Act.Settles (m : Act ω α) : Prop := ∀ w, (m w).1 ≠ .stalled

namespace Act

variable {m : Act ω α} {k : α → Act ω β}

theorem settles_pure (a : α) : (pure a : Act ω α).Settles := by
  intro w h
  cases h

theorem settles_fail (f : Failure) : (fail f : Act ω α).Settles := by
  intro w h
  cases h

theorem settles_ofExcept (r : Except Failure α) : (ofExcept r : Act ω α).Settles := by
  intro w h
  cases r <;> cases h

theorem settles_registry : (registry : Act ω Registry).Settles := by
  intro w h
  cases h

theorem settles_situation : (situation : Act ω Situation).Settles := by
  intro w h
  cases h

theorem settles_onRegistry (f : Registry → α × Registry) : (onRegistry f : Act ω α).Settles := by
  intro w h
  cases h

theorem settles_record (e : Event) : (record e : Act ω Unit).Settles := by
  intro w h
  cases h

theorem settles_session (ref : SessionRef) : (session ref : Act ω Session).Settles := by
  intro w h
  cases hx : w.now.registry.get? ref with
  | some x => simp [session_some hx] at h
  | none => simp [session_none hx] at h

theorem Settles.bind (hm : m.Settles) (hk : ∀ a, (k a).Settles) : (m >>= k).Settles := by
  intro w h
  rcases hw : m w with ⟨o, w'⟩
  cases o with
  | returned a =>
    rw [bind_eq hw] at h
    exact hk a w' h
  | failed f =>
    rw [bind_failed hw] at h
    cases h
  | stalled => exact hm w (by rw [hw])

theorem Settles.attempt (hm : m.Settles) : (attempt m).Settles := by
  intro w h
  rcases hw : m w with ⟨o, w'⟩
  simp only [Act.attempt, hw] at h
  cases o with
  | returned a => cases h
  | failed f => cases h
  | stalled => exact hm w (by rw [hw])

theorem settles_changeSession (ref : SessionRef)
    (f : Session → Except LifecycleError Session) : (changeSession ref f : Act ω Unit).Settles := by
  refine (settles_session ref).bind fun x => ?_
  cases f x with
  | ok y => exact settles_onRegistry _
  | error e => exact settles_fail _

/-- Work that settles and cannot fail returns. -/
theorem Settles.returns {R : World ω → Prop} {P : α → World ω → Prop} {w : World ω}
    (hm : m.Settles) (he : Ends R m w P fun _ _ => False) :
    ∃ a, (m w).1 = .returned a ∧ P a (m w).2 := by
  cases ho : (m w).1 with
  | returned a => exact ⟨a, rfl, he.returned a ho⟩
  | failed f => exact (he.failed f ho).elim
  | stalled => exact (hm w ho).elim

end Act

/-! ## Calls -/

/-- Only requests to tokens are nested in calls, and they settle. -/
structure Host.Prompt (h : Host ω) : Prop where
  nests : h.environment.Quiet
  tokens : ∀ q, q.OfToken → (h.nested q).Settles

theorem Environment.Quiet.prompt {env : Environment ω} (henv : env.Quiet) (m : Manager)
    (bound patience : Nat) : Host.Prompt ⟨env, perform env m (bound + 1), patience⟩ where
  nests := henv
  tokens := by
    intro q hq w h
    cases q with
    | token t r => cases r <;> cases h
    | _ => exact hq.elim

variable {h : Host ω}

theorem Host.Prompt.runNested (hh : h.Prompt) :
    ∀ qs : List Request, (∀ q ∈ qs, q.OfToken) → (h.runNested qs).Settles
  | [], _ => settles_pure ()
  | q :: qs, hqs =>
    (hh.tokens q (hqs q (by simp))).attempt.bind fun _ => settles_situation.bind fun _ =>
      (settles_record _).bind fun _ => hh.runNested qs fun q' hq' => hqs q' (by simp [hq'])

theorem Host.Prompt.call (hh : h.Prompt) (token : Option TokenId) (c : Call) :
    (h.call token c).Settles := by
  intro w
  have hsettles := hh.runNested _ (hh.nests c w.outside) (h.entering token c w)
  rcases hrun : h.runNested (h.environment.react c w.outside).nested (h.entering token c w)
    with ⟨o, w'⟩
  rw [hrun] at hsettles
  cases o with
  | returned a => simp [Host.call_of_returned hrun]
  | failed f => simp [Host.call_eq, bind_failed hrun]
  | stalled => exact absurd rfl hsettles

/-! ## Operations -/

namespace Manager

theorem closeSession_settles (hh : h.Prompt) (ref : SessionRef) : (closeSession h ref).Settles := by
  unfold closeSession
  refine (settles_session ref).bind fun x => ?_
  split
  · rename_i handle socket _ _
    refine (hh.call none (.close socket)).bind fun reply => ?_
    cases reply with
    | error f =>
      dsimp only
      split
      · exact (settles_record _).bind fun _ => settles_fail _
      · exact settles_fail _
    | ok u => exact (settles_changeSession ref _).bind fun _ => settles_record _
  · exact settles_fail _

theorem untrack_settles (ref : SessionRef) : (untrack ref : Act ω Bool).Settles :=
  settles_onRegistry _

theorem closeByHandle_settles (hh : h.Prompt) (handle : Int) (force : Bool) :
    (closeByHandle h handle force).Settles := by
  unfold closeByHandle
  refine settles_registry.bind fun r => ?_
  split
  · exact settles_fail _
  · rename_i ref _
    refine (settles_session ref).bind fun x => ?_
    split
    · exact settles_fail _
    · exact (closeSession_settles hh ref).attempt.bind fun result =>
        (untrack_settles ref).bind fun _ => settles_ofExcept result

theorem closeForTeardown_settles (hh : h.Prompt) (ref : SessionRef) :
    (closeForTeardown h ref).Settles := by
  unfold closeForTeardown
  refine (settles_session ref).bind fun x => ?_
  split
  · refine (closeSession_settles hh ref).attempt.bind fun result => ?_
    cases result with
    | ok u => exact settles_pure ()
    | error f =>
      dsimp only
      split
      · exact settles_record _
      · exact settles_fail _
  · exact settles_pure ()

theorem drain_settles (hh : h.Prompt) : ∀ refs, (drain h refs).Settles
  | [] => settles_pure 0
  | ref :: rest =>
    (closeForTeardown_settles hh ref).bind fun _ => (untrack_settles ref).bind fun _ =>
      (drain_settles hh rest).bind fun _ => settles_pure _

theorem teardownAll_settles (hh : h.Prompt) : (teardownAll h).Settles := by
  unfold teardownAll
  refine settles_registry.bind fun r => (drain_settles hh _).bind fun removed => ?_
  dsimp only
  split
  · exact (settles_record _).bind fun _ => settles_pure _
  · exact settles_pure _

theorem shutdown_settles (hh : h.Prompt) : (shutdown h).Settles :=
  (teardownAll_settles hh).bind fun _ => (settles_record _).bind fun _ => settles_pure _

theorem reverse_settles (m : Manager) (hh : h.Prompt) (address : Address) :
    (m.reverse h address).Settles := by
  unfold reverse Lookup.reverse
  split
  · split
    · exact settles_pure none
    · rename_i address' _
      refine (hh.call none (.hostByAddress address'.text)).bind fun reply => ?_
      cases reply with
      | ok name => exact settles_pure name
      | error f =>
        dsimp only
        split
        · exact settles_pure none
        · exact settles_fail f
  · exact (hh.call none (.reverse address)).bind fun reply => settles_ofExcept reply

theorem listingOf_settles (m : Manager) (hh : h.Prompt) (ref : SessionRef) :
    (m.listingOf h ref).Settles := by
  unfold listingOf
  refine (settles_session ref).bind fun x => ?_
  split
  · exact (settles_session ref).bind fun _ => settles_pure _
  · rename_i peer _
    exact (reverse_settles m hh peer.address).bind fun _ =>
      (settles_session ref).bind fun _ => settles_pure _

theorem listingsOf_settles (m : Manager) (hh : h.Prompt) : ∀ refs, (m.listingsOf h refs).Settles
  | [] => settles_pure []
  | ref :: rest => by
    unfold listingsOf
    refine (settles_session ref).bind fun x => ?_
    split
    · exact (listingOf_settles m hh ref).bind fun _ =>
        (listingsOf_settles m hh rest).bind fun _ => settles_pure _
    · exact listingsOf_settles m hh rest

theorem listAll_settles (m : Manager) (hh : h.Prompt) : (m.listAll h).Settles :=
  settles_registry.bind fun _ => listingsOf_settles m hh _

end Manager
end TcpSessions
