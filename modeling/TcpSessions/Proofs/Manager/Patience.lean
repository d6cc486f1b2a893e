import TcpSessions.Proofs.Manager.QuietOpening
import TcpSessions.Proofs.Manager.Settling
/-!
# Where an open gives up

On a prompt host nothing gives up but a connect, and that only after it was interrupted as often as
the host is patient. `World.Worn` is what the history shows when an open has given up.
-/
namespace TcpSessions

open Act World

variable {ω α β : Type} {h : Host ω} {w u w' : World ω} {token : Option TokenId}
variable {flags : SessionFlags} {socket : Socket} {x : Session} {calls : List SocketCall}

/-- If the work gives up, it leaves a world with a property. -/
def Act.GivesUp (S : World ω → Prop) (m : Act ω α) (w : World ω) : Prop :=
  (m w).1 = .stalled → S (m w).2

namespace Act

variable {S : World ω → Prop} {m : Act ω α} {k : α → Act ω β}

theorem Settles.givesUp (hm : m.Settles) : m.GivesUp S w := fun h => (hm w h).elim

theorem GivesUp.of_eq {m' : Act ω α} (h : m w = m' w') (hm : m'.GivesUp S w') : m.GivesUp S w := by
  unfold GivesUp
  rw [h]
  exact hm

theorem GivesUp.of_eq_returned {a : α} (h : m w = (.returned a, w')) : m.GivesUp S w := by
  intro hs
  rw [h] at hs
  cases hs

theorem GivesUp.of_eq_failed {f : Failure} (h : m w = (.failed f, w')) : m.GivesUp S w := by
  intro hs
  rw [h] at hs
  cases hs

theorem GivesUp.bind (hm : m.GivesUp S w)
    (hk : ∀ a w', m w = (.returned a, w') → (k a).GivesUp S w') : (m >>= k).GivesUp S w := by
  intro h
  rcases hw : m w with ⟨o, w'⟩
  cases o with
  | returned a =>
    rw [bind_eq hw] at h ⊢
    exact hk a w' hw h
  | failed f =>
    rw [bind_failed hw] at h
    cases h
  | stalled =>
    have hs : S (m w).2 := hm (by rw [hw])
    rw [bind_stalled hw]
    rwa [hw] at hs

theorem Settles.bind_givesUp (hm : m.Settles)
    (hk : ∀ a w', m w = (.returned a, w') → (k a).GivesUp S w') : (m >>= k).GivesUp S w :=
  GivesUp.bind hm.givesUp hk

theorem GivesUp.mono {S' : World ω → Prop} (hm : m.GivesUp S w) (hs : ∀ u, S u → S' u) :
    m.GivesUp S' w :=
  fun h => hs _ (hm h)

theorem GivesUp.ofExcept_bind {r : Except Failure α} (hk : ∀ a, r = .ok a → (k a).GivesUp S w) :
    (ofExcept r >>= k).GivesUp S w := by
  cases r with
  | ok a => exact .of_eq (bind_eq rfl k) (hk a rfl)
  | error f => exact .of_eq_failed (bind_failed rfl k)

theorem settles_isCancelled (token : Option TokenId) : (isCancelled token : Act ω Bool).Settles := by
  intro w h
  cases h

/-- Work that starts with a call on a quiet and prompt host. -/
theorem GivesUp.quiet_bind {c : Call} {k : Except Failure c.Reply → Act ω β} (hh : h.Quiet)
    (hp : h.Prompt)
    (hk : ∀ reply w', w.Called h.environment token c reply w' → (k reply).GivesUp S w') :
    (h.call token c >>= k).GivesUp S w := by
  rcases hh.call_cases token c w with ⟨reply, w', hcall, hc⟩ | ⟨w', hcall, -⟩
  · exact .of_eq (bind_eq hcall k) (hk reply w' hc)
  · exact (hp.call token c w (by rw [hcall])).elim

end Act

theorem Host.socketFrom_settles (reply : Except Failure Int) :
    (Host.socketFrom reply : Act ω (Except Failure Socket)).Settles := by
  intro w h
  cases reply <;> cases h

/-! ## Work that settles -/

namespace Manager

theorem lookup_resolve_settles (hh : h.Prompt) (name : String) (family : Family) :
    (Lookup.resolve h token name family).Settles := by
  unfold Lookup.resolve
  split
  · exact settles_pure _
  · refine (hh.call token (.addressInfo name family)).bind fun reply => ?_
    cases reply with
    | error f =>
      dsimp only
      split
      · exact (settles_record _).bind fun _ => settles_fail _
      · exact settles_fail _
    | ok infos =>
      refine (settles_ofExcept _).bind fun found => ?_
      split
      · exact settles_fail _
      · exact (settles_record _).bind fun _ => settles_pure _

theorem resolve_settles (m : Manager) (hh : h.Prompt) (host : String) (family : Family) :
    (m.resolve h token host family).Settles := by
  unfold resolve
  split
  · exact lookup_resolve_settles hh host family
  · exact (hh.call token (.resolve host family)).bind fun reply => settles_ofExcept reply

theorem candidatesOf_settles (m : Manager) (hh : h.Prompt) (host : String) (family : Family) :
    (m.candidatesOf h token host family).Settles := by
  unfold candidatesOf
  refine (resolve_settles m hh host family).attempt.bind fun result => ?_
  cases result with
  | error f =>
    dsimp only
    split <;> exact settles_fail _
  | ok candidates =>
    refine (settles_isCancelled token).bind fun b => ?_
    split
    · exact settles_fail _
    · exact settles_pure _

theorem register_settles (hh : h.Prompt) (family : Family) (flags : SessionFlags) :
    (register h token family flags).Settles := by
  unfold register
  refine (settles_onRegistry _).bind fun ref => (hh.call token _).bind fun reply =>
    (Host.socketFrom_settles reply).bind fun result => ?_
  cases result with
  | error f =>
    dsimp only
    split
    · exact (settles_onRegistry _).bind fun _ => settles_fail _
    · exact settles_fail _
  | ok socket => exact (settles_changeSession ref _).bind fun _ => settles_pure _

theorem enableInline_settles (m : Manager) (hh : h.Prompt) (ref : SessionRef) :
    (m.enableInline h token ref).Settles := by
  unfold enableInline
  refine (settles_session ref).bind fun x => ?_
  split
  · exact settles_pure ()
  · rename_i socket _
    split
    · refine (hh.call token (.setInline socket)).bind fun reply => ?_
      cases reply with
      | ok r => exact settles_pure ()
      | error f =>
        dsimp only
        split
        · exact (settles_session ref).bind fun _ => settles_record _
        · exact settles_fail _
    · exact settles_pure ()

end Manager

/-! ## Work that may give up -/

/-- From `w` to `u` an open registered a session, and its latest `n` calls, on the new socket, are
connects to one address that were all interrupted. -/
def World.Worn (w : World ω) (flags : SessionFlags) (n : Nat) (u : World ω) : Prop :=
  ∃ socket x calls address, w.Opening flags socket x calls u ∧ n ≤ calls.length ∧
    ∀ d ∈ calls.take n, d.call = .connect socket address ∧
      ∃ f, d.ending = .failed f ∧ f.isInterrupted = true

namespace Manager

/-- A connect gives up after as many interruptions as it has patience for. -/
theorem connectSocket_givesUp (hh : h.Quiet) (hp : h.Prompt) (peer : Peer) :
    ∀ (patience n : Nat) (calls : List SocketCall) (u : World ω),
      w.Opening flags socket x calls u → n ≤ calls.length →
      (∀ d ∈ calls.take n, d.call = .connect socket peer.socketAddress ∧
        ∃ f, d.ending = .failed f ∧ f.isInterrupted = true) →
      (connectSocket h token socket peer patience).GivesUp (w.Worn flags (n + patience)) u
  | 0, n, calls, u, ho, hn, hall => fun _ => ⟨socket, x, calls, _, ho, hn, hall⟩
  | patience + 1, n, calls, u, ho, hn, hall => by
    unfold connectSocket
    refine .quiet_bind hh hp fun reply u' hc => ?_
    have ho' := ho.called hc rfl
    cases reply with
    | ok r => exact (settles_pure _).givesUp
    | error f =>
      dsimp only
      split
      · rename_i hi
        refine (settles_isCancelled token).bind_givesUp fun b u'' hb => ?_
        obtain ⟨-, rfl⟩ : _ ∧ u' = u'' := by simpa [isCancelled] using hb
        split
        · exact (settles_pure _).givesUp
        · have hcons := connectSocket_givesUp hh hp peer patience (n + 1) _ u' ho'
            (by simpa using hn) (by
              intro d hd
              rw [List.take_succ_cons] at hd
              rcases List.mem_cons.1 hd with rfl | hd
              · exact ⟨rfl, f, rfl, hi⟩
              · exact hall d hd)
          rwa [Nat.add_right_comm] at hcons
      · exact (settles_pure _).givesUp

theorem connectSession_givesUp (hh : h.Quiet) (hp : h.Prompt) (peer : Peer)
    (ho : w.Opening flags socket x calls u) :
    (connectSession h token w.newcomer peer).GivesUp (w.Worn flags h.patience) u := by
  unfold connectSession
  refine .of_eq (bind_eq (session_some ho.get?) _) ?_
  rw [ho.socket_eq]
  refine (connectSocket_givesUp hh hp peer h.patience 0 calls u ho (by simp) (by simp)).mono ?_
  intro u' hu
  rwa [Nat.zero_add] at hu

theorem tryCandidates_givesUp (hh : h.Quiet) (hp : h.Prompt) {a : Attempt}
    (ha : a.ref = w.newcomer) :
    ∀ (candidates : List Address.Bytes) (last : Option Failure) (x : Session)
      (calls : List SocketCall) (u : World ω), w.Opening flags socket x calls u → Trying calls →
      (tryCandidates h a last candidates).GivesUp (w.Worn flags h.patience) u
  | [], last, x, calls, u, ho, ht => .of_eq_failed (failConnection_eq ha ho last)
  | bytes :: rest, last, x, calls, u, ho, ht => by
    have hturn := tryCandidates_turn hh ha ho ht last bytes rest
    generalize hrun : tryCandidates h a last (bytes :: rest) u = result at hturn
    cases hturn with
    | stopped => exact .of_eq_failed hrun
    | connected => exact .of_eq_returned hrun
    | stalled peer v hconnect hpart =>
      intro _
      have hworn := connectSession_givesUp hh hp peer (ho.targeted peer) (by rw [hconnect])
      rw [hconnect] at hworn
      rw [hrun]
      exact hworn
    | refused peer f calls' v hpeer ho' ht' hcall hf hs =>
      exact .of_eq hrun (tryCandidates_givesUp hh hp ha rest (some f) _ calls' v ho' ht')

/-- An open gives up only after one connect was interrupted as often as the host is patient. -/
theorem openSession_givesUp (m : Manager) (hh : h.Quiet) (hp : h.Prompt) (r : OpenRequest) :
    (m.openSession h r).GivesUp (w.Worn r.flags h.patience) w := by
  unfold openSession
  refine .ofExcept_bind fun port _ => .ofExcept_bind fun family _ => ?_
  refine (candidatesOf_settles m hp r.host family).bind_givesUp fun candidates w₁ hcandidates => ?_
  obtain ⟨hl, -⟩ := (candidatesOf_quiet m hh r.host family).of_eq_returned hcandidates
  refine (register_settles hp family r.flags).bind_givesUp fun ref w₂ href => ?_
  obtain ⟨-, rfl, d, x, -, ho⟩ := (register_quiet hh family r.flags).of_eq_returned href
  refine (enableInline_settles m hp _).bind_givesUp fun _ w₃ hinline => ?_
  obtain ⟨-, calls, ho₃, ht⟩ := (enableInline_quiet m hh ho).of_eq_returned hinline
  refine (tryCandidates_givesUp hh hp rfl candidates none x calls w₃ ho₃ ht).mono ?_
  rintro u ⟨socket, x', calls', address, ho', hn, hall⟩
  exact ⟨socket, x', calls', address, ho'.of_lookedUp hl, hn, hall⟩

end Manager
end TcpSessions
