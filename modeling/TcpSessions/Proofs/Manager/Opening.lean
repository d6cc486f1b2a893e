import TcpSessions.Manager.Opening
import TcpSessions.Proofs.Work.Calls
/-!
# Opening only takes steps

An open that started in `w₀` owns the session it registers, whose index is at least `w₀.count`. It
calls the factory and connects only right after it saw that its token was not set, and once the
socket is attached the session never is a created one again (`World.Allocated`).
-/
namespace TcpSessions

open Act World

variable {ω : Type} {h : Host ω} {env : Environment ω} {w w' w₀ : World ω} {ref : SessionRef}
variable {token : Option TokenId}

/-! ## Sessions that have got their socket -/

/-- The session exists and has left its first state. -/
def World.Allocated (w : World ω) (ref : SessionRef) : Prop :=
  ∃ x, w.now.registry.get? ref = some x ∧ x.state ≠ .created

theorem World.Step.allocated {n : Nat} (h : Step env n w w') (ha : w.Allocated ref) :
    w'.Allocated ref := by
  obtain ⟨x, hx, hs⟩ := ha
  obtain ⟨x', hx', hc⟩ := h.change hx
  refine ⟨x', hx', ?_⟩
  cases hc with
  | same => exact hs
  | bound socket _ hcreated _ _ => exact absurd hcreated hs
  | target peer _ _ => exact hs
  | joined peer _ _ => simp [Session.joined]
  | closed socket _ _ _ _ => simp [Session.markClosed]

theorem World.Since.allocated (h : Since env w w') (ha : w.Allocated ref) : w'.Allocated ref :=
  h.induct (P := fun u => u.Allocated ref) ha fun hs hu => hs.allocated hu

namespace Manager

/-! ## Resolving -/

theorem lookup_resolve_ends (hh : h.Sound) (hw : Since h.environment w₀ w) (name : String)
    (family : Family) :
    Ends (Since h.environment w₀) (Lookup.resolve h token name family) w (fun _ _ => True)
      (fun _ _ => True) := by
  unfold Lookup.resolve
  cases Address.literal? family name with
  | some bytes => exact .pure hw trivial
  | none =>
    refine .call_bind hh hw (by simp [Call.startsAttempt]) fun w₁ reply _ h₁ _ => ?_
    have h₂ := h₁.leave (.addressInfo name family) reply (by cases reply <;> rfl)
    cases reply with
    | error f =>
      dsimp only
      split
      · exact .notice_bind (.fail (h₂.note trivial) trivial)
      · exact .fail h₂ trivial
    | ok infos =>
      refine .ofExcept_bind (fun found _ => ?_) (fun _ _ => ⟨h₂, trivial⟩)
      split
      · exact .fail h₂ trivial
      · exact .notice_bind (.pure (h₂.note trivial) trivial)

theorem resolve_ends (m : Manager) (hh : h.Sound) (hw : Since h.environment w₀ w) (host : String)
    (family : Family) :
    Ends (Since h.environment w₀) (m.resolve h token host family) w (fun _ _ => True)
      (fun _ _ => True) := by
  unfold resolve
  split
  · exact lookup_resolve_ends hh hw host family
  · refine .call_bind hh hw (by simp [Call.startsAttempt]) fun w₁ reply _ h₁ _ => ?_
    have h₂ := h₁.leave (.resolve host family) reply (by cases reply <;> rfl)
    cases reply with
    | ok found => exact .of_returned rfl h₂ trivial
    | error f => exact .fail h₂ trivial

/-- Candidates are returned only while the token is not set. -/
theorem candidatesOf_ends (m : Manager) (hh : h.Sound) (hw : Since h.environment w₀ w)
    (host : String) (family : Family) :
    Ends (Since h.environment w₀) (m.candidatesOf h token host family) w
      (fun _ w' => w'.now.isSet token = false) (fun _ _ => True) := by
  unfold candidatesOf
  refine .attempt_bind (resolve_ends m hh hw host family) (fun candidates w₁ h₁ _ => ?_) ?_
  · refine .isCancelled_bind ?_
    by_cases hset : w₁.now.isSet token
    · simp only [hset, if_true]
      exact .fail h₁ trivial
    · simp only [hset]
      exact .pure h₁ (by simpa using hset)
  · intro f w₁ h₁ _
    dsimp only
    split
    · exact .fail h₁ trivial
    · exact .fail h₁ trivial

/-! ## Registering -/

theorem attach_created {socket : Socket} {y : Session} (hs : y.state = .created) :
    y.attach socket = .ok (y.bound socket) := by
  simp [Session.attach, hs, Session.bound]

/-- The session registered is one that the open created itself, and it has its socket. -/
theorem register_ends (hh : h.Sound) (hw : Since h.environment w₀ w)
    (hset : w.now.isSet token = false) (family : Family) (flags : SessionFlags) :
    Ends (Since h.environment w₀) (register h token family flags) w
      (fun ref w' => w₀.count ≤ ref.index ∧ w'.Allocated ref) (fun _ _ => True) := by
  unfold register
  refine .onRegistry_bind ?_
  have h₁ : Since h.environment w₀ (w.setRegistry (w.now.registry.create flags).2) :=
    hw.step (.create flags)
  refine .call_bind hh h₁ (fun _ => hset) fun w₂ reply hin h₂ hquiet => ?_
  -- nested requests leave the new session alone, since it has no handle yet
  have hy := hin.get?_of_not_open (Registry.get?_create_new w.now.registry flags) rfl
  cases reply with
  | error f =>
    have h₃ := h₂.leave (.createSocket family) (.error f) rfl
    refine .of_eq (bind_eq rfl _) ?_
    dsimp only
    split
    · refine .onRegistry_bind (.fail (h₃.step (.untrack _ ?_)) trivial)
      intro x hx ho
      obtain rfl := Option.some.inj (hy.symm.trans hx)
      simp [Session.isOpen] at ho
    · exact .fail h₃ trivial
  | ok d =>
    have hn : w₀.count ≤ (w.now.registry.create flags).1.index := hw.count_le
    have htracked : h.environment.Quiet →
        (w.now.registry.create flags).1 ∈ w₂.now.registry.table.refs := by
      intro hq
      rw [hquiet hq]
      simp [setRegistry, Registry.create, Table.insert, Table.refs]
    have h₃ := h₂.step (.attach family d _ _ hn hy rfl htracked)
    refine .of_eq (bind_eq (m := Host.socketFrom _) rfl _) ?_
    refine .changeSession_bind hy (fun z hz => ?_) (fun e he => ?_)
    · rw [attach_created rfl] at hz
      obtain rfl := Except.ok.inj hz
      refine .pure h₃ ⟨hn, _, Registry.get?_set_self hy _, ?_⟩
      simp [Session.bound]
    · rw [attach_created rfl] at he
      cases he

theorem enableInline_ends (m : Manager) (hh : h.Sound) (hw : Since h.environment w₀ w)
    (ha : w.Allocated ref) :
    Ends (Since h.environment w₀) (m.enableInline h token ref) w (fun _ w' => w'.Allocated ref)
      (fun _ _ => True) := by
  unfold enableInline
  refine .session_bind (fun x _ => ?_) (fun _ => ⟨hw, fun _ => trivial⟩)
  cases x.socket with
  | none => exact .pure hw ha
  | some socket =>
    dsimp only
    split
    · refine .call_bind hh hw (by simp [Call.startsAttempt]) fun w₁ reply hin h₁ _ => ?_
      have h₂ := h₁.leave (.setInline socket) reply (by cases reply <;> rfl)
      have ha₁ : w₁.Allocated ref := hin.allocated ha
      cases reply with
      | ok u => exact .pure h₂ ha₁
      | error f =>
        dsimp only
        split
        · refine .session_bind (fun y _ => ?_) (fun _ => ⟨h₂, fun _ => trivial⟩)
          exact .of_returned rfl (h₂.note trivial) ha₁
        · exact .fail h₂ trivial
    · exact .pure hw ha

/-! ## Connecting -/

theorem connectSocket_ends (hh : h.Sound) (socket : Socket) (peer : Peer) :
    ∀ (patience : Nat) (w : World ω), Since h.environment w₀ w → w.now.isSet token = false →
      w.Allocated ref →
      Ends (Since h.environment w₀) (connectSocket h token socket peer patience) w
        (fun _ w' => w'.Allocated ref) (fun _ _ => True)
  | 0, w, hw, _, _ => .of_stalled rfl hw
  | patience + 1, w, hw, hset, ha => by
    unfold connectSocket
    refine .call_bind hh hw (fun _ => hset) fun w₁ reply hin h₁ _ => ?_
    have h₂ := h₁.leave (.connect socket peer.socketAddress) reply
      (by cases reply <;> rfl)
    have ha₁ : w₁.Allocated ref := hin.allocated ha
    cases reply with
    | ok u => exact .pure h₂ ha₁
    | error f =>
      dsimp only
      split
      · refine .isCancelled_bind ?_
        by_cases hset₁ : w₁.now.isSet token
        · simp only [push, hset₁, if_true]
          exact .pure h₂ ha₁
        · simp only [push, hset₁]
          exact connectSocket_ends hh socket peer patience _ h₂ (by simpa using hset₁) ha₁
      · exact .pure h₂ ha₁

theorem connectSession_ends (hh : h.Sound) (hw : Since h.environment w₀ w)
    (hset : w.now.isSet token = false) (ha : w.Allocated ref) (peer : Peer) :
    Ends (Since h.environment w₀) (connectSession h token ref peer) w
      (fun _ w' => w'.Allocated ref) (fun _ _ => True) := by
  unfold connectSession
  refine .session_bind (fun x _ => ?_) (fun _ => ⟨hw, fun _ => trivial⟩)
  cases x.socket with
  | none => exact .fail hw trivial
  | some socket => exact connectSocket_ends hh socket peer h.patience w hw hset ha

theorem markConnected_eq_ok {peer : Peer} {y z : Session} (hz : y.markConnected peer = .ok z) :
    y.isOpen ∧ z = y.joined peer := by
  unfold Session.markConnected at hz
  split at hz
  · rename_i ho
    exact ⟨ho, (Except.ok.inj hz).symm⟩
  · cases hz

theorem markConnected_eq_error {peer : Peer} {y : Session} {e : LifecycleError}
    (he : y.markConnected peer = .error e) : y.handle = none ∧ e = .notAttached := by
  unfold Session.markConnected at he
  split at he
  · cases he
  · rename_i hclosed
    exact ⟨by simpa [Session.isOpen] using hclosed, (Except.error.inj he).symm⟩

/-- Work that starts by joining the session that the open owns, unless it was closed meanwhile. -/
theorem markConnected_bind {β : Type} {peer : Peer} {k : Unit → Act ω β} {P : β → World ω → Prop}
    (hn : w₀.count ≤ ref.index) (hw : Since env w₀ w) (ha : w.Allocated ref)
    (hk : ∀ w', Since env w₀ w' → Ends (Since env w₀) (k ()) w' P (fun _ _ => True)) :
    Ends (Since env w₀) (Act.changeSession ref (fun s => s.markConnected peer) >>= k) w P
      (fun _ _ => True) := by
  obtain ⟨y, hy, _⟩ := ha
  refine .changeSession_bind hy (fun z hz => ?_) (fun _ _ => ⟨hw, trivial⟩)
  obtain ⟨ho, rfl⟩ := markConnected_eq_ok hz
  exact hk _ (hw.step (.join peer ref y hn hy ho))

theorem failCancelled_ends {α : Type} {P : α → World ω → Prop} (hw : Since h.environment w₀ w)
    (host : String) (peer : Peer) (errno : Int) (cause : Option Failure) :
    Ends (Since h.environment w₀) (failCancelled ref host peer errno cause) w P
      (fun _ _ => True) := by
  unfold failCancelled
  refine .session_bind (fun x _ => ?_) (fun _ => ⟨hw, fun _ => trivial⟩)
  exact .notice_bind (.fail (hw.note trivial) trivial)

theorem failConnection_ends {α : Type} {P : α → World ω → Prop} (hw : Since h.environment w₀ w)
    (a : Attempt) (last : Option Failure) :
    Ends (Since h.environment w₀) (failConnection a last) w P (fun _ _ => True) := by
  unfold failConnection
  have h₁ := hw.note (e := .noticed (.connectionFailed a.host a.port a.candidates)) trivial
  refine .notice_bind (.session_bind (fun x _ => ?_) (fun _ => ⟨h₁, fun _ => trivial⟩))
  exact .fail h₁ trivial

theorem tryCandidates_ends (hh : h.Sound) (a : Attempt) (hn : w₀.count ≤ a.ref.index) :
    ∀ (candidates : List Address.Bytes) (last : Option Failure) (w : World ω),
      Since h.environment w₀ w → w.Allocated a.ref →
      Ends (Since h.environment w₀) (tryCandidates h a last candidates) w (fun _ _ => True)
        (fun _ _ => True)
  | [], last, w, hw, _ => failConnection_ends hw a last
  | bytes :: rest, last, w, hw, ha => by
    unfold tryCandidates
    dsimp only
    split
    · exact .fail hw trivial
    · rename_i peer _
      refine .isCancelled_bind ?_
      cases hset : w.now.isSet a.token with
      | true =>
        simp only [if_true]
        exact failCancelled_ends hw a.host peer _ _
      | false =>
      simp only [Bool.false_eq_true, if_false]
      obtain ⟨x, hx, hs⟩ := ha
      have h₁ := hw.step (.target peer a.ref x hn hx hs)
      have ha₁ : (w.setRegistry (w.now.registry.set a.ref (x.target peer))).Allocated a.ref :=
        ⟨_, Registry.get?_set_self hx _, hs⟩
      refine .changeSession_bind hx (fun z hz => ?_) (fun e he => by cases he)
      obtain rfl := Except.ok.inj hz
      refine .bind (connectSession_ends hh h₁ hset ha₁ peer) ?_
      intro result w₂ h₂ ha₂
      cases result with
      | ok u =>
        refine markConnected_bind hn h₂ ha₂ fun w₃ h₃ => ?_
        refine .session_bind (fun v _ => ?_) (fun _ => ⟨h₃, fun _ => trivial⟩)
        exact .notice_bind (.pure (h₃.note trivial) trivial)
      | error f =>
        dsimp only
        split
        · exact failCancelled_ends h₂ a.host peer _ _
        split
        · exact .notice_bind (tryCandidates_ends hh a hn rest _ _ (h₂.note trivial) ha₂)
        · exact .fail h₂ trivial

theorem openSession_ends (m : Manager) (hh : h.Sound) (hw : Since h.environment w₀ w)
    (r : OpenRequest) :
    Ends (Since h.environment w₀) (m.openSession h r) w (fun _ _ => True) (fun _ _ => True) := by
  unfold openSession
  refine .ofExcept_bind (fun port _ => ?_) (fun _ _ => ⟨hw, trivial⟩)
  refine .ofExcept_bind (fun family _ => ?_) (fun _ _ => ⟨hw, trivial⟩)
  refine .bind (candidatesOf_ends m hh hw r.host family) fun candidates w₁ h₁ hset => ?_
  refine .bind (register_ends hh h₁ hset family r.flags) fun ref w₂ h₂ hown => ?_
  refine .bind (enableInline_ends m hh h₂ hown.2) fun _ w₃ h₃ ha => ?_
  exact tryCandidates_ends hh _ hown.1 candidates none w₃ h₃ ha

end Manager
end TcpSessions
