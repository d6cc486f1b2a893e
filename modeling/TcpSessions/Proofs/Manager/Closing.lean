import TcpSessions.Manager.Closing
import TcpSessions.Proofs.Work.Calls
/-!
# Closing only takes steps

However a close ends, its session may then be given up without losing a socket
(`closeSession_ends`): that is all that removing, closing by handle and tearing down need to know.
-/
namespace TcpSessions

open Act World

variable {ω : Type} {h : Host ω} {w w' w₀ : World ω} {ref : SessionRef} {x : Session}

/-! ## When a session may be given up -/

theorem World.mayForget_of_none (hx : w.now.registry.get? ref = none) : w.MayForget ref := by
  intro x hx'
  simp [hx] at hx'

theorem World.mayForget_of_closed (hx : w.now.registry.get? ref = some x)
    (ho : x.isOpen = false) : w.MayForget ref := by
  intro x' hx' ho'
  obtain rfl : x = x' := by simpa [hx] using hx'
  simp [ho] at ho'

theorem World.mayForget_of_attempted {socket : Socket} (hx : w.now.registry.get? ref = some x)
    (hs : x.socket = some socket) (ha : Attempted w.past socket) : w.MayForget ref := by
  intro x' hx' _ s hs'
  obtain rfl : x = x' := by simpa [hx] using hx'
  obtain rfl : socket = s := by simpa [hs] using hs'
  exact ha

theorem World.mayForget_of_no_socket (hx : w.now.registry.get? ref = some x)
    (hs : x.socket = none) : w.MayForget ref := by
  intro x' hx' _ s hs'
  obtain rfl : x = x' := by simpa [hx] using hx'
  simp [hs] at hs'

theorem World.MayForget.push (hf : w.MayForget ref) (e : Event) : (w.push e).MayForget ref :=
  fun x hx ho s hs => (hf x hx ho s hs).mono (List.suffix_cons e w.past)

/-- A session whose close was tried may be given up, whatever others made of it meanwhile. -/
theorem World.mayForget_of_kept {socket : Socket} {y : Session} (hs : x.socket = some socket)
    (hy : w.now.registry.get? ref = some y) (hk : x.Kept w.past y) (ha : Attempted w.past socket) :
    w.MayForget ref := by
  rcases hk with rfl | ⟨_, rfl, _⟩
  · exact mayForget_of_attempted hy hs ha
  · exact mayForget_of_closed hy (Session.isOpen_markClosed x)

namespace Manager

/-! ## Closing one session -/

/-- What a close makes of the session when it returns is a step: the session still has the socket,
or a nested request closed it. -/
theorem close_step {env : Environment ω} {socket : Socket} {y : Session} {n : Nat}
    (ho : x.isOpen) (hs : x.socket = some socket) (hy : w.now.registry.get? ref = some y)
    (hk : x.Kept w.past y) (ha : Attempted w.past socket) :
    Step env n w (w.close socket ref y) := by
  refine .close socket ref y hy ha ?_
  rcases hk with rfl | ⟨_, rfl, s, hs', hr⟩
  · exact .inl ⟨ho, hs⟩
  · obtain rfl : socket = s := by simpa [hs] using hs'
    exact .inr ⟨hr, rfl⟩

theorem closeSession_ends (hh : h.Sound) (hw : Since h.environment w₀ w) :
    Ends (Since h.environment w₀) (closeSession h ref) w (fun _ w' => w'.MayForget ref)
      (fun _ w' => w'.MayForget ref) := by
  unfold closeSession
  refine .session_bind (fun x hx => ?_) (fun hn => ⟨hw, fun _ => mayForget_of_none hn⟩)
  cases hhandle : x.handle with
  | none =>
    have ho : x.isOpen = false := by simp [Session.isOpen, hhandle]
    exact .fail hw (mayForget_of_closed hx ho)
  | some handle =>
    cases hsocket : x.socket with
    | none => exact .fail hw (mayForget_of_no_socket hx hsocket)
    | some socket =>
      refine .call_bind hh hw (by simp [Call.startsAttempt]) fun w₁ reply hin h₁ _ => ?_
      have ho : x.isOpen := by simp [Session.isOpen, hhandle]
      have ha : Attempted w₁.past socket :=
        .mono hin.past_suffix (attempted_cons.2 (.inl (by simp [Event.attemptsClose])))
      obtain ⟨y, hy, hk⟩ := hin.kept hx
      cases reply with
      | error f =>
        have h₂ := h₁.leave (.close socket) (.error f) rfl
        have hf := (mayForget_of_kept hsocket hy hk ha).push
          (.left (.close socket) (.error f) w₁.now)
        by_cases hsys : f.isSystem
        · simp only [hsys, if_true]
          exact .notice_bind (.fail (h₂.note trivial) (hf.push _))
        · simp only [hsys]
          exact .fail h₂ hf
      | ok u =>
        have h₂ := h₁.step (close_step ho hsocket hy hk ha)
        have hf : (w₁.close socket ref y).MayForget ref :=
          mayForget_of_closed (Registry.get?_set_self hy _) (Session.isOpen_markClosed y)
        refine .changeSession_bind hy (fun z hz => ?_) (fun e he => by cases he)
        obtain rfl : y.markClosed = z := by simpa using hz
        exact .of_returned rfl (h₂.note trivial) (hf.push _)

theorem untrack_ends {E : Failure → World ω → Prop} (hw : Since h.environment w₀ w)
    (hf : w.MayForget ref) :
    Ends (Since h.environment w₀) (untrack ref) w (fun _ _ => True) E :=
  .of_returned rfl (hw.step (.untrack ref hf)) trivial

theorem removeSession_ends (hh : h.Sound) (hw : Since h.environment w₀ w) :
    Ends (Since h.environment w₀) (removeSession h ref) w (fun _ _ => True) (fun _ _ => True) := by
  unfold removeSession
  refine .session_bind (fun x hx => ?_) (fun _ => ⟨hw, fun _ => trivial⟩)
  by_cases ho : x.isOpen
  · simp only [ho, if_true]
    refine .bind ((closeSession_ends hh hw).mono (fun _ _ hf => hf) (fun _ _ _ => trivial)) ?_
    exact fun _ w' hw' hf => untrack_ends hw' hf
  · simp only [ho]
    exact untrack_ends hw (mayForget_of_closed hx (by simpa using ho))

theorem closeByHandle_ends (hh : h.Sound) (hw : Since h.environment w₀ w) (handle : Int)
    (force : Bool) :
    Ends (Since h.environment w₀) (closeByHandle h handle force) w (fun _ _ => True)
      (fun _ _ => True) := by
  have drop : ∀ (result : Except Failure Unit) (ref : SessionRef) (w' : World ω),
      Since h.environment w₀ w' → w'.MayForget ref →
      Ends (Since h.environment w₀) (untrack ref >>= fun _ => Act.ofExcept result) w'
        (fun _ _ => True) (fun _ _ => True) := by
    intro result ref w' hw' hf
    refine .bind (untrack_ends hw' hf) fun _ u hu _ => ?_
    cases result with
    | ok a => exact .of_returned rfl hu trivial
    | error f => exact .fail hu trivial
  unfold closeByHandle
  refine .registry_bind ?_
  cases w.now.registry.findByHandle? handle with
  | none => exact .fail hw trivial
  | some ref =>
    refine .session_bind (fun x hx => ?_) (fun _ => ⟨hw, fun _ => trivial⟩)
    by_cases hp : (x.isProtected && !force) = true
    · simp only [hp, if_true]
      exact .fail hw trivial
    · simp only [hp]
      exact .attempt_bind (closeSession_ends hh hw) (fun _ w' hw' hf => drop _ ref w' hw' hf)
        (fun _ w' hw' hf => drop _ ref w' hw' hf)

/-! ## Tearing down -/

theorem closeForTeardown_ends (hh : h.Sound) (hw : Since h.environment w₀ w) :
    Ends (Since h.environment w₀) (closeForTeardown h ref) w (fun _ w' => w'.MayForget ref)
      (fun _ _ => True) := by
  unfold closeForTeardown
  refine .session_bind (fun x hx => ?_) (fun _ => ⟨hw, fun _ => trivial⟩)
  by_cases ho : x.isOpen
  · simp only [ho, if_true]
    refine .attempt_bind (closeSession_ends hh hw) (fun _ w' hw' hf => .pure hw' hf) ?_
    intro f w' hw' hf
    dsimp only
    split
    · exact .of_returned rfl (hw'.note trivial) (hf.push _)
    · exact .fail hw' trivial
  · simp only [ho]
    exact .pure hw (mayForget_of_closed hx (by simpa using ho))

theorem drain_ends (hh : h.Sound) : ∀ (refs : List SessionRef) (w : World ω),
    Since h.environment w₀ w →
    Ends (Since h.environment w₀) (drain h refs) w (fun _ _ => True) (fun _ _ => True)
  | [], w, hw => .pure hw trivial
  | ref :: rest, w, hw => by
    unfold drain
    refine .bind (closeForTeardown_ends hh hw) fun _ w₁ h₁ hf => ?_
    refine .bind (untrack_ends h₁ hf) fun dropped w₂ h₂ _ => ?_
    exact .bind (drain_ends hh rest w₂ h₂) fun others w₃ h₃ _ => .pure h₃ trivial

theorem teardownAll_ends (hh : h.Sound) (hw : Since h.environment w₀ w) :
    Ends (Since h.environment w₀) (teardownAll h) w (fun _ _ => True) (fun _ _ => True) := by
  unfold teardownAll
  refine .registry_bind (.bind (drain_ends hh _ w hw) fun removed w' hw' _ => ?_)
  dsimp only
  split
  · exact .notice_bind (.pure (hw'.note trivial) trivial)
  · exact .pure hw' trivial

theorem shutdown_ends (hh : h.Sound) (hw : Since h.environment w₀ w) :
    Ends (Since h.environment w₀) (shutdown h) w (fun _ _ => True) (fun _ _ => True) := by
  unfold shutdown
  refine .bind (teardownAll_ends hh hw) fun removed w' hw' _ => ?_
  exact .notice_bind (.pure (hw'.note trivial) trivial)

end Manager
end TcpSessions
