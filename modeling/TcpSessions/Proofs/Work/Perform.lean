import TcpSessions.Work.Perform
import TcpSessions.Proofs.Manager.Closing
import TcpSessions.Proofs.Manager.Inventory
import TcpSessions.Proofs.Manager.Opening
/-!
# Runs consist of steps

Every request to the manager only takes steps, however deep requests are nested in its calls
(`perform_since`, by induction on the bound), and so does a run of requests from a fresh start
(`Environment.after_since`). What holds at the start and is kept by each step therefore holds
throughout every run.
-/
namespace TcpSessions

open Act World

variable {ω : Type} {h : Host ω} {env : Environment ω} {w w₀ : World ω}

/-- The world after some requests were carried out one after another from a fresh start; each
answer is noted. -/
def Environment.after (env : Environment ω) (m : Manager) (bound : Nat) (qs : List Request)
    (start : ω) : World ω :=
  ((Host.mk env (perform env m bound) bound).runNested qs { outside := start }).2

theorem nth_ends (hw : Since env w₀ w) (n : Int) :
    Ends (Since env w₀) (Act.nth n) w (fun _ w' => w' = w) (fun _ _ => True) := by
  unfold Act.nth
  refine .registry_bind ?_
  split
  · exact .pure hw rfl
  · exact .fail hw trivial

theorem Operation.serve_ends (m : Manager) (hh : h.Sound) (hw : Since h.environment w₀ w)
    (op : Operation) :
    Ends (Since h.environment w₀) (op.serve h m) w (fun _ _ => True) (fun _ _ => True) := by
  cases op with
  | openSession r =>
    refine .bind (Manager.openSession_ends m hh hw r) fun ref w₁ h₁ _ => ?_
    exact .session_bind (fun x _ => .pure h₁ trivial) (fun _ => ⟨h₁, fun _ => trivial⟩)
  | close n =>
    refine .bind (nth_ends hw n) fun ref w₁ h₁ _ => ?_
    refine .bind ((Manager.closeSession_ends hh h₁).mono (fun _ _ _ => trivial)
      (fun _ _ _ => trivial)) fun _ w₂ h₂ _ => ?_
    exact .pure h₂ trivial
  | remove n =>
    refine .bind (nth_ends hw n) fun ref w₁ h₁ _ => ?_
    exact .bind (Manager.removeSession_ends hh h₁) fun _ w₂ h₂ _ => .pure h₂ trivial
  | closeByHandle handle force =>
    exact .bind (Manager.closeByHandle_ends hh hw handle force) fun _ w₁ h₁ _ => .pure h₁ trivial
  | listAll => exact .bind (Manager.listAll_ends m hh hw) fun _ w₁ h₁ _ => .pure h₁ trivial
  | teardownAll => exact .bind (Manager.teardownAll_ends hh hw) fun _ w₁ h₁ _ => .pure h₁ trivial

theorem TokenRequest.serve_ends (hw : Since env w₀ w) (t : TokenId) (r : TokenRequest) :
    Ends (Since env w₀) (r.serve t) w (fun _ _ => True) (fun _ _ => True) := by
  cases r with
  | cancel => exact .of_returned rfl (hw.step (.around w.outside (t :: w.now.cancelled))) trivial
  | reset =>
    exact .of_returned rfl (hw.step (.around w.outside (w.now.cancelled.filter (· ≠ t)))) trivial
  | isCancelled => exact .of_returned rfl hw trivial
  | interrupt => exact .of_failed rfl (hw.step (.around w.outside (t :: w.now.cancelled))) trivial

theorem Request.serve_ends (m : Manager) (hh : h.Sound) (hw : Since h.environment w₀ w) :
    ∀ q : Request, q.OfManager →
      Ends (Since h.environment w₀) (q.serve h m) w (fun _ _ => True) (fun _ _ => True)
  | .operation op, _ => op.serve_ends m hh hw
  | .shutdown, _ => .bind (Manager.shutdown_ends hh hw) fun _ _ h₁ _ => .pure h₁ trivial
  | .token t r, _ => r.serve_ends hw t

/-- Requests to tokens leave the sessions alone. -/
theorem registry_perform (m : Manager) (bound : Nat) {q : Request} (hq : q.OfToken)
    (w : World ω) : (perform env m bound q w).2.now.registry = w.now.registry := by
  cases bound with
  | zero => rfl
  | succ bound =>
    cases q with
    | token t r => cases r <;> rfl
    | _ => exact hq.elim

/-- Requests only take steps, whatever is nested in their calls. -/
theorem perform_since (m : Manager) (henv : env.Nests Request.OfManager) (bound : Nat) :
    ∀ q : Request, q.OfManager → ∀ w, Since env w (perform env m bound q w).2 := by
  -- nested requests are served with a smaller bound, so the host they run on is sound
  induction bound with
  | zero => exact fun _ _ w => .refl w
  | succ bound ih =>
    intro q hq w
    have hh : Host.Sound ⟨env, perform env m bound, bound + 1⟩ :=
      ⟨henv, ih, fun q hq w => registry_perform m bound hq w⟩
    exact (q.serve_ends m hh (.refl w) hq).always

theorem Environment.after_since (m : Manager) (bound : Nat) {qs : List Request} (start : ω)
    (henv : env.Nests Request.OfManager) (hqs : ∀ q ∈ qs, q.OfManager) :
    Since env { outside := start } (env.after m bound qs start) := by
  have hh : Host.Sound ⟨env, perform env m bound, bound⟩ :=
    ⟨henv, perform_since m henv bound, fun q hq w => registry_perform m bound hq w⟩
  exact (hh.runNested_ends qs _ hqs (.refl _)).always

end TcpSessions
