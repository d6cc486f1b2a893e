import TcpSessions.Proofs.Manager.Primitives
import TcpSessions.Proofs.Session.Validity
/-!
# The endpoints of sessions

Whatever was asked of a manager, its sessions are directed only at endpoints that opens made, which
have neither flow information nor a scope (`World.Reachable.unscoped`).
-/
namespace TcpSessions

open Act

variable {ω : Type} {env : Environment ω} {h : Host ω} {w : World ω}

/-- No session is directed at an endpoint with flow information or a scope. -/
def Registry.Unscoped (r : Registry) : Prop :=
  ∀ ref x p, r.get? ref = some x → x.peer = some p → p.Unscoped

namespace Registry.Unscoped

variable {r : Registry}

theorem create (hr : r.Unscoped) (flags : SessionFlags) : (r.create flags).2.Unscoped := by
  intro ref x p hx hp
  cases hold : r.get? ref with
  | some y =>
    obtain rfl := Option.some.inj (hx.symm.trans (Registry.get?_create_of_some hold))
    exact hr ref x p hold hp
  | none =>
    obtain ⟨-, rfl⟩ := Registry.eq_of_get?_create hx hold
    cases hp

theorem remove (hr : r.Unscoped) (ref : SessionRef) : (r.remove ref).2.Unscoped := by
  intro ref' x p hx hp
  rw [Registry.get?_remove] at hx
  exact hr ref' x p hx hp

theorem set (hr : r.Unscoped) {ref : SessionRef} {x y : Session} (hx : r.get? ref = some x)
    (hy : x.Redirected y) : (r.set ref y).Unscoped := by
  intro ref' z p hz hp
  rw [Registry.get?_set hx] at hz
  split at hz
  · obtain rfl := Option.some.inj hz
    rcases hy with hsame | ⟨q, hq, hunscoped⟩
    · exact hr ref x p hx (hsame ▸ hp)
    · obtain rfl := Option.some.inj (hp.symm.trans hq)
      exact hunscoped
  · exact hr ref' z p hz hp

end Registry.Unscoped

/-- A call keeps to such endpoints if the requests nested in it do. -/
theorem Host.keeps_unscoped_call (hn : h.environment.Nests Request.OfManager)
    (hq : ∀ q : Request, q.OfManager → Keeps (fun w => w.now.registry.Unscoped)
      (fun w => w.now.registry.Unscoped) (h.nested q)) (token : Option TokenId) (c : Call) :
    Keeps (fun w => w.now.registry.Unscoped) (fun w => w.now.registry.Unscoped)
      (h.call token c) := by
  intro w hw
  have hrun := Host.keeps_runNested (fun _ hw => hw) (fun _ _ _ hw => hw) hq _ (hn c w.outside)
    (h.entering token c w) hw
  refine .of_eq Host.call_eq (.bind (hrun.mono (fun _ _ hp => hp) fun _ _ hp => hp) ?_)
  intro _ u hu _
  exact .of_returned rfl hu hu

theorem Host.preserves_unscoped (hn : h.environment.Nests Request.OfManager)
    (hq : ∀ q : Request, q.OfManager → Keeps (fun w => w.now.registry.Unscoped)
      (fun w => w.now.registry.Unscoped) (h.nested q)) :
    h.Preserves (fun _ => True) (fun w => w.now.registry.Unscoped)
      (fun w => w.now.registry.Unscoped) where
  always := fun _ hw => hw
  notice := fun _ _ hw => hw
  sockets := fun _ _ hw => hw
  create := fun _ flags hw => hw.create flags
  remove := fun _ ref hw => hw.remove ref
  change := fun _ _ _ _ hw hx hy => hw.set hx hy
  call := fun token c _ => Host.keeps_unscoped_call hn hq token c

/-- Requests to a manager keep to such endpoints, however deep they are nested. -/
theorem perform_keeps_unscoped (henv : env.Nests Request.OfManager) (m : Manager) :
    ∀ (bound : Nat) (q : Request), q.OfManager →
      Keeps (fun w => w.now.registry.Unscoped) (fun w => w.now.registry.Unscoped)
        (perform env m bound q)
  | 0, _, _ => fun _ hw => .of_stalled rfl hw
  | bound + 1, q, hq =>
    ((Host.preserves_unscoped henv (perform_keeps_unscoped henv m bound)).maintains
      (h := ⟨env, perform env m bound, bound + 1⟩) (m := m) (fun _ _ _ hw => hw)
      (fun _ _ hw => hw)).serve q hq

theorem World.Reachable.unscoped (hw : w.Reachable) : w.now.registry.Unscoped := by
  obtain ⟨env, m, bound, qs, start, henv, hqs, rfl⟩ := hw
  have hstart : ({ outside := start } : World ω).now.registry.Unscoped := by
    intro ref x p hx
    simp [Registry.get?] at hx
  exact (Host.keeps_runNested (h := ⟨env, perform env m bound, bound⟩) (fun _ hw => hw)
    (fun _ _ _ hw => hw) (perform_keeps_unscoped henv m bound) qs hqs _ hstart).always

end TcpSessions
