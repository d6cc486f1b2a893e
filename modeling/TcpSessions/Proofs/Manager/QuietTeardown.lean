import TcpSessions.Proofs.Manager.QuietClosing
/-!
# Tearing down on a quiet host

Draining some sessions takes them, and no others, out of the table (`World.Cleared`), whether their
sockets close or the system refuses. Only a close that fails in another way stops it
(`World.Strayed`).
-/
namespace TcpSessions

open Act World

variable {ω : Type} {h : Host ω} {env : Environment ω} {w w₁ w₂ : World ω}
variable {ref : SessionRef} {x : Session} {handle : Handle} {socket : Socket}
variable {refs refs' : List SessionRef}

/-- From `w` to `w₁` some sessions were closed if possible, and dropped. -/
structure World.Cleared (w : World ω) (refs : List SessionRef) (w₁ : World ω) : Prop where
  valid : w₁.now.Valid
  tracked : w₁.now.registry.table.refs = w.now.registry.table.refs.filter (· ∉ refs)
  known : ∀ {ref x}, w.now.registry.get? ref = some x →
    ∃ x', w₁.now.registry.get? ref = some x'
  past : w.past <:+ w₁.past

/-- From `w` to `w₁` a close failed, and not plainly by the system. -/
structure World.Strayed (env : Environment ω) (w w₁ : World ω) : Prop where
  past : ∃ later, w₁.past = later ++ w.past ∧ ∃ socket f now,
    .left (.close socket) (.error f) now ∈ later ∧ env.MayAnswer (.close socket) (.error f) ∧
      ¬ f.Plain

namespace World

theorem Strayed.of_suffix (h : Strayed env w₁ w₂) (hs : w.past <:+ w₁.past) :
    Strayed env w w₂ := by
  obtain ⟨later, hp, socket, f, now, hmem, hf⟩ := h.past
  obtain ⟨more, hmore⟩ := hs
  exact ⟨later ++ more, by simp [hp, ← hmore], socket, f, now, List.mem_append_left _ hmem, hf⟩

theorem Cleared.trans (h : w.Cleared refs w₁) (h' : w₁.Cleared refs' w₂) :
    w.Cleared (refs ++ refs') w₂ where
  valid := h'.valid
  tracked := by
    rw [h'.tracked, h.tracked, List.filter_filter]
    exact List.filter_congr fun ref _ => by
      simp only [List.mem_append, not_or, Bool.decide_and, Bool.and_comm]
  known := by
    intro ref x hx
    obtain ⟨x', hx'⟩ := h.known hx
    exact h'.known hx'
  past := h.past.trans h'.past

theorem Cleared.refl (hw : w.now.Valid) : w.Cleared [] w where
  valid := hw
  tracked := (List.filter_eq_self.2 fun _ _ => by simp).symm
  known := fun hx => ⟨_, hx⟩
  past := List.suffix_rfl

theorem Cleared.notice (h : w.Cleared refs w₁) (n : Notice) :
    w.Cleared refs (w₁.push (.noticed n)) :=
  { h with past := h.past.trans (List.suffix_cons _ _) }

theorem Closing.cleared {reply : Except Failure Unit} (hc : w.Closing env ref x socket reply w₁)
    (hx : w.HasSocket ref x handle socket) (hw : w.now.Valid) : w.Cleared [] w₁ where
  valid := hc.valid hx hw
  tracked := by
    rw [hc.table]
    exact (List.filter_eq_self.2 fun _ _ => by simp).symm
  known := by
    intro ref' y hy
    rw [hc.get? hx.session]
    split
    · exact ⟨_, rfl⟩
    · exact ⟨y, hy⟩
  past := by
    obtain ⟨later, now, hp, -⟩ := hc.noted
    exact ⟨later, hp.symm⟩

/-- Dropping a session. -/
theorem cleared_untrack (hw : w.now.Valid) (hx : w.now.registry.get? ref = some x) :
    w.Cleared [ref] (w.setRegistry (w.now.registry.remove ref).2) where
  valid := valid_untrack hw ref
  tracked := by
    show (w.now.registry.remove ref).2.table.refs = _
    rw [(hw.indexed.remove_eq hx).2]
    simp only [List.mem_singleton]
  known := fun hy => ⟨_, Registry.get?_remove.trans hy⟩
  past := List.suffix_rfl

end World

namespace Manager

theorem closeForTeardown_quiet (hh : h.Quiet) (hw : w.now.Valid)
    (hx : w.now.registry.get? ref = some x) :
    Ends (fun _ => True) (closeForTeardown h ref) w (fun _ w₁ => w.Cleared [] w₁)
      (fun _ w₁ => Strayed h.environment w w₁) := by
  unfold closeForTeardown
  refine .of_eq (bind_eq (session_some hx) _) ?_
  split
  · rename_i ho
    obtain ⟨handle, socket, hs⟩ := hw.hasSocket hx ho
    have hclose := (closeSession_quiet hh hs).imp (R := fun _ => True) (fun _ _ => trivial)
      (fun _ _ _ hp => hp) (fun _ _ _ he => he)
    refine .attempt_bind hclose (fun _ w₁ _ hc => .pure trivial (hc.cleared hs hw)) ?_
    rintro f w₁ - ⟨g, hc, rfl⟩
    dsimp only
    split
    · exact .of_returned rfl trivial ((hc.cleared hs hw).notice _)
    · rename_i hother
      -- the failure of a plain close would name the close
      have hstray : ¬ g.Plain := fun hg =>
        hother handle.number (some g.errnoOr) (by rw [hg.closeFailure_eq])
      obtain ⟨later, now, hp, hmem⟩ := hc.noted
      exact .fail trivial ⟨later, hp, socket, g, now, hmem, hc.mayAnswer, hstray⟩
  · exact .pure trivial (.refl hw)

theorem drain_quiet (hh : h.Quiet) : ∀ (refs : List SessionRef) (w : World ω), w.now.Valid →
    (∀ ref ∈ refs, ∃ x, w.now.registry.get? ref = some x) →
    Ends (fun _ => True) (drain h refs) w (fun _ w₁ => w.Cleared refs w₁)
      (fun _ w₁ => Strayed h.environment w w₁)
  | [], w, hw, _ => .pure trivial (.refl hw)
  | ref :: rest, w, hw, hrefs => by
    obtain ⟨x, hx⟩ := hrefs ref (by simp)
    unfold drain
    refine .bind (closeForTeardown_quiet hh hw hx) fun _ w₁ _ h₁ => ?_
    obtain ⟨y, hy⟩ := h₁.known hx
    have h₂ := h₁.trans (cleared_untrack h₁.valid hy)
    refine .onRegistry_bind ?_
    have hrest : ∀ s ∈ rest, ∃ z,
        (w₁.setRegistry (w₁.now.registry.remove ref).2).now.registry.get? s = some z := by
      intro s hs
      obtain ⟨z, hz⟩ := hrefs s (by simp [hs])
      exact h₂.known hz
    refine .bind ((drain_quiet hh rest _ h₂.valid hrest).mono (fun _ _ h₃ => h₂.trans h₃)
      (fun _ _ he => he.of_suffix h₂.past)) fun others w₃ _ h₃ => ?_
    exact .pure trivial h₃

/-- A teardown empties the table. -/
theorem teardownAll_quiet (hh : h.Quiet) (hw : w.now.Valid) :
    Ends (fun _ => True) (teardownAll h) w (fun _ w₁ => w₁.now.registry.table.refs = [])
      (fun _ w₁ => Strayed h.environment w w₁) := by
  unfold teardownAll
  refine .registry_bind ?_
  refine .bind (drain_quiet hh _ w hw fun ref hr => hw.indexed.exists_get? hr)
    fun removed w₁ _ h₁ => ?_
  have hempty : w₁.now.registry.table.refs = [] := by
    rw [h₁.tracked]
    exact List.filter_eq_nil_iff.2 fun ref hr => by simp [hr]
  dsimp only
  split
  · exact .notice_bind (.pure trivial hempty)
  · exact .pure trivial hempty

theorem shutdown_quiet (hh : h.Quiet) (hw : w.now.Valid) :
    Ends (fun _ => True) (shutdown h) w (fun _ w₁ => w₁.now.registry.table.refs = [])
      (fun _ w₁ => Strayed h.environment w w₁) := by
  unfold shutdown
  refine .bind (teardownAll_quiet hh hw) fun removed w₁ _ h₁ => ?_
  exact .notice_bind (.pure trivial h₁)

/-- With no session left there is nothing to tear down. -/
theorem teardownAll_of_empty (hw : w.now.registry.table.refs = []) :
    teardownAll h w = (.returned 0, w) := by
  unfold teardownAll
  rw [bind_eq (m := Act.registry) (w := w) rfl, hw]
  rfl

/-- With no session left there is nothing to shut down. -/
theorem shutdown_of_empty (hw : w.now.registry.table.refs = []) :
    shutdown h w = (.returned 0, w.push (.noticed (.shutDown 0))) := by
  unfold shutdown
  rw [bind_eq (teardownAll_of_empty hw)]
  rfl

end Manager
end TcpSessions
