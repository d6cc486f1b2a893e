import TcpSessions.Proofs.Session.Tracking
/-!
# States in the midst of a run

A state is attainable if some run passes through it, also while operations are half done. Besides
being valid, such a state has all its ids below the next one (`World.Issued`), and a session that
has left the table never comes back, whatever is nested in what (`World.Later.untracked`).
-/
namespace TcpSessions

variable {ω : Type} {env : Environment ω} {n : Nat} {w w' u : World ω} {ref : SessionRef}

namespace Registry

variable {r : Registry} {e : Entry}

theorem mem_entries_of_remove (he : e ∈ (r.remove ref).2.table.entries) : e ∈ r.table.entries := by
  unfold remove at he
  split at he
  · simp only [Table.remove] at he
    split at he
    · exact List.mem_of_mem_filter he
    · exact he
  · exact he

/-- An object is tracked once at most. -/
theorem Indexed.nodup_refs (h : r.Indexed) : r.table.refs.Nodup := by
  refine List.pairwise_map.2 (h.ordered.ids.imp_of_mem fun {e e'} he he' hlt heq => ?_)
  obtain ⟨x, hx, hid⟩ := h.entry e he
  obtain ⟨x', hx', hid'⟩ := h.entry e' he'
  rw [heq] at hx
  obtain rfl := Option.some.inj (hx.symm.trans hx')
  omega

/-- Only a session that is tracked is found when it is given up. -/
theorem mem_refs_of_remove (hr : (r.remove ref).1 = true) : ref ∈ r.table.refs := by
  by_contra hn
  rw [remove_of_notMem hn] at hr
  cases hr

end Registry

namespace World

/-- Some run passes through the state, maybe in the midst of operations nested in one another. -/
def Attainable (w : World ω) : Prop :=
  ∃ (env : Environment ω) (start : ω), Since env { outside := start } w

theorem Reachable.attainable (hw : w.Reachable) : w.Attainable := by
  obtain ⟨env, m, bound, qs, start, henv, hqs, rfl⟩ := hw
  exact ⟨env, start, env.after_since m bound start henv hqs⟩

theorem Attainable.valid (hw : w.Attainable) : w.now.Valid := by
  obtain ⟨env, start, hsince⟩ := hw
  exact hsince.valid Situation.valid_start

theorem Since.engaged (h : Since env w u) (hw : w.Engaged) : u.Engaged :=
  h.induct hw fun hs hu => hs.engaged hu

theorem Attainable.engaged (hw : w.Attainable) : w.Engaged := by
  obtain ⟨env, start, hsince⟩ := hw
  exact hsince.engaged (exclusive_start start).toEngaged

/-- The moments of a run follow one another, and go on doing so. -/
theorem Since.moments_precede (h : Since env w u) (hw : w.now.Coherent)
    (hm : w.moments.Pairwise fun later earlier => earlier.Precedes later) :
    u.moments.Pairwise fun later earlier => earlier.Precedes later :=
  h.moments_pairwise (P := fun u => u.now.Coherent) Situation.Precedes.trans
    (fun hs hu => ⟨hs.coherent hu, hs.precedes hu⟩) hw hm

theorem Attainable.moments_precede (hw : w.Attainable) :
    w.moments.Pairwise fun later earlier => earlier.Precedes later := by
  obtain ⟨env, start, hsince⟩ := hw
  exact hsince.moments_precede Situation.coherent_start (by simp [moments])

/-- A session that is not closed never was. -/
theorem not_closed_before {x : Session}
    (hm : w.moments.Pairwise fun later earlier => earlier.Precedes later)
    (hx : w.now.registry.get? ref = some x) (hstate : x.state ≠ .closed) :
    ∀ s ∈ w.moments, ∀ y, s.registry.get? ref = some y → y.state ≠ .closed := by
  intro s hs y hy hclosed
  rcases List.mem_cons.1 hs with rfl | hs
  · obtain rfl := Option.some.inj (hx.symm.trans hy)
    exact hstate hclosed
  · obtain ⟨z, hz, hadv⟩ := (List.rel_of_pairwise_cons hm hs).sessions hy
    obtain rfl := Option.some.inj (hx.symm.trans hz)
    have hrank := hadv.state
    rw [hclosed] at hrank
    cases hstate' : x.state with
    | closed => exact hstate hstate'
    | _ =>
      rw [hstate'] at hrank
      exact absurd hrank (by decide)

/-! ## Ids -/

/-- Every id given out so far is below the next one. -/
def Issued (w : World ω) : Prop :=
  ∀ ref x, w.now.registry.get? ref = some x → x.id < w.now.registry.table.nextId

theorem Step.issued (h : Step env n w w') (hw : w.Issued) : w'.Issued := by
  intro ref x hx
  -- what `set` does when it keeps the id of the session of `s`
  have of_set : ∀ {s : SessionRef} {y y' : Session}, w.now.registry.get? s = some y →
      (w.now.registry.set s y').get? ref = some x → y'.id = y.id →
      x.id < w.now.registry.table.nextId := by
    intro s y y' hy hx hid
    rw [Registry.get?_set hy] at hx
    split at hx
    · obtain rfl := Option.some.inj hx
      rw [hid]
      exact hw s y hy
    · exact hw ref x hx
  cases h with
  | around o ts => exact hw ref x hx
  | note e he => exact hw ref x hx
  | create flags =>
    show x.id < w.now.registry.table.nextId + 1
    cases hold : w.now.registry.get? ref with
    | some y =>
      obtain rfl := Option.some.inj ((Registry.get?_create_of_some hold).symm.trans hx)
      have := hw ref y hold
      omega
    | none =>
      obtain ⟨-, rfl⟩ := Registry.eq_of_get?_create hx hold
      show w.now.registry.table.nextId < w.now.registry.table.nextId + 1
      omega
  | untrack s hf =>
    show x.id < (w.now.registry.remove s).2.table.nextId
    rw [Registry.nextId_remove]
    exact hw ref x (Registry.get?_remove.symm.trans hx)
  | attach f d s y hn hy hs ht => exact of_set hy hx rfl
  | target peer s y hn hy hs => exact of_set hy hx rfl
  | join peer s y hn hy ho => exact of_set hy hx rfl
  | close socket s y hy ha hs => exact of_set hy hx rfl

theorem Attainable.issued (hw : w.Attainable) : w.Issued := by
  obtain ⟨env, start, hsince⟩ := hw
  refine hsince.induct (fun ref x hx => ?_) fun hs hu => hs.issued hu
  simp [Registry.get?] at hx

/-! ## Leaving the table -/

/-- A session that was created and is not tracked does not come back. -/
theorem Step.untracked (h : Step env n w w') (hlt : ref.index < w.count)
    (hr : ref ∉ w.now.registry.table.refs) : ref ∉ w'.now.registry.table.refs := by
  cases h with
  | create flags =>
    intro hr'
    rcases Table.mem_refs_insert.1 hr' with hr' | rfl
    · exact hr hr'
    · exact Nat.lt_irrefl _ hlt
  | untrack s hf =>
    intro hr'
    obtain ⟨e, he, rfl⟩ := List.mem_map.1 hr'
    exact hr (List.mem_map_of_mem (Registry.mem_entries_of_remove he))
  | _ => exact hr

/-- The second state comes after the first in some run, whoever works on it in between. -/
def Later (env : Environment ω) (w u : World ω) : Prop := Relation.ReflTransGen (Step env 0) w u

theorem Since.later (h : Since env w u) : w.Later env u :=
  Relation.ReflTransGen.mono (fun _ _ hs => hs.mono (Nat.zero_le _)) _ _ h

theorem Later.trans {v : World ω} (h : w.Later env u) (h' : u.Later env v) : w.Later env v :=
  Relation.ReflTransGen.trans h h'

theorem Later.valid (h : w.Later env u) (hw : w.now.Valid) : u.now.Valid := by
  induction h with
  | refl => exact hw
  | tail _ hs ih => exact hs.valid ih

theorem Later.count_le (h : w.Later env u) : w.count ≤ u.count := by
  induction h with
  | refl => exact Nat.le_refl _
  | tail _ hs ih => exact Nat.le_trans ih hs.count_le

theorem Later.untracked (h : w.Later env u) (hlt : ref.index < w.count)
    (hr : ref ∉ w.now.registry.table.refs) : ref ∉ u.now.registry.table.refs := by
  induction h with
  | refl => exact hr
  | tail hl hs ih => exact hs.untracked (Nat.lt_of_lt_of_le hlt (Later.count_le hl)) ih

/-- The state that is left when a session is taken out of the table. -/
abbrev without (w : World ω) (ref : SessionRef) : World ω :=
  w.setRegistry (w.now.registry.remove ref).2

end World
end TcpSessions
