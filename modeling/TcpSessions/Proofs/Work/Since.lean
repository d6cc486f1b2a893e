import TcpSessions.Proofs.Work.Step
/-!
# From one world to a later one

`w.Since env w'` says that `w'` came from `w` by steps of work that owns what it creates itself.
Such work leaves every session that was there before alone, except that it may close it
(`Since.kept`). `Since.induct` and `Since.moments_pairwise` carry invariants from steps to runs.
-/
namespace TcpSessions

variable {ω : Type} {env : Environment ω} {n : Nat} {w w' w'' : World ω}

/-- What becomes of a session in the hands of others: nothing, or it is closed by a close of its
socket that returned. -/
def Session.Kept (past : List Event) (x x' : Session) : Prop :=
  x' = x ∨ x.isOpen ∧ x' = x.markClosed ∧ ∃ socket, x.socket = some socket ∧ Released past socket

theorem Session.isOpen_markClosed (x : Session) : x.markClosed.isOpen = false := rfl

theorem Session.Kept.trans {past past' : List Event} {x x' x'' : Session} (hs : past <:+ past')
    (h : x.Kept past x') (h' : x'.Kept past' x'') : x.Kept past' x'' := by
  rcases h with rfl | ⟨ho, rfl, socket, hsock, hr⟩
  · exact h'
  · rcases h' with rfl | ⟨ho', _⟩
    · exact .inr ⟨ho, rfl, socket, hsock, hr.mono hs⟩
    · simp [isOpen_markClosed] at ho'

namespace World

/-- The second world came from the first by work that owns the sessions it creates. -/
def Since (env : Environment ω) (w w' : World ω) : Prop :=
  Relation.ReflTransGen (Step env w.count) w w'

theorem Since.refl (w : World ω) : Since env w w := Relation.ReflTransGen.refl

theorem Since.step (h : Since env w w') (hs : Step env w.count w' w'') : Since env w w'' :=
  Relation.ReflTransGen.tail h hs

/-- An invariant of single steps is one of runs. -/
theorem Since.induct {P : World ω → Prop} (h : Since env w w') (hw : P w)
    (hP : ∀ {u u' : World ω}, Step env w.count u u' → P u → P u') : P w' := by
  induction h with
  | refl => exact hw
  | tail _ hs ih => exact hP hs ih

/-- An invariant of single steps that rests on what a run is assumed to do. What is assumed of a
world has been so in earlier ones. -/
theorem Since.induct_assuming {H P : World ω → Prop} (h : Since env w w')
    (hH : ∀ {u u' : World ω}, Step env w.count u u' → H u' → H u) (hw : P w)
    (hP : ∀ {u u' : World ω}, Step env w.count u u' → H u' → P u → P u') (hend : H w') : P w' :=
  h.induct (P := fun u => H u → P u) (fun _ => hw)
    (fun hs hu hu' => hP hs hu' (hu (hH hs hu'))) hend

theorem Since.count_le (h : Since env w w') : w.count ≤ w'.count :=
  h.induct (P := fun u => w.count ≤ u.count) (Nat.le_refl _) fun hs hu => Nat.le_trans hu hs.count_le

theorem Since.past_suffix (h : Since env w w') : w.past <:+ w'.past :=
  h.induct (P := fun u => w.past <:+ u.past) List.suffix_rfl fun hs hu => hu.trans hs.past_suffix

theorem Since.trans (h : Since env w w') (h' : Since env w' w'') : Since env w w'' :=
  Relation.ReflTransGen.trans h
    (Relation.ReflTransGen.mono (fun _ _ hs => Step.mono h.count_le hs) _ _ h')

theorem Since.note {e : Event} (h : Since env w w') (he : e.Fits w'.now) :
    Since env w (w'.push e) :=
  h.step (.note e he)

/-- Sessions that were there before are at most closed. -/
theorem Since.kept {ref : SessionRef} {x : Session} (h : Since env w w')
    (hx : w.now.registry.get? ref = some x) :
    ∃ x', w'.now.registry.get? ref = some x' ∧ x.Kept w'.past x' := by
  have hlt : ¬ w.count ≤ ref.index := Nat.not_le.2 (Registry.index_lt hx)
  refine h.induct (P := fun u => ∃ x', u.now.registry.get? ref = some x' ∧ x.Kept u.past x')
    ⟨x, hx, .inl rfl⟩ ?_
  rintro u u' hs ⟨y, hy, hk⟩
  obtain ⟨y', hy', hc⟩ := hs.change hy
  refine ⟨y', hy', hk.trans hs.past_suffix ?_⟩
  cases hc with
  | same => exact .inl rfl
  | bound socket hn _ _ _ => exact absurd hn hlt
  | target peer hn _ => exact absurd hn hlt
  | joined peer hn _ => exact absurd hn hlt
  | closed socket ho hsock _ hr => exact .inr ⟨ho, rfl, socket, hsock, hr⟩

/-- A session without a handle stays as it is in the hands of others. -/
theorem Since.get?_of_not_open {ref : SessionRef} {x : Session} (h : Since env w w')
    (hx : w.now.registry.get? ref = some x) (ho : x.isOpen = false) :
    w'.now.registry.get? ref = some x := by
  obtain ⟨x', hx', hk⟩ := h.kept hx
  rcases hk with rfl | ⟨ho', _⟩
  · exact hx'
  · rw [ho] at ho'
    cases ho'

/-! ## Moments -/

theorem Step.mem_moments {s : Situation} (h : Step env n w w') (hs : s ∈ w'.moments) :
    s = w'.now ∨ s ∈ w.moments := by
  rcases h.moments with hm | hm
  · rw [hm, List.mem_cons] at hs; exact hs
  · rw [hm, List.mem_cons] at hs; exact hs.imp_right List.mem_of_mem_tail

/-- What an invariant says of the present situation holds at all moments. -/
theorem Since.forall_moments {H P : World ω → Prop} {Q : Situation → Prop} (h : Since env w w')
    (hH : ∀ {u u' : World ω}, Step env w.count u u' → H u' → H u) (hw : P w)
    (hP : ∀ {u u' : World ω}, Step env w.count u u' → H u' → P u → P u') (hend : H w')
    (hQ : ∀ {u : World ω}, P u → Q u.now) (hm : ∀ s ∈ w.moments, Q s) : ∀ s ∈ w'.moments, Q s := by
  refine (h.induct_assuming (P := fun u => P u ∧ ∀ s ∈ u.moments, Q s) hH ⟨hw, hm⟩ ?_ hend).2
  rintro u u' hs hu' ⟨hu, hq⟩
  have hnow := hP hs hu' hu
  refine ⟨hnow, fun s hmem => ?_⟩
  rcases hs.mem_moments hmem with rfl | hmem
  · exact hQ hnow
  · exact hq s hmem

/-- If an invariant of the steps relates each situation to the next, then the moments of a run are
related in order. -/
theorem Since.moments_pairwise {R : Situation → Situation → Prop} {P : World ω → Prop}
    (htrans : ∀ {s s' s''}, R s s' → R s' s'' → R s s'')
    (hstep : ∀ {u u' : World ω}, Step env w.count u u' → P u → P u' ∧ R u.now u'.now)
    (h : Since env w w') (hw : P w) (hm : w.moments.Pairwise fun later earlier => R earlier later) :
    w'.moments.Pairwise fun later earlier => R earlier later := by
  refine (h.induct (P := fun u => P u ∧ u.moments.Pairwise fun later earlier => R earlier later)
    ⟨hw, hm⟩ ?_).2
  rintro u u' hs ⟨hu, hp⟩
  obtain ⟨hu', hr⟩ := hstep hs hu
  refine ⟨hu', ?_⟩
  have hnow : ∀ s ∈ u.moments, R s u'.now := by
    intro s hs
    rcases List.mem_cons.1 hs with rfl | hs
    · exact hr
    · exact htrans (List.rel_of_pairwise_cons hp hs) hr
  rcases hs.moments with he | he
  · rw [he]; exact List.pairwise_cons.2 ⟨hnow, hp⟩
  · rw [he]
    exact List.pairwise_cons.2 ⟨fun s hs => hnow s (List.mem_of_mem_tail hs), hp.tail⟩

end World
end TcpSessions
