import TcpSessions.Proofs.Work.History
/-!
# How work ends

`Act.Ends R m w P E` says how the work `m` ends when it starts in `w`: `R` holds of the world it
leaves, `P` of what it returns, `E` of what it fails with. There is one rule for each thing that
work can start with; `Ends.bind` puts pieces together.
-/
namespace TcpSessions

variable {ω α β : Type}

/-- How work ends that has a result. -/
def Outcome.ofExcept : Except Failure α → Outcome α
  | .ok a => .returned a
  | .error f => .failed f

namespace Act

variable {m : Act ω α} {k : α → Act ω β} {w w' : World ω}
variable {R : World ω → Prop} {E : Failure → World ω → Prop}

theorem bind_eq {a : α} (h : m w = (.returned a, w')) (k : α → Act ω β) : (m >>= k) w = k a w' := by
  show Act.andThen m k w = _
  simp [Act.andThen, h]

theorem bind_failed {f : Failure} (h : m w = (.failed f, w')) (k : α → Act ω β) :
    (m >>= k) w = (.failed f, w') := by
  show Act.andThen m k w = _
  simp [Act.andThen, h]

theorem bind_stalled (h : m w = (.stalled, w')) (k : α → Act ω β) :
    (m >>= k) w = (.stalled, w') := by
  show Act.andThen m k w = _
  simp [Act.andThen, h]

theorem bind_congr_left {m' : Act ω α} (h : m w = m' w) : (m >>= k) w = (m' >>= k) w := by
  show Act.andThen m k w = Act.andThen m' k w
  simp only [Act.andThen, h]

/-- Work that returned had its pieces return. -/
theorem bind_eq_returned {b : β} : (m >>= k) w = (.returned b, w') ↔
    ∃ a v, m w = (.returned a, v) ∧ k a v = (.returned b, w') := by
  constructor
  · intro hrun
    rcases hm : m w with ⟨o, v⟩
    cases o with
    | returned a => exact ⟨a, v, rfl, (bind_eq hm k).symm.trans hrun⟩
    | failed f => cases (bind_failed hm k).symm.trans hrun
    | stalled => cases (bind_stalled hm k).symm.trans hrun
  · rintro ⟨a, v, hm, hk⟩
    exact (bind_eq hm k).trans hk

theorem bind_assoc {γ : Type} (m : Act ω α) (f : α → Act ω β) (g : β → Act ω γ) :
    m >>= f >>= g = m >>= fun a => f a >>= g := by
  funext w
  rcases hw : m w with ⟨o, w'⟩
  cases o with
  | returned a =>
    rw [bind_eq hw]
    show Act.andThen (m >>= f) g w = Act.andThen (f a) g w'
    unfold Act.andThen
    rw [bind_eq hw]
  | failed e => rw [bind_failed hw, bind_failed (bind_failed hw f)]
  | stalled => rw [bind_stalled hw, bind_stalled (bind_stalled hw f)]

theorem attempt_returned {a : α} (h : m w = (.returned a, w')) :
    attempt m w = (.returned (.ok a), w') := by
  simp [attempt, h]

theorem attempt_failed {f : Failure} (h : m w = (.failed f, w')) :
    attempt m w = (.returned (.error f), w') := by
  simp [attempt, h]

theorem attempt_stalled (h : m w = (.stalled, w')) : attempt m w = (.stalled, w') := by
  simp [attempt, h]

theorem ofExcept_eq (r : Except Failure α) (w : World ω) :
    Act.ofExcept r w = (Outcome.ofExcept r, w) := by
  cases r <;> rfl

theorem attempt_ofExcept {r : Except Failure α} (h : m w = (Outcome.ofExcept r, w')) :
    attempt m w = (.returned r, w') := by
  cases r with
  | ok a => exact attempt_returned h
  | error f => exact attempt_failed h

/-- How a piece of work ends. -/
structure Ends (R : World ω → Prop) (m : Act ω α) (w : World ω) (P : α → World ω → Prop)
    (E : Failure → World ω → Prop) : Prop where
  always : R (m w).2
  returned : ∀ a, (m w).1 = .returned a → P a (m w).2
  failed : ∀ f, (m w).1 = .failed f → E f (m w).2

section
variable {P : α → World ω → Prop}

theorem Ends.of_returned {a : α} (h : m w = (.returned a, w')) (hr : R w') (hp : P a w') :
    Ends R m w P E := by
  constructor <;> simp only [h]
  · exact hr
  · rintro b hb; obtain rfl : a = b := by simpa using hb
    exact hp
  · simp

theorem Ends.of_failed {f : Failure} (h : m w = (.failed f, w')) (hr : R w') (he : E f w') :
    Ends R m w P E := by
  constructor <;> simp only [h]
  · exact hr
  · simp
  · rintro g hg; obtain rfl : f = g := by simpa using hg
    exact he

theorem Ends.of_stalled (h : m w = (.stalled, w')) (hr : R w') : Ends R m w P E := by
  constructor <;> simp [h, hr]

theorem Ends.pure {a : α} (hr : R w) (hp : P a w) : Ends R (Pure.pure a) w P E :=
  .of_returned rfl hr hp

theorem Ends.fail {f : Failure} (hr : R w) (he : E f w) : Ends R (Act.fail f) w P E :=
  .of_failed rfl hr he

theorem Ends.mono {P' : α → World ω → Prop} {E' : Failure → World ω → Prop}
    (h : Ends R m w P' E') (hp : ∀ a w', P' a w' → P a w') (he : ∀ f w', E' f w' → E f w') :
    Ends R m w P E :=
  ⟨h.always, fun a ha => hp a _ (h.returned a ha), fun f hf => he f _ (h.failed f hf)⟩

theorem Ends.imp {R' : World ω → Prop} {P' : α → World ω → Prop} {E' : Failure → World ω → Prop}
    (h : Ends R' m w P' E') (hr : ∀ w', R' w' → R w') (hp : ∀ a w', R' w' → P' a w' → P a w')
    (he : ∀ f w', R' w' → E' f w' → E f w') : Ends R m w P E :=
  ⟨hr _ h.always, fun a ha => hp a _ h.always (h.returned a ha),
    fun f hf => he f _ h.always (h.failed f hf)⟩

theorem Ends.and {R' : World ω → Prop} {P' : α → World ω → Prop} {E' : Failure → World ω → Prop}
    (h : Ends R m w P E) (h' : Ends R' m w P' E') :
    Ends (fun u => R u ∧ R' u) m w (fun a u => P a u ∧ P' a u) (fun f u => E f u ∧ E' f u) :=
  ⟨⟨h.always, h'.always⟩, fun a ha => ⟨h.returned a ha, h'.returned a ha⟩,
    fun f hf => ⟨h.failed f hf, h'.failed f hf⟩⟩

/-- What is known of work that is seen to return. -/
theorem Ends.of_eq_returned (he : Ends R m w P E) {a : α} (h : m w = (.returned a, w')) :
    R w' ∧ P a w' := by
  obtain ⟨hr, hp, -⟩ := he
  rw [h] at hr hp
  exact ⟨hr, hp a rfl⟩

/-- What is known of work that is seen to fail. -/
theorem Ends.of_eq_failed (he : Ends R m w P E) {f : Failure} (h : m w = (.failed f, w')) :
    R w' ∧ E f w' := by
  obtain ⟨hr, -, hf⟩ := he
  rw [h] at hr hf
  exact ⟨hr, hf f rfl⟩

/-- What the work returns or fails with is what it ends with. -/
theorem Ends.outcome (h : Ends R m w P E) :
    Ends R m w (fun a _ => (m w).1 = .returned a) fun f _ => (m w).1 = .failed f :=
  ⟨h.always, fun _ ha => ha, fun _ hf => hf⟩

end

variable {P : β → World ω → Prop}

/-- Work that goes on with other work from another world. -/
theorem Ends.of_eq {m' : Act ω β} {m : Act ω β} (h : m w = m' w') (hm : Ends R m' w' P E) :
    Ends R m w P E := by
  constructor <;> rw [h]
  · exact hm.always
  · exact hm.returned
  · exact hm.failed

theorem Ends.bind {Q : α → World ω → Prop} (hm : Ends R m w Q E)
    (hk : ∀ a w', R w' → Q a w' → Ends R (k a) w' P E) : Ends R (m >>= k) w P E := by
  obtain ⟨ha, hr, hf⟩ := hm
  have hb : (m >>= k) w = Act.andThen m k w := rfl
  rcases hw : m w with ⟨o, w'⟩
  rw [hw] at ha hr hf
  simp only [Act.andThen, hw] at hb
  cases o with
  | returned a => exact .of_eq hb (hk a w' ha (hr a rfl))
  | failed f => exact .of_failed hb ha (hf f rfl)
  | stalled => exact .of_stalled hb ha

/-- The result of an attempt is what the work returned, or what it failed with. -/
theorem Ends.attempt_bind {m : Act ω α} {k : Except Failure α → Act ω β}
    {P₁ : α → World ω → Prop} {E₁ : Failure → World ω → Prop} (hm : Ends R m w P₁ E₁)
    (hok : ∀ a w', R w' → P₁ a w' → Ends R (k (.ok a)) w' P E)
    (herr : ∀ f w', R w' → E₁ f w' → Ends R (k (.error f)) w' P E) :
    Ends R (Act.attempt m >>= k) w P E := by
  obtain ⟨ha, hr, hf⟩ := hm
  have hb : (Act.attempt m >>= k) w = Act.andThen (Act.attempt m) k w := rfl
  rcases hw : m w with ⟨o, w'⟩
  rw [hw] at ha hr hf
  simp only [Act.andThen, Act.attempt, hw] at hb
  cases o with
  | returned a => exact .of_eq hb (hok a w' ha (hr a rfl))
  | failed f => exact .of_eq hb (herr f w' ha (hf f rfl))
  | stalled => exact .of_stalled hb ha

theorem Ends.ofExcept_bind {r : Except Failure α} (hok : ∀ a, r = .ok a → Ends R (k a) w P E)
    (herr : ∀ f, r = .error f → R w ∧ E f w) : Ends R (Act.ofExcept r >>= k) w P E := by
  cases r with
  | ok a => exact .of_eq rfl (hok a rfl)
  | error f => exact .of_failed rfl (herr f rfl).1 (herr f rfl).2

/-! ## What work can start with -/

section
variable {ref : SessionRef} {x : Session}

theorem Ends.notice_bind {k : Unit → Act ω β} {n : Notice}
    (hk : Ends R (k ()) (w.push (.noticed n)) P E) : Ends R (Act.notice n >>= k) w P E :=
  .of_eq (bind_eq rfl k) hk

theorem Ends.registry_bind {k : Registry → Act ω β} (hk : Ends R (k w.now.registry) w P E) :
    Ends R (Act.registry >>= k) w P E :=
  .of_eq (bind_eq rfl k) hk

theorem Ends.onRegistry_bind {f : Registry → α × Registry}
    (hk : Ends R (k (f w.now.registry).1) (w.setRegistry (f w.now.registry).2) P E) :
    Ends R (Act.onRegistry f >>= k) w P E :=
  .of_eq (bind_eq rfl k) hk

theorem Ends.isCancelled_bind {k : Bool → Act ω β} {token : Option TokenId}
    (hk : Ends R (k (w.now.isSet token)) w P E) : Ends R (Act.isCancelled token >>= k) w P E :=
  .of_eq (bind_eq rfl k) hk

theorem session_some (hx : w.now.registry.get? ref = some x) :
    Act.session ref w = (.returned x, w) := by
  simp [Act.session, hx]

theorem session_none (hx : w.now.registry.get? ref = none) :
    Act.session ref w = (.failed (.of (.noSuchSession (ref.index + 1))), w) := by
  simp [Act.session, hx]

theorem session_eq_returned (hrun : Act.session ref w = (.returned x, w')) :
    w.now.registry.get? ref = some x ∧ w' = w := by
  cases hx : w.now.registry.get? ref with
  | some z =>
    obtain ⟨hz, hw⟩ := Prod.mk.inj ((session_some hx).symm.trans hrun)
    exact ⟨congrArg some (Outcome.returned.inj hz), hw.symm⟩
  | none => cases (session_none hx).symm.trans hrun

theorem Ends.session_bind {k : Session → Act ω β}
    (hsome : ∀ x, w.now.registry.get? ref = some x → Ends R (k x) w P E)
    (hnone : w.now.registry.get? ref = none → R w ∧ ∀ f, E f w) :
    Ends R (Act.session ref >>= k) w P E := by
  cases hx : w.now.registry.get? ref with
  | some x => exact .of_eq (bind_eq (session_some hx) k) (hsome x hx)
  | none => exact .of_failed (bind_failed (session_none hx) k) (hnone hx).1 ((hnone hx).2 _)

theorem changeSession_ok {f : Session → Except LifecycleError Session} {y : Session}
    (hx : w.now.registry.get? ref = some x) (hf : f x = .ok y) :
    Act.changeSession ref f w = (.returned (), w.setRegistry (w.now.registry.set ref y)) := by
  unfold Act.changeSession
  rw [bind_eq (session_some hx)]
  simp only [hf]
  rfl

theorem changeSession_error {f : Session → Except LifecycleError Session} {e : LifecycleError}
    (hx : w.now.registry.get? ref = some x) (hf : f x = .error e) :
    Act.changeSession ref f w = (.failed (.of (.lifecycle e)), w) := by
  unfold Act.changeSession
  rw [bind_eq (session_some hx)]
  simp only [hf]
  rfl

theorem Ends.changeSession_bind {k : Unit → Act ω β} {f : Session → Except LifecycleError Session}
    (hx : w.now.registry.get? ref = some x)
    (hok : ∀ y, f x = .ok y → Ends R (k ()) (w.setRegistry (w.now.registry.set ref y)) P E)
    (herr : ∀ e, f x = .error e → R w ∧ E (.of (.lifecycle e)) w) :
    Ends R (Act.changeSession ref f >>= k) w P E := by
  cases hf : f x with
  | ok y => exact .of_eq (bind_eq (changeSession_ok hx hf) k) (hok y hf)
  | error e =>
    exact .of_failed (bind_failed (changeSession_error hx hf) k) (herr e hf).1 (herr e hf).2

end
end Act
end TcpSessions
