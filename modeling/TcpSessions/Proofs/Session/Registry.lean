import TcpSessions.Session.Registry
import TcpSessions.Proofs.Session.Table
/-!
# What registry operations do to the sessions

`set` changes one session, `create` adds one at the end, and `remove` changes none: it works on
the table only.
-/
namespace TcpSessions.Registry

variable {r : Registry} {ref ref' : SessionRef} {x y : Session} {flags : SessionFlags}

theorem index_lt (h : r.get? ref = some x) : ref.index < r.sessions.length :=
  (List.getElem?_eq_some_iff.1 h).1

theorem get?_set (h : r.get? ref = some x) (y : Session) (ref' : SessionRef) :
    (r.set ref y).get? ref' = if ref' = ref then some y else r.get? ref' := by
  simp only [get?, set, List.getElem?_set, index_lt h, if_true]
  by_cases he : ref' = ref
  · simp [he]
  · have hi : ref.index ≠ ref'.index := fun e => he (by cases ref; cases ref'; simp_all)
    simp [he, hi]

theorem get?_set_self (h : r.get? ref = some x) (y : Session) : (r.set ref y).get? ref = some y := by
  rw [get?_set h, if_pos rfl]

theorem set_self (h : r.get? ref = some x) : r.set ref x = r := by
  have hset : r.sessions.set ref.index x = r.sessions := by
    obtain ⟨hi, hx⟩ := List.getElem?_eq_some_iff.1 h
    rw [← hx, List.set_getElem_self]
  simp [set, hset]

theorem set_set : (r.set ref x).set ref y = r.set ref y := by simp [set]

@[simp] theorem length_set : (r.set ref y).sessions.length = r.sessions.length := by simp [set]

@[simp] theorem length_create : (r.create flags).2.sessions.length = r.sessions.length + 1 := by
  simp [create]

theorem get?_create_of_some (h : r.get? ref = some x) : (r.create flags).2.get? ref = some x := by
  have hi := index_lt h
  simp only [get?, create] at h ⊢
  rw [List.getElem?_append_left hi, h]

theorem get?_create_new (r : Registry) (flags : SessionFlags) :
    (r.create flags).2.get? (r.create flags).1 = some { id := r.table.nextId, flags } := by
  simp [get?, create]

theorem eq_of_get?_create (hx : (r.create flags).2.get? ref = some x) (hn : r.get? ref = none) :
    ref = (r.create flags).1 ∧ x = { id := r.table.nextId, flags } := by
  have hi : r.sessions.length ≤ ref.index := List.getElem?_eq_none_iff.1 hn
  have hlt : ref.index < r.sessions.length + 1 := by simpa using index_lt hx
  have he : ref = (r.create flags).1 := by
    cases ref; simp only [create, SessionRef.mk.injEq] at hi hlt ⊢; omega
  rw [he, get?_create_new] at hx
  exact ⟨he, by simpa using hx.symm⟩

@[simp] theorem sessions_remove : (r.remove ref).2.sessions = r.sessions := by
  unfold remove; split <;> rfl

@[simp] theorem nextId_remove : (r.remove ref).2.table.nextId = r.table.nextId := by
  unfold remove
  split
  · simp only [Table.remove]
    split <;> rfl
  · rfl

@[simp] theorem get?_remove : (r.remove ref).2.get? ref' = r.get? ref' := by simp [get?]

/-! ## The table -/

theorem ordered_create (h : r.table.Ordered) : (r.create flags).2.table.Ordered := h.insert _

theorem ordered_remove (h : r.table.Ordered) : (r.remove ref).2.table.Ordered := by
  unfold remove
  split
  · exact h.remove _ ref
  · exact h

theorem mem_refs_create (h : ref ∈ r.table.refs) : ref ∈ (r.create flags).2.table.refs :=
  Table.mem_refs_insert.2 (.inl h)

theorem mem_refs_remove (ho : r.table.Ordered) (h : ref ∈ r.table.refs) (hne : ref ≠ ref') :
    ref ∈ (r.remove ref').2.table.refs := by
  unfold remove
  split
  · exact ho.mem_refs_remove h hne
  · exact h

end TcpSessions.Registry
