import TcpSessions.Session.Table
/-!
# The order of the session table

In an `Ordered` table ids increase and stay below the next one. Then an id stands for one object
only, and dropping an object drops no other.
-/
namespace TcpSessions.Table

variable {t : Table} {e e' : Entry} {id : Int} {ref ref' : SessionRef}

/-- Ids increase in table order, and all of them were handed out before the next one. -/
structure Ordered (t : Table) : Prop where
  ids : t.entries.Pairwise (·.id < ·.id)
  next : ∀ e ∈ t.entries, e.id < t.nextId

theorem ordered_empty : Ordered {} := ⟨.nil, by simp⟩

theorem Ordered.insert (h : t.Ordered) (ref : SessionRef) : (t.insert ref).Ordered := by
  constructor
  · refine List.pairwise_append.2 ⟨h.ids, List.pairwise_singleton _ _, ?_⟩
    intro e he e' he'
    rw [List.mem_singleton.1 he']
    exact h.next e he
  · intro e he
    show e.id < t.nextId + 1
    rcases List.mem_append.1 he with he | he
    · have := h.next e he
      omega
    · rw [List.mem_singleton.1 he]
      show t.nextId < t.nextId + 1
      omega

theorem Ordered.erase (h : t.Ordered) (id : Int) : (t.erase id).Ordered :=
  ⟨h.ids.filter _, fun e he => h.next e (List.mem_filter.1 he).1⟩

theorem Ordered.remove (h : t.Ordered) (id : Int) (ref : SessionRef) :
    (t.remove id ref).2.Ordered := by
  unfold Table.remove
  split
  · exact h.erase id
  · exact h

/-- An id stands for one object only. -/
theorem Ordered.eq_of_id (h : t.Ordered) (he : e ∈ t.entries) (he' : e' ∈ t.entries)
    (hid : e.id = e'.id) : e = e' := by
  refine List.Pairwise.forall_of_forall_of_flip (R := fun a b : Entry => a.id = b.id → a = b)
    (fun _ _ _ => rfl) (h.ids.imp ?_) (h.ids.imp ?_) he he' hid
  · intro a b hlt heq
    omega
  · intro a b hlt heq
    omega

theorem mem_of_lookup? (h : t.lookup? id = some ref) : ⟨id, ref⟩ ∈ t.entries := by
  obtain ⟨e, he, rfl⟩ := Option.map_eq_some_iff.1 h
  have hid : e.id = id := by simpa using List.find?_some he
  rw [← hid]
  exact List.mem_of_find?_eq_some he

theorem mem_refs_insert : ref ∈ (t.insert ref').refs ↔ ref ∈ t.refs ∨ ref = ref' := by
  simp [refs, insert]

/-- Dropping an object drops no other. -/
theorem Ordered.mem_refs_remove (h : t.Ordered) (hr : ref ∈ t.refs) (hne : ref ≠ ref') :
    ref ∈ (t.remove id ref').2.refs := by
  obtain ⟨e, he, rfl⟩ := List.mem_map.1 hr
  unfold Table.remove
  split
  · rename_i htracks
    have hmem : ⟨id, ref'⟩ ∈ t.entries := mem_of_lookup? (by simpa [tracks] using htracks)
    have hid : e.id ≠ id := by
      intro hid
      have := h.eq_of_id he hmem hid
      exact hne (congrArg Entry.ref this)
    exact List.mem_map.2 ⟨e, List.mem_filter.2 ⟨he, by simpa using hid⟩, rfl⟩
  · exact List.mem_map_of_mem he

end TcpSessions.Table
