import TcpSessions.Proofs.Session.Lifecycle
/-!
# Valid situations

In a valid situation the sessions are coherent and the table is indexed: every entry stands for a
session that was created with the entry's id. Each step keeps that, so every reachable situation is
valid. In an indexed table, giving a session up takes its entry away and no other.
-/
namespace TcpSessions

variable {ω : Type}

/-- Every entry of the table is for a session with its id, and ids increase. -/
structure Registry.Indexed (r : Registry) : Prop where
  ordered : r.table.Ordered
  entry : ∀ e ∈ r.table.entries, ∃ x, r.get? e.ref = some x ∧ x.id = e.id

namespace Registry

variable {r r' : Registry} {ref ref' : SessionRef} {x : Session} {flags : SessionFlags}

theorem indexed_empty : Indexed {} := ⟨Table.ordered_empty, by simp⟩

theorem Indexed.exists_get? (h : r.Indexed) (hr : ref ∈ r.table.refs) :
    ∃ x, r.get? ref = some x := by
  obtain ⟨e, he, rfl⟩ := List.mem_map.1 hr
  obtain ⟨x, hx, -⟩ := h.entry e he
  exact ⟨x, hx⟩

/-- The entry of a tracked session has its id. -/
theorem Indexed.mem_entries (h : r.Indexed) (hx : r.get? ref = some x) :
    ⟨x.id, ref⟩ ∈ r.table.entries ↔ ref ∈ r.table.refs := by
  constructor
  · exact fun he => List.mem_map.2 ⟨_, he, rfl⟩
  · intro hr
    obtain ⟨e, he, rfl⟩ := List.mem_map.1 hr
    obtain ⟨y, hy, hid⟩ := h.entry e he
    obtain rfl := Option.some.inj (hx.symm.trans hy)
    rwa [hid]

theorem Indexed.tracks_iff (h : r.Indexed) (hx : r.get? ref = some x) :
    r.table.tracks x.id ref = true ↔ ref ∈ r.table.refs := by
  rw [← h.mem_entries hx, Table.tracks, decide_eq_true_iff]
  refine ⟨Table.mem_of_lookup?, fun he => ?_⟩
  have hfound : (r.table.entries.find? (·.id = x.id)).isSome :=
    List.find?_isSome.2 ⟨_, he, by simp⟩
  obtain ⟨e, hf⟩ := Option.isSome_iff_exists.1 hfound
  have hid : e.id = x.id := by simpa using List.find?_some hf
  obtain rfl := h.ordered.eq_of_id (List.mem_of_find?_eq_some hf) he hid
  simp [Table.lookup?, hf]

/-- Giving a session up takes away its entry and no other. -/
theorem Indexed.entries_remove (h : r.Indexed) (hx : r.get? ref = some x) :
    (r.remove ref).2.table.entries = r.table.entries.filter (·.ref ≠ ref) := by
  unfold remove
  simp only [hx, Table.remove, h.tracks_iff hx]
  by_cases hr : ref ∈ r.table.refs
  · simp only [hr, if_true, Table.erase]
    refine List.filter_congr fun e he => ?_
    have hiff : e.id = x.id ↔ e.ref = ref := by
      constructor
      · intro hid
        exact congrArg Entry.ref (h.ordered.eq_of_id he ((h.mem_entries hx).2 hr) hid)
      · rintro rfl
        obtain ⟨y, hy, hid⟩ := h.entry e he
        obtain rfl := Option.some.inj (hx.symm.trans hy)
        exact hid.symm
    simp [hiff]
  · simp only [hr, if_false]
    refine (List.filter_eq_self.2 fun e he => ?_).symm
    have hne : e.ref ≠ ref := by
      rintro rfl
      exact hr (List.mem_map_of_mem he)
    simpa using hne

/-- Giving a session up takes away that object and no other, and answers whether it was tracked. -/
theorem Indexed.remove_eq (h : r.Indexed) (hx : r.get? ref = some x) :
    (r.remove ref).1 = decide (ref ∈ r.table.refs) ∧
      (r.remove ref).2.table.refs = r.table.refs.filter (· ≠ ref) := by
  constructor
  · unfold remove
    simp only [hx, Table.remove, h.tracks_iff hx]
    by_cases hr : ref ∈ r.table.refs <;> simp [hr]
  · rw [Table.refs, h.entries_remove hx, Table.refs, List.filter_map]
    rfl

theorem Indexed.create (h : r.Indexed) (flags : SessionFlags) : (r.create flags).2.Indexed where
  ordered := ordered_create h.ordered
  entry := by
    intro e he
    rcases List.mem_append.1 he with he | he
    · obtain ⟨x, hx, hid⟩ := h.entry e he
      exact ⟨x, get?_create_of_some hx, hid⟩
    · rw [List.mem_singleton.1 he]
      exact ⟨_, get?_create_new r flags, rfl⟩

theorem Indexed.remove (h : r.Indexed) (ref : SessionRef) : (r.remove ref).2.Indexed where
  ordered := ordered_remove h.ordered
  entry := by
    have hsub : ∀ e ∈ (r.remove ref).2.table.entries, e ∈ r.table.entries := by
      intro e he
      unfold Registry.remove at he
      split at he
      · simp only [Table.remove] at he
        split at he
        · exact (List.mem_filter.1 he).1
        · exact he
      · exact he
    intro e he
    obtain ⟨x, hx, hid⟩ := h.entry e (hsub e he)
    exact ⟨x, get?_remove.trans hx, hid⟩

/-- A session that keeps its id may change otherwise. -/
theorem Indexed.set {y : Session} (h : r.Indexed) (hx : r.get? ref = some x) (hid : y.id = x.id) :
    (r.set ref y).Indexed where
  ordered := h.ordered
  entry := by
    intro e he
    obtain ⟨z, hz, hzid⟩ := h.entry e he
    rw [get?_set hx]
    by_cases hr : e.ref = ref
    · subst hr
      obtain rfl := Option.some.inj (hx.symm.trans hz)
      exact ⟨y, by simp, hid.trans hzid⟩
    · exact ⟨z, by simp [hr, hz], hzid⟩

end Registry

/-- What holds of every situation of a run. -/
structure Situation.Valid (s : Situation) : Prop where
  coherent : s.Coherent
  indexed : s.registry.Indexed

theorem Situation.valid_start : Situation.Valid {} := ⟨coherent_start, Registry.indexed_empty⟩

/-- Whether sessions are coherent does not depend on the table. -/
theorem Situation.Coherent.congr {s s' : Situation} (h : s.Coherent)
    (hr : s'.registry.sessions = s.registry.sessions) (hs : s'.sockets = s.sockets) :
    s'.Coherent := by
  have hget : ∀ ref, s'.registry.get? ref = s.registry.get? ref := by
    intro ref
    simp [Registry.get?, hr]
  constructor
  · exact fun hx => h.sessions ((hget _).symm.trans hx)
  · exact fun hmem => hs ▸ h.serials (hs ▸ hmem)
  · exact fun hx hsock => hs ▸ h.made ((hget _).symm.trans hx) hsock
  · exact fun hx hx' => h.owner ((hget _).symm.trans hx) ((hget _).symm.trans hx')

theorem Situation.Valid.congr {s s' : Situation} (h : s.Valid) (hr : s'.registry = s.registry)
    (hs : s'.sockets = s.sockets) : s'.Valid :=
  ⟨h.coherent.congr (congrArg Registry.sessions hr) hs, hr ▸ h.indexed⟩

namespace World

variable {env : Environment ω} {n : Nat} {w w' : World ω}

theorem valid_untrack (hw : w.now.Valid) (ref : SessionRef) :
    (w.setRegistry (w.now.registry.remove ref).2).now.Valid :=
  ⟨hw.coherent.congr Registry.sessions_remove rfl, hw.indexed.remove ref⟩

theorem Step.indexed (h : Step env n w w') (hw : w.now.registry.Indexed) :
    w'.now.registry.Indexed := by
  cases h with
  | around o ts => exact hw
  | note e he => exact hw
  | create flags => exact hw.create flags
  | untrack ref hf => exact hw.remove ref
  | attach f d ref x _ hx _ _ => exact hw.set hx rfl
  | target peer ref x _ hx _ => exact hw.set hx rfl
  | join peer ref x _ hx _ => exact hw.set hx rfl
  | close socket ref x hx _ _ => exact hw.set hx rfl

theorem Step.valid (h : Step env n w w') (hw : w.now.Valid) : w'.now.Valid :=
  ⟨h.coherent hw.coherent, h.indexed hw.indexed⟩

theorem Since.valid (h : Since env w w') (hw : w.now.Valid) : w'.now.Valid :=
  h.induct (P := fun u => u.now.Valid) hw fun hs hu => hs.valid hu

/-- The state after some run: requests to a manager, with others nested in their calls anyhow. -/
def Reachable (w : World ω) : Prop :=
  ∃ (env : Environment ω) (m : Manager) (bound : Nat) (qs : List Request) (start : ω),
    env.Nests Request.OfManager ∧ (∀ q ∈ qs, q.OfManager) ∧ env.after m bound qs start = w

theorem Reachable.valid (h : w.Reachable) : w.now.Valid := by
  obtain ⟨env, m, bound, qs, start, henv, hqs, rfl⟩ := h
  exact (env.after_since m bound start henv hqs).valid Situation.valid_start

end World
end TcpSessions
