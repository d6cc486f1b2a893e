import TcpSessions.Text.Fields
/-!
# Fields written and read back

Fields without the separator come back from the text that joins them. When none of them is empty,
the separator stands twice in a row only where it is put so from outside.
-/
namespace TcpSessions.Text

variable {α β : Type} {sep c : α} {f s rest : List α} {parts : List (List α)}

/-! ## Joining -/

theorem join_cons (hne : parts ≠ []) : join sep (f :: parts) = f ++ sep :: join sep parts := by
  cases parts with
  | nil => exact absurd rfl hne
  | cons g parts => rfl

/-- Fields that each end with the separator, before a last one. -/
theorem flatMap_append_eq_join (write : β → List α) (items : List β) (last : List α) :
    items.flatMap (fun x => write x ++ [sep]) ++ last = join sep (items.map write ++ [last]) := by
  induction items with
  | nil => rfl
  | cons x items ih =>
    rw [List.flatMap_cons, List.map_cons, List.cons_append, join_cons (by simp), ← ih]
    simp

theorem mem_join (hc : c ∈ join sep parts) : c = sep ∨ ∃ f ∈ parts, c ∈ f := by
  induction parts with
  | nil => cases hc
  | cons f parts ih =>
    by_cases hne : parts = []
    · subst hne
      exact .inr ⟨f, by simp, hc⟩
    · rw [join_cons hne, List.mem_append, List.mem_cons] at hc
      rcases hc with hc | hc | hc
      · exact .inr ⟨f, by simp, hc⟩
      · exact .inl hc
      · rcases ih hc with h | ⟨g, hg, h⟩
        · exact .inl h
        · exact .inr ⟨g, by simp [hg], h⟩

/-- Joined fields start as the first one does. -/
theorem exists_join_cons (hf : f ≠ []) (parts : List (List α)) :
    ∃ c r s, f = c :: r ∧ join sep (f :: parts) = c :: s := by
  cases f with
  | nil => exact absurd rfl hf
  | cons c r =>
    cases parts with
    | nil => exact ⟨c, r, r, rfl, rfl⟩
    | cons g parts => exact ⟨c, r, r ++ sep :: join sep (g :: parts), rfl, rfl⟩

/-! ## Reading field by field -/

/-- What reads each written item back reads back the list of them. -/
theorem mapM_map_of_reads {write : β → List α} {read : List α → Option β} {items : List β}
    (h : ∀ x ∈ items, read (write x) = some x) : (items.map write).mapM read = some items := by
  induction items with
  | nil => rfl
  | cons x items ih =>
    have hx : read (write x) = some x := h x (by simp)
    simp [hx, ih fun y hy => h y (by simp [hy])]

theorem length_mapM {read : List α → Option β} {items : List β} (h : parts.mapM read = some items) :
    items.length = parts.length := by
  induction parts generalizing items with
  | nil => simp_all
  | cons f parts ih =>
    simp only [List.mapM_cons, Option.bind_eq_bind, Option.bind_eq_some_iff] at h
    obtain ⟨x, -, xs, hxs, h⟩ := h
    obtain rfl : x :: xs = items := Option.some.inj h
    simp [ih hxs]

variable [DecidableEq α]

/-! ## Cutting at the separator -/

theorem fields_of_not_mem (h : sep ∉ s) : fields sep s = [s] := by
  induction s with
  | nil => rfl
  | cons c s ih =>
    obtain ⟨hc, hs⟩ : sep ≠ c ∧ sep ∉ s := by simpa using h
    rw [fields, if_neg hc.symm, ih hs]

theorem fields_append (h : sep ∉ f) : fields sep (f ++ sep :: rest) = f :: fields sep rest := by
  induction f with
  | nil => simp [fields]
  | cons c f ih =>
    obtain ⟨hc, hf⟩ : sep ≠ c ∧ sep ∉ f := by simpa using h
    rw [List.cons_append, fields, if_neg hc.symm, ih hf]

/-- Joined fields that do not hold the separator come back as they were. -/
theorem fields_join (hne : parts ≠ []) (h : ∀ f ∈ parts, sep ∉ f) :
    fields sep (join sep parts) = parts := by
  induction parts with
  | nil => exact absurd rfl hne
  | cons f parts ih =>
    have hf : sep ∉ f := h f (by simp)
    by_cases hparts : parts = []
    · subst hparts
      exact fields_of_not_mem hf
    · rw [join_cons hparts, fields_append hf, ih hparts fun g hg => h g (by simp [hg])]

/-! ## Cutting at a double separator -/

theorem cutAtDouble_cons (hc : c ≠ sep) (s : List α) :
    cutAtDouble sep (c :: s) = (cutAtDouble sep s).map fun (a, b) => (c :: a, b) := by
  cases s with
  | nil => rfl
  | cons d s => simp [cutAtDouble, hc]

theorem cutAtDouble_sep_cons (hc : c ≠ sep) (s : List α) :
    cutAtDouble sep (sep :: c :: s) =
      (cutAtDouble sep (c :: s)).map fun (a, b) => (sep :: a, b) := by
  simp [cutAtDouble, hc]

theorem cutAtDouble_append (h : sep ∉ f) (s : List α) :
    cutAtDouble sep (f ++ s) = (cutAtDouble sep s).map fun (a, b) => (f ++ a, b) := by
  induction f with
  | nil => simp
  | cons c f ih =>
    obtain ⟨hc, hf⟩ : sep ≠ c ∧ sep ∉ f := by simpa using h
    rw [List.cons_append, cutAtDouble_cons hc.symm, ih hf, Option.map_map]
    rfl

/-- Joined fields that are not empty hold no double separator: it can only come after them. -/
theorem cutAtDouble_join (h : ∀ f ∈ parts, f ≠ [] ∧ sep ∉ f) (s : List α) :
    cutAtDouble sep (join sep parts ++ s) =
      (cutAtDouble sep s).map fun (a, b) => (join sep parts ++ a, b) := by
  induction parts with
  | nil => simp [join]
  | cons f parts ih =>
    have hf : sep ∉ f := (h f (by simp)).2
    cases parts with
    | nil => exact cutAtDouble_append hf s
    | cons g parts =>
      have ih := ih fun k hk => h k (by simp [hk])
      obtain ⟨hg, hsep⟩ := h g (by simp)
      obtain ⟨c, r, t, hr, ht⟩ : ∃ c r t, g = c :: r ∧ join sep (g :: parts) = c :: t :=
        exists_join_cons hg parts
      have hc : c ≠ sep := by
        rintro rfl
        exact hsep (by simp [hr])
      have hcut : cutAtDouble sep (sep :: join sep (g :: parts) ++ s) =
          (cutAtDouble sep s).map fun (a, b) => (sep :: join sep (g :: parts) ++ a, b) := by
        rw [ht, List.cons_append, List.cons_append, cutAtDouble_sep_cons hc, ← List.cons_append,
          ← ht, ih, Option.map_map]
        rfl
      rw [join_cons (by simp), List.append_assoc, cutAtDouble_append hf, hcut, Option.map_map]
      simp [Function.comp_def]

end TcpSessions.Text
