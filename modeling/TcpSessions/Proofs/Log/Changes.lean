import TcpSessions.Proofs.Log.Sanitised
/-!
# Changes inside data

A change of some kind can be made to a datum as a whole or to any item or value inside it
(`Datum.Changed`). If what sanitising makes of the two sides of every single change is related by a
congruence, so is what it makes of the data around them (`Datum.Changed.sanitised`); if no single
change gives or takes the text of a key, the two are sanitised alike or not at all
(`Datum.Changed.keysWritable_eq`).
-/
namespace TcpSessions.Datum

variable {R S : Datum → Datum → Prop} {a b d e key value : Datum}
variable {es fs before after : List (Datum × Datum)}

/-- The second datum comes from the first by changes of one kind, each made to all of it or to an
item or a value somewhere inside it. -/
inductive Changed (R : Datum → Datum → Prop) : Datum → Datum → Prop
  | here {d e : Datum} (h : R d e) : Changed R d e
  | list {before after : List Datum} {d e : Datum} (h : Changed R d e) :
    Changed R (list (before ++ d :: after)) (list (before ++ e :: after))
  | tuple {before after : List Datum} {d e : Datum} (h : Changed R d e) :
    Changed R (tuple (before ++ d :: after)) (tuple (before ++ e :: after))
  | set {before after : List Datum} {d e : Datum} (h : Changed R d e) :
    Changed R (set (before ++ d :: after)) (set (before ++ e :: after))
  | value {before after : List (Datum × Datum)} {key d e : Datum} (h : Changed R d e) :
    Changed R (dict (before ++ (key, d) :: after)) (dict (before ++ (key, e) :: after))
  | refl (d : Datum) : Changed R d d
  | trans {c d e : Datum} (h : Changed R c d) (h' : Changed R d e) : Changed R c e

/-- A relation between data that goes through lists and through the values of dictionaries. -/
structure Congruence (S : Datum → Datum → Prop) : Prop where
  refl : ∀ d, S d d
  trans : ∀ {c d e}, S c d → S d e → S c e
  list : ∀ {before after d e}, S d e →
    S (.list (before ++ d :: after)) (.list (before ++ e :: after))
  value : ∀ {before after key d e}, S d e →
    S (.dict (before ++ (key, d) :: after)) (.dict (before ++ (key, e) :: after))

theorem congruence_eq : Congruence (· = ·) where
  refl _ := rfl
  trans h h' := h.trans h'
  list h := by rw [h]
  value h := by rw [h]

theorem congruence_changed (R : Datum → Datum → Prop) : Congruence (Changed R) where
  refl := .refl
  trans := .trans
  list := .list
  value := .value

/-! ## Dictionaries in the making -/

/-- The same entries up to one value, and that one related. -/
def SameButOne (S : Datum → Datum → Prop) (es fs : List (Datum × Datum)) : Prop :=
  ∃ before key d e after, es = before ++ (key, d) :: after ∧ fs = before ++ (key, e) :: after ∧
    S d e

theorem SameButOne.cons (entry : Datum × Datum) (h : SameButOne S es fs) :
    SameButOne S (entry :: es) (entry :: fs) := by
  obtain ⟨before, key, d, e, after, rfl, rfl, hS⟩ := h
  exact ⟨entry :: before, key, d, e, after, rfl, rfl, hS⟩

/-- Related values put under one key. -/
theorem sameButOne_put (hab : S a b) (key : Datum) (es : List (Datum × Datum)) :
    SameButOne S (put key a es) (put key b es) := by
  induction es with
  | nil => exact ⟨[], key, a, b, [], rfl, rfl, hab⟩
  | cons entry rest ih =>
    obtain ⟨k, v⟩ := entry
    unfold put
    split
    · exact ⟨[], k, a, b, rest, rfl, rfl, hab⟩
    · exact ih.cons (k, v)

/-- Another entry put into both takes the place of the value that differs, or leaves it there. -/
theorem SameButOne.put (hS : Congruence S) (h : SameButOne S es fs) (key value : Datum) :
    SameButOne S (put key value es) (put key value fs) := by
  obtain ⟨before, k, d, e, after, rfl, rfl, hde⟩ := h
  induction before with
  | nil =>
    simp only [List.nil_append, Datum.put]
    split
    · exact ⟨[], k, value, value, after, rfl, rfl, hS.refl value⟩
    · exact ⟨[], k, d, e, Datum.put key value after, rfl, rfl, hde⟩
  | cons entry before ih =>
    obtain ⟨l, v⟩ := entry
    simp only [List.cons_append, Datum.put]
    split
    · exact ⟨(l, value) :: before, k, d, e, after, rfl, rfl, hde⟩
    · exact ih.cons (l, v)

theorem SameButOne.foldl_put (hS : Congruence S) (puts : List (Datum × Datum)) :
    ∀ {es fs : List (Datum × Datum)}, SameButOne S es fs →
      SameButOne S (puts.foldl (fun d (k, v) => Datum.put k v d) es)
        (puts.foldl (fun d (k, v) => Datum.put k v d) fs) := by
  induction puts with
  | nil => exact fun h => h
  | cons entry puts ih => exact fun h => ih (h.put hS entry.1 entry.2)

/-- Dictionaries made of entries that are the same up to one value. -/
theorem Congruence.ofEntries (hS : Congruence S) (hab : S a b) :
    S (ofEntries (before ++ (key, a) :: after)) (ofEntries (before ++ (key, b) :: after)) := by
  unfold Datum.ofEntries
  rw [List.foldl_append, List.foldl_append, List.foldl_cons, List.foldl_cons]
  obtain ⟨before', k, d, e, after', hd, he, hde⟩ :=
    (sameButOne_put hab key (before.foldl (fun d (k, v) => put k v d) [])).foldl_put hS after
  rw [hd, he]
  exact hS.value hde

/-! ## Sanitised changes -/

/-- What is made of data with changes inside is related if what is made of each change is. -/
theorem Changed.sanitised (hS : Congruence S)
    (hR : ∀ {d e}, R d e → ∀ depth, S (d.sanitised depth) (e.sanitised depth))
    (h : Changed R d e) (depth : Nat) : S (d.sanitised depth) (e.sanitised depth) := by
  induction h generalizing depth with
  | here h => exact hR h depth
  | refl d => exact hS.refl _
  | trans _ _ ih ih' => exact hS.trans (ih depth) (ih' depth)
  | list _ ih | tuple _ ih | set _ ih =>
    cases depth with
    | zero => exact hS.refl _
    | succ depth =>
      simp only [Datum.sanitised, List.map_append, List.map_cons]
      exact hS.list (ih depth)
  | value _ ih =>
    cases depth with
    | zero => exact hS.refl _
    | succ depth =>
      simp only [Datum.sanitised, List.map_append, List.map_cons]
      exact hS.ofEntries (ih depth)

/-- Data with changes inside fails to be sanitised if and only if it did before. -/
theorem Changed.keysWritable_eq
    (hR : ∀ {d e}, R d e → ∀ depth, d.keysWritable depth = e.keysWritable depth)
    (h : Changed R d e) (depth : Nat) : d.keysWritable depth = e.keysWritable depth := by
  induction h generalizing depth with
  | here h => exact hR h depth
  | refl d => rfl
  | trans _ _ ih ih' => exact (ih depth).trans (ih' depth)
  | list _ ih | tuple _ ih | set _ ih | value _ ih =>
    cases depth with
    | zero => rfl
    | succ depth => simp only [keysWritable, List.all_append, List.all_cons, ih depth]

end TcpSessions.Datum
