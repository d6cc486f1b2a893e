import TcpSessions.Address.Inet6
import TcpSessions.Proofs.Address.Inet
/-!
# Colon-separated addresses read back

Sixteen bytes come back from their text, whichever of its three forms they are written in: all eight
groups, the groups around a run of zeros, or a few groups and a dotted quad after such a run
(`readColon?_colonText`). Nothing else than sixteen bytes is ever read.
-/
namespace TcpSessions.Address

open Text

variable {bytes : Bytes} {groups : List Nat} {s : List Char}

/-! ## Bytes and groups -/

theorem length_groupsOf : ∀ bytes : Bytes, (groupsOf bytes).length = bytes.length / 2
  | [] => rfl
  | [_] => by simp [groupsOf]
  | hi :: lo :: r => by
    simp only [groupsOf, List.length_cons, length_groupsOf r]
    omega

theorem groupsOf_lt : ∀ (bytes : Bytes), ∀ g ∈ groupsOf bytes, g < 65536
  | [], g, hg => by simp [groupsOf] at hg
  | [_], g, hg => by simp [groupsOf] at hg
  | hi :: lo :: r, g, hg => by
    have := hi.toNat_lt
    have := lo.toNat_lt
    rcases List.mem_cons.1 hg with rfl | hg
    · omega
    · exact groupsOf_lt r g hg

theorem bytesOf_groupsOf : ∀ {bytes : Bytes}, bytes.length % 2 = 0 → bytesOf (groupsOf bytes) = bytes
  | [], _ => rfl
  | [_], h => by simp at h
  | hi :: lo :: r, h => by
    have := lo.toNat_lt
    have hhi : (hi.toNat * 256 + lo.toNat) / 256 = hi.toNat := by omega
    have hlo : (hi.toNat * 256 + lo.toNat) % 256 = lo.toNat := by omega
    have hr : bytesOf (groupsOf r) = r := bytesOf_groupsOf (by simp at h; omega)
    rw [groupsOf, bytesOf, hhi, hlo, hr, UInt8.ofNat_toNat, UInt8.ofNat_toNat]

theorem groupsOf_drop : ∀ (n : Nat) (bytes : Bytes),
    groupsOf (bytes.drop (2 * n)) = (groupsOf bytes).drop n
  | 0, _ => rfl
  | n + 1, [] => by simp [groupsOf]
  | n + 1, [_] => by simp [groupsOf, Nat.mul_add]
  | n + 1, hi :: lo :: r => by
    rw [groupsOf, List.drop_succ_cons, ← groupsOf_drop n r]
    rfl

theorem length_bytesOf : ∀ groups : List Nat, (bytesOf groups).length = 2 * groups.length
  | [] => rfl
  | g :: r => by
    simp only [bytesOf, List.length_cons, length_bytesOf r]
    omega

/-! ## Runs of zero groups -/

theorem take_zeroRun : ∀ groups : List Nat,
    groups.take (zeroRun groups) = List.replicate (zeroRun groups) 0
  | [] => rfl
  | 0 :: r => by simp [zeroRun, List.replicate_succ, take_zeroRun r]
  | (g + 1) :: r => rfl

/-- The longest run is one of zeros. -/
theorem longestZeros_zeros : ∀ (groups : List Nat) (start : Nat),
    ∃ i, (longestZeros start groups).1 = start + i ∧
      (groups.drop i).take (longestZeros start groups).2 =
        List.replicate (longestZeros start groups).2 0
  | [], start => ⟨0, rfl, rfl⟩
  | g :: r, start => by
    rw [longestZeros]
    split
    · exact ⟨0, rfl, take_zeroRun (g :: r)⟩
    · obtain ⟨i, hi, hzeros⟩ := longestZeros_zeros r (start + 1)
      exact ⟨i + 1, by omega, hzeros⟩

/-- Groups are what stands before the longest run, the run, and what stands behind it. -/
theorem eq_around_longestZeros (groups : List Nat) :
    groups = groups.take (longestZeros 0 groups).1 ++
      (List.replicate (longestZeros 0 groups).2 0 ++
        groups.drop ((longestZeros 0 groups).1 + (longestZeros 0 groups).2)) := by
  obtain ⟨i, hi, hzeros⟩ := longestZeros_zeros groups 0
  rw [Nat.zero_add] at hi
  rw [hi, ← hzeros, ← List.drop_drop, List.take_append_drop, List.take_append_drop]

/-! ## Reading groups -/

theorem readGroup?_hexDigits {g : Nat} (hg : g < 65536) : readGroup? (hexDigits g) = some g := by
  have hlength : (hexDigits g).length ≤ 4 := (writesBase_hexDigits.length_le_iff (by decide) 3 g).2 hg
  rw [readGroup?, if_pos hlength, readHex?_hexDigits]

theorem notMem_hexDigits_colon (n : Nat) : ':' ∉ hexDigits n := by
  intro h
  obtain ⟨d, hd, hc⟩ := writesBase_hexDigits.eq_digitChar_of_mem (by decide) n h
  have hne : ∀ d < 16, ':' ≠ digitChar d := by decide
  exact hne d hd hc

theorem notMem_quadText_colon (bytes : Bytes) : ':' ∉ quadText bytes := by
  intro h
  have hne : ∀ d < 10, ':' ≠ digitChar d := by decide
  rcases mem_quadText h with h | ⟨d, hd, h⟩
  · exact absurd h (by decide)
  · exact hne d hd h

theorem groupFields (groups : List Nat) : ∀ f ∈ groups.map hexDigits, f ≠ [] ∧ ':' ∉ f := by
  intro f hf
  obtain ⟨n, -, rfl⟩ := List.mem_map.1 hf
  exact ⟨writesBase_hexDigits.ne_nil n, notMem_hexDigits_colon n⟩

/-- One side of a double colon, when it joins fields that are not empty. -/
theorem sideFields_join {parts : List (List Char)} (h : ∀ f ∈ parts, f ≠ [] ∧ ':' ∉ f) :
    sideFields (join ':' parts) = parts := by
  cases parts with
  | nil => rfl
  | cons f parts =>
    obtain ⟨c, r, t, -, ht⟩ : ∃ c r t, f = c :: r ∧ join ':' (f :: parts) = c :: t :=
      exists_join_cons (h f (by simp)).1 parts
    have hne : (join ':' (f :: parts)).isEmpty = false := by rw [ht, List.isEmpty_cons]
    rw [sideFields, hne]
    exact fields_join (by simp) fun g hg => (h g hg).2

/-- Groups in front of other fields are read as they were written. -/
theorem readTail?_append (h : ∀ g ∈ groups, g < 65536) (last : List (List Char)) :
    readTail? (groups.map hexDigits ++ last) = (readTail? last).map (groups ++ ·) := by
  induction groups with
  | nil => simp
  | cons g groups ih =>
    have hg : readGroup? (hexDigits g) = some g := readGroup?_hexDigits (h g (by simp))
    have ih := ih fun x hx => h x (by simp [hx])
    rw [List.map_cons, List.cons_append]
    cases hrest : groups.map hexDigits ++ last with
    | nil =>
      obtain ⟨hgroups, rfl⟩ := List.append_eq_nil_iff.1 hrest
      rw [List.map_eq_nil_iff] at hgroups
      simp [hgroups, readTail?, hg]
    | cons f fs =>
      rw [hrest] at ih
      rw [readTail?, hg, ih]
      simp only [Option.bind_eq_bind, Option.bind_some]
      cases readTail? last <;> rfl

theorem readTail?_groups (h : ∀ g ∈ groups, g < 65536) :
    readTail? (groups.map hexDigits) = some groups := by
  have := readTail?_append h []
  simpa [readTail?] using this

/-- A dotted quad at the end makes two groups. -/
theorem readTail?_quad (h : bytes.length = 4) :
    readTail? [quadText bytes] = some (groupsOf bytes) := by
  have hlong : ¬ (quadText bytes).length ≤ 4 := by
    have := four_lt_length_quadText h
    omega
  rw [readTail?, readGroup?, if_neg hlong, readQuad?_quadText h]
  rfl

/-! ## The three forms of a text -/

/-- Eight groups without a double colon. -/
theorem readColon?_groupsText (h : ∀ g ∈ groups, g < 65536) (hlength : groups.length = 8) :
    readColon? (groupsText groups) = some (bytesOf groups) := by
  have hcut : cutAtDouble ':' (groupsText groups) = none := by
    have hjoin := cutAtDouble_join (groupFields groups) []
    rwa [List.append_nil] at hjoin
  have hfields : fields ':' (groupsText groups) = groups.map hexDigits := by
    refine fields_join ?_ fun f hf => (groupFields groups f hf).2
    intro hnil
    rw [List.map_eq_nil_iff] at hnil
    simp [hnil] at hlength
  simp [readColon?, hcut, hfields, readTail?_groups h, hlength]

/-- A double colon after some groups stands for as many zeros as are missing. -/
theorem readColon?_double (before : List Nat) (missing : Nat) {after : List Nat} {right : List Char}
    (hbefore : ∀ g ∈ before, g < 65536) (hright : readTail? (sideFields right) = some after)
    (hmissing : 0 < missing) (hlength : before.length + missing + after.length = 8) :
    readColon? (groupsText before ++ ':' :: ':' :: right) =
      some (bytesOf (before ++ (List.replicate missing 0 ++ after))) := by
  have hcut : cutAtDouble ':' (groupsText before ++ ':' :: ':' :: right) =
      some (groupsText before, right) := by
    have hjoin := cutAtDouble_join (groupFields before) (':' :: ':' :: right)
    rw [cutAtDouble, if_pos ⟨rfl, rfl⟩] at hjoin
    exact hjoin.trans (congrArg (fun left => some (left, right)) (List.append_nil _))
  have hleft : sideFields (groupsText before) = before.map hexDigits :=
    sideFields_join (groupFields before)
  have hread : (before.map hexDigits).mapM readGroup? = some before :=
    mapM_map_of_reads fun g hg => readGroup?_hexDigits (hbefore g hg)
  have hlt : before.length + after.length < 8 := by omega
  obtain rfl : missing = 8 - (before.length + after.length) := by omega
  simp [readColon?, hcut, hleft, hread, hright, hlt]

/-- The text behind a double colon that joins groups. -/
theorem readTail?_groupsText (h : ∀ g ∈ groups, g < 65536) :
    readTail? (sideFields (groupsText groups)) = some groups := by
  rw [groupsText, sideFields_join (groupFields groups)]
  exact readTail?_groups h

/-- The text behind a double colon that ends with a dotted quad. -/
theorem readTail?_quadText (h : ∀ g ∈ groups, g < 65536) (hlength : bytes.length = 4) :
    readTail? (sideFields (groups.flatMap (fun g => hexDigits g ++ [':']) ++ quadText bytes)) =
      some (groups ++ groupsOf bytes) := by
  have hquad : quadText bytes ≠ [] := by
    have := four_lt_length_quadText hlength
    rintro hnil
    simp [hnil] at this
  rw [flatMap_append_eq_join, sideFields_join, readTail?_append h, readTail?_quad hlength]
  · rfl
  · intro f hf
    rcases List.mem_append.1 hf with hf | hf
    · exact groupFields groups f hf
    · rw [List.mem_singleton.1 hf]
      exact ⟨hquad, notMem_quadText_colon bytes⟩

/-- Sixteen bytes come back from their text. -/
theorem readColon?_colonText (h : bytes.length = 16) : readColon? (colonText bytes) = some bytes := by
  have hlength : (groupsOf bytes).length = 8 := by rw [length_groupsOf, h]
  have hlt := groupsOf_lt bytes
  have hbytes : bytesOf (groupsOf bytes) = bytes := bytesOf_groupsOf (by omega)
  have hparts := eq_around_longestZeros (groupsOf bytes)
  rw [colonText.eq_1]
  generalize longestZeros 0 (groupsOf bytes) = run at hparts ⊢
  -- the parts around the run leave out as many groups as the run has
  have hcount := congrArg List.length hparts
  simp only [List.length_append, List.length_replicate, List.length_take, List.length_drop,
    hlength] at hcount
  by_cases hshort : run.2 < 2
  · rw [if_pos hshort, readColon?_groupsText hlt hlength, hbytes]
  rw [if_neg hshort]
  by_cases hquad : embedsQuad (groupsOf bytes) run = true
  · rw [if_pos hquad]
    obtain ⟨hstart, hrun⟩ : run.1 = 0 ∧ run.2 ≤ 6 := by
      have := of_decide_eq_true hquad
      omega
    have hmiddle : ∀ g ∈ ((groupsOf bytes).take 6).drop run.2, g < 65536 := fun g hg =>
      hlt g (List.mem_of_mem_take (List.mem_of_mem_drop hg))
    have hbehind : ((groupsOf bytes).take 6).drop run.2 ++ groupsOf (bytes.drop 12) =
        (groupsOf bytes).drop run.2 := by
      rw [groupsOf_drop 6 bytes, ← List.drop_append_of_le_length, List.take_append_drop]
      simp only [List.length_take, hlength]
      omega
    have hright := readTail?_quadText hmiddle (by simp [h] : (bytes.drop 12).length = 4)
    rw [hbehind] at hright
    have hread := readColon?_double [] run.2 (by simp) hright (by omega) (by simp [hlength]; omega)
    rw [hstart, List.take_zero, Nat.zero_add] at hparts
    rw [← hparts, hbytes] at hread
    exact hread
  · rw [if_neg hquad]
    have hbefore : ∀ g ∈ (groupsOf bytes).take run.1, g < 65536 := fun g hg =>
      hlt g (List.mem_of_mem_take hg)
    have hafter : ∀ g ∈ (groupsOf bytes).drop (run.1 + run.2), g < 65536 := fun g hg =>
      hlt g (List.mem_of_mem_drop hg)
    have hread := readColon?_double _ run.2 hbefore (readTail?_groupsText hafter) (by omega)
      (by simp [hlength]; omega)
    rw [← hparts, hbytes] at hread
    simpa using hread

/-! ## What is written and what is read -/

theorem mem_groupsText {c : Char} (hc : c ∈ groupsText groups) :
    c = ':' ∨ ∃ d < 16, c = digitChar d := by
  rcases mem_join hc with h | ⟨f, hf, h⟩
  · exact .inl h
  · obtain ⟨n, -, rfl⟩ := List.mem_map.1 hf
    exact .inr (writesBase_hexDigits.eq_digitChar_of_mem (by decide) n h)

/-- The characters of a colon-separated text. -/
theorem mem_colonText {c : Char} (hc : c ∈ colonText bytes) :
    c = ':' ∨ c = '.' ∨ ∃ d < 16, c = digitChar d := by
  rw [colonText.eq_1] at hc
  split at hc
  · exact (mem_groupsText hc).imp_right .inr
  split at hc
  · simp only [List.mem_append, List.mem_cons, List.not_mem_nil, or_false, or_self,
      List.mem_flatMap] at hc
    rcases hc with (hc | ⟨g, -, hc | hc⟩) | hc
    · exact .inl hc
    · exact .inr (.inr (writesBase_hexDigits.eq_digitChar_of_mem (by decide) g hc))
    · exact .inl hc
    · rcases mem_quadText hc with h | ⟨d, hd, h⟩
      · exact .inr (.inl h)
      · exact .inr (.inr ⟨d, by omega, h⟩)
  · simp only [List.mem_append, List.mem_cons, List.not_mem_nil, or_false, or_self] at hc
    rcases hc with (hc | hc) | hc
    · exact (mem_groupsText hc).imp_right .inr
    · exact .inl hc
    · exact (mem_groupsText hc).imp_right .inr

theorem length_of_readColon? (h : readColon? s = some bytes) : bytes.length = 16 := by
  unfold readColon? at h
  split at h
  · simp only [Option.bind_eq_bind, Option.bind_eq_some_iff] at h
    obtain ⟨groups, -, h⟩ := h
    split at h
    · rename_i height
      obtain rfl := Option.some.inj h
      rw [length_bytesOf, height]
    · cases h
  · simp only [Option.bind_eq_bind, Option.bind_eq_some_iff] at h
    obtain ⟨before, -, after, -, h⟩ := h
    split at h
    · rename_i hlt
      obtain rfl := Option.some.inj h
      rw [length_bytesOf]
      simp only [List.length_append, List.length_replicate]
      omega
    · cases h

end TcpSessions.Address
