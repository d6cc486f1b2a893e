import TcpSessions.Address.Inet
import TcpSessions.Proofs.Text.Fields
import TcpSessions.Proofs.Text.Numeral
/-!
# Dotted quads read back

Four bytes come back from their text, and nothing else than four bytes is ever read.
-/
namespace TcpSessions.Address

open Text

variable {bytes : Bytes} {s : List Char}

theorem readOctet?_digits (b : UInt8) : readOctet? (digits b.toNat) = some b := by
  have hle : ¬ 255 < b.toNat := by
    have := b.toNat_lt
    omega
  have hzero : ¬ ((digits b.toNat).head? = some '0' ∧ (digits b.toNat).length ≠ 1) := by
    rintro ⟨hhead, hlength⟩
    have hb := writesBase_digits.eq_zero_of_head? (by decide) (by decide) b.toNat hhead
    rw [hb, writesBase_digits.of_lt (by decide)] at hlength
    exact hlength rfl
  simp only [readOctet?, readNat?_digits, if_neg hle, if_neg hzero, UInt8.ofNat_toNat]

/-- The characters of a dotted quad. -/
theorem mem_quadText {c : Char} (hc : c ∈ quadText bytes) :
    c = '.' ∨ ∃ d < 10, c = digitChar d := by
  rcases mem_join hc with h | ⟨f, hf, h⟩
  · exact .inl h
  · obtain ⟨b, -, rfl⟩ := List.mem_map.1 hf
    exact .inr (writesBase_digits.eq_digitChar_of_mem (by decide) b.toNat h)

theorem notMem_digits_dot (n : Nat) : '.' ∉ digits n := by
  intro h
  obtain ⟨d, hd, hc⟩ := writesBase_digits.eq_digitChar_of_mem (by decide) n h
  have hne : ∀ d < 10, '.' ≠ digitChar d := by decide
  exact hne d hd hc

/-- Four bytes come back from their dotted quad. -/
theorem readQuad?_quadText (h : bytes.length = 4) : readQuad? (quadText bytes) = some bytes := by
  have hne : bytes.map (fun b => digits b.toNat) ≠ [] := by
    intro hnil
    rw [List.map_eq_nil_iff] at hnil
    simp [hnil] at h
  have hfields : fields '.' (quadText bytes) = bytes.map fun b => digits b.toNat := by
    refine fields_join hne fun f hf => ?_
    obtain ⟨b, -, rfl⟩ := List.mem_map.1 hf
    exact notMem_digits_dot b.toNat
  rw [readQuad?, hfields]
  simp only [List.length_map, h, if_true]
  exact mapM_map_of_reads fun b _ => readOctet?_digits b

theorem length_of_readQuad? (h : readQuad? s = some bytes) : bytes.length = 4 := by
  unfold readQuad? at h
  dsimp only at h
  split at h
  · rename_i hfour
    rw [length_mapM h, hfour]
  · cases h

/-- A dotted quad has more characters than a group of hexadecimal digits may have. -/
theorem four_lt_length_quadText (h : bytes.length = 4) : 4 < (quadText bytes).length := by
  have hpos : ∀ n, 0 < (digits n).length := fun n =>
    List.length_pos_iff.2 (writesBase_digits.ne_nil n)
  obtain ⟨a, b, c, d, rfl⟩ : ∃ a b c d, bytes = [a, b, c, d] := by
    match bytes, h with
    | [a, b, c, d], _ => exact ⟨a, b, c, d, rfl⟩
  have := hpos a.toNat
  have := hpos b.toNat
  simp only [quadText, List.map_cons, List.map_nil, join, List.length_append, List.length_cons]
  omega

end TcpSessions.Address
