import TcpSessions.Address.Packed
import TcpSessions.Proofs.Address.Inet6
/-!
# Addresses read back

The text of an address is a literal of its family and stands for its bytes, so that it names the
address among all of the family. What any text of a family is read as has the family's length.
-/
namespace TcpSessions.Address

variable {family : Family} {bytes : Bytes} {text : String}

/-- The text of an address holds no NUL character. -/
theorem notMem_text_nul (a : Address) : '\x00' ∉ a.text.toList := by
  have hdigit : ∀ d < 16, '\x00' ≠ Text.digitChar d := by decide
  intro h
  cases a with
  | inet bytes hlength =>
    rw [Address.text, String.toList_ofList] at h
    rcases mem_quadText h with h | ⟨d, hd, h⟩
    · exact absurd h (by decide)
    · exact hdigit d (by omega) h
  | inet6 bytes hlength =>
    rw [Address.text, String.toList_ofList] at h
    rcases mem_colonText h with h | h | ⟨d, hd, h⟩
    · exact absurd h (by decide)
    · exact absurd h (by decide)
    · exact hdigit d hd h

theorem ofText_text (a : Address) : ofText a.family a.text = .ok a.bytes := by
  unfold ofText
  rw [if_neg (notMem_text_nul a)]
  cases a with
  | inet bytes hlength =>
    simp [Address.family, Address.text, readQuad?_quadText hlength, Address.bytes]
  | inet6 bytes hlength =>
    simp [Address.family, Address.text, readColon?_colonText hlength, Address.bytes]

/-- The text of an address stands for its bytes. -/
theorem literal?_text (a : Address) : literal? a.family a.text = some a.bytes := by
  rw [literal?, ofText_text]
  rfl

theorem eq_of_bytes {a b : Address} (hf : a.family = b.family) (h : a.bytes = b.bytes) : a = b := by
  cases a <;> cases b <;> simp_all [Address.family, Address.bytes]

/-- Addresses of one family that have the same text are the same. -/
theorem eq_of_text {a b : Address} (hf : a.family = b.family) (h : a.text = b.text) : a = b := by
  have hbytes : some a.bytes = some b.bytes := by
    rw [← literal?_text a, ← literal?_text b, hf, h]
  exact eq_of_bytes hf (Option.some.inj hbytes)

/-- An address made of bytes has them, and the family that they were given for. -/
theorem eq_of_ofBytes? {a : Address} (h : ofBytes? family bytes = some a) :
    a.family = family ∧ a.bytes = bytes := by
  unfold ofBytes? at h
  split at h
  · split at h
    · obtain rfl := Option.some.inj h
      exact ⟨rfl, rfl⟩
    · cases h
  · split at h
    · obtain rfl := Option.some.inj h
      exact ⟨rfl, rfl⟩
    · cases h
  · cases h

/-- What is read as an address of a family has the length that the family asks for. -/
theorem addressLength?_of_ofText (h : ofText family text = .ok bytes) :
    family.addressLength? = some bytes.length := by
  unfold ofText at h
  split at h
  · cases h
  cases family with
  | inet =>
    cases hread : readQuad? text.toList with
    | none => simp [hread] at h
    | some found =>
      obtain rfl : found = bytes := by simpa [hread] using h
      rw [length_of_readQuad? hread]
      rfl
  | inet6 =>
    cases hread : readColon? text.toList with
    | none => simp [hread] at h
    | some found =>
      obtain rfl : found = bytes := by simpa [hread] using h
      rw [length_of_readColon? hread]
      rfl
  | _ => cases h

theorem ofText_of_literal? (h : literal? family text = some bytes) :
    ofText family text = .ok bytes := by
  unfold literal? at h
  cases hread : ofText family text with
  | error e => simp [hread, Except.toOption] at h
  | ok found =>
    obtain rfl : found = bytes := by simpa [hread, Except.toOption] using h
    rfl

end TcpSessions.Address
