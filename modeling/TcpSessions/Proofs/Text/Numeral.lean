import Mathlib.Algebra.Group.Nat.Defs
import TcpSessions.Text.Numeral
/-!
# Reading numerals back

`digits` and `hexDigits` write a number in the same way in two bases (`WritesBase`). What holds of
every such writer is shown once: what it writes is not empty, consists of digits, and reads back.
-/
namespace TcpSessions.Text

/-- `write` puts down the digits of a number in a base, the most significant one first. -/
def WritesBase (base : Nat) (write : Nat → List Char) : Prop :=
  ∀ n, write n =
    if n < base then [digitChar n] else write (n / base) ++ [digitChar (n % base)]

theorem writesBase_digits : WritesBase 10 digits := fun n => by rw [digits]

theorem writesBase_hexDigits : WritesBase 16 hexDigits := fun n => by rw [hexDigits]

/-! ## Digits -/

theorem decimalValue?_digitChar : ∀ d < 10, decimalValue? (digitChar d) = some d := by decide

theorem hexValue?_digitChar : ∀ d < 16, hexValue? (digitChar d) = some d := by decide

theorem digitChar_eq_zero : ∀ d < 16, digitChar d = '0' → d = 0 := by decide

/-! ## Writers -/

namespace WritesBase

variable {base : Nat} {write : Nat → List Char}

theorem of_lt (hw : WritesBase base write) {n : Nat} (hn : n < base) :
    write n = [digitChar n] := by
  rw [hw n, if_pos hn]

theorem of_le (hw : WritesBase base write) {n : Nat} (hn : base ≤ n) :
    write n = write (n / base) ++ [digitChar (n % base)] := by
  rw [hw n, if_neg (by omega)]

theorem ne_nil (hw : WritesBase base write) (n : Nat) : write n ≠ [] := by
  rw [hw n]
  split <;> simp

/-- A numeral is as long as the power of the base that it stays below. -/
theorem length_le_iff (hw : WritesBase base write) (hb : 1 < base) (k n : Nat) :
    (write n).length ≤ k + 1 ↔ n < base ^ (k + 1) := by
  induction k generalizing n with
  | zero =>
    rw [Nat.pow_one]
    by_cases hn : n < base
    · simp [hw.of_lt hn, hn]
    · have hlong := List.length_pos_iff.2 (hw.ne_nil (n / base))
      rw [hw.of_le (by omega), List.length_append, List.length_singleton]
      omega
  | succ k ih =>
    by_cases hn : n < base
    · have hle : base ^ 1 ≤ base ^ (k + 1 + 1) := Nat.pow_le_pow_right (by omega) (by omega)
      rw [Nat.pow_one] at hle
      rw [hw.of_lt hn, List.length_singleton]
      omega
    · rw [hw.of_le (by omega), List.length_append, List.length_singleton, Nat.add_le_add_iff_right,
        ih, Nat.div_lt_iff_lt_mul (by omega), ← Nat.pow_succ]

/-- Every character of a numeral is a digit. -/
theorem eq_digitChar_of_mem (hw : WritesBase base write) (hb : 1 < base) {c : Char} (n : Nat)
    (hc : c ∈ write n) : ∃ d < base, c = digitChar d := by
  induction n using Nat.strongRecOn with
  | ind n ih =>
    by_cases hn : n < base
    · rw [hw.of_lt hn] at hc
      exact ⟨n, hn, List.mem_singleton.1 hc⟩
    · rw [hw.of_le (by omega), List.mem_append, List.mem_singleton] at hc
      rcases hc with hc | hc
      · exact ih (n / base) (Nat.div_lt_self (by omega) hb) hc
      · exact ⟨n % base, Nat.mod_lt n (by omega), hc⟩

/-- Only zero is written with a zero in front. -/
theorem eq_zero_of_head? (hw : WritesBase base write) (hb : 1 < base) (hle : base ≤ 16) (n : Nat)
    (hz : (write n).head? = some '0') : n = 0 := by
  induction n using Nat.strongRecOn with
  | ind n ih =>
    by_cases hn : n < base
    · rw [hw.of_lt hn] at hz
      exact digitChar_eq_zero n (by omega) (Option.some.inj hz)
    · obtain ⟨c, r, hc⟩ := List.exists_cons_of_ne_nil (hw.ne_nil (n / base))
      rw [hw.of_le (by omega), hc] at hz
      have hquot := ih (n / base) (Nat.div_lt_self (by omega) hb) (by rw [hc]; exact hz)
      have hpos : 0 < n / base := Nat.div_pos (by omega) (by omega)
      omega

end WritesBase

/-! ## Readers -/

theorem readOnto_append (base : Nat) (value? : Char → Option Nat) (s t : List Char) (acc : Nat) :
    readOnto base value? acc (s ++ t) =
      (readOnto base value? acc s).bind fun n => readOnto base value? n t := by
  induction s generalizing acc with
  | nil => rfl
  | cons c s ih =>
    simp only [List.cons_append, readOnto, ih]
    cases value? c <;> rfl

/-- A reader that knows the digits of the base gives the number back. -/
theorem readOnto_of_writes {base : Nat} {write : Nat → List Char} {value? : Char → Option Nat}
    (hw : WritesBase base write) (hb : 1 < base)
    (hv : ∀ d < base, value? (digitChar d) = some d) (n : Nat) :
    readOnto base value? 0 (write n) = some n := by
  induction n using Nat.strongRecOn with
  | ind n ih =>
    by_cases hn : n < base
    · simp [hw.of_lt hn, readOnto, hv n hn]
    · have hquot := ih (n / base) (Nat.div_lt_self (by omega) hb)
      have hdigit := hv (n % base) (Nat.mod_lt n (by omega))
      rw [hw.of_le (by omega), readOnto_append, hquot]
      simp [readOnto, hdigit, Nat.div_add_mod']

theorem readNat?_digits (n : Nat) : readNat? (digits n) = some n := by
  have hne : (digits n).isEmpty = false := by simpa using writesBase_digits.ne_nil n
  rw [readNat?, hne]
  exact readOnto_of_writes writesBase_digits (by decide) decimalValue?_digitChar n

/-- An integer can be written if and only if it stays below the power of ten for the limit. -/
theorem isWritable_iff (n : Int) : isWritable n = true ↔ n.natAbs < 10 ^ digitLimit := by
  obtain ⟨k, hk⟩ : ∃ k, digitLimit = k + 1 := ⟨4299, rfl⟩
  rw [isWritable, decide_eq_true_iff, hk]
  exact writesBase_digits.length_le_iff (by decide) k n.natAbs

theorem readHex?_hexDigits (n : Nat) : readHex? (hexDigits n) = some n := by
  have hne : (hexDigits n).isEmpty = false := by simpa using writesBase_hexDigits.ne_nil n
  rw [readHex?, hne]
  exact readOnto_of_writes writesBase_hexDigits (by decide) hexValue?_digitChar n

end TcpSessions.Text
