import TcpSessions.Json.Reading
import TcpSessions.Proofs.Text.Numeral
/-!
# Strings of JSON

A string is written in printable ASCII, whatever its characters are, and reads back as it was: short
escapes, escapes of one unit, and surrogate pairs for what lies beyond sixteen bits.
-/
namespace TcpSessions.Json

open Text (digitChar hexDigits hexValue? padLeft readHex? readOnto writesBase_hexDigits)

variable {c : Char} {s rest : List Char}

/-! ## Printable ASCII -/

/-- Every character is a blank or a visible character of ASCII. -/
def Printable (s : List Char) : Prop := ∀ c ∈ s, ' ' ≤ c ∧ c ≤ '~'

@[simp] theorem printable_nil : Printable [] := by simp [Printable]

@[simp] theorem printable_cons : Printable (c :: s) ↔ (' ' ≤ c ∧ c ≤ '~') ∧ Printable s := by
  simp [Printable]

@[simp] theorem printable_append {t : List Char} :
    Printable (s ++ t) ↔ Printable s ∧ Printable t :=
  List.forall_mem_append

theorem printable_digitChar : ∀ d < 16, ' ' ≤ digitChar d ∧ digitChar d ≤ '~' := by decide

theorem printable_of_writes {base : Nat} {write : Nat → List Char}
    (hw : Text.WritesBase base write) (hb : 1 < base) (hle : base ≤ 16) (n : Nat) :
    Printable (write n) := by
  intro c hc
  obtain ⟨d, hd, rfl⟩ := hw.eq_digitChar_of_mem hb n hc
  exact printable_digitChar d (by omega)

theorem printable_escapeUnit (n : Nat) : Printable (escapeUnit n) := by
  have hhex := printable_of_writes writesBase_hexDigits (by decide) (by decide) n
  have hzeros : ∀ k, Printable (List.replicate k '0') := by
    intro k c hc
    rw [List.eq_of_mem_replicate hc]
    decide
  simp [escapeUnit, padLeft, hhex, hzeros]

theorem printable_escapeChar (c : Char) : Printable (escapeChar c) := by
  unfold escapeChar
  iterate 7
    split
    · simp [Printable]
  split
  · rename_i hc
    simpa using hc
  split
  · exact printable_escapeUnit _
  · simp [printable_escapeUnit]

theorem printable_encodeText (s : List Char) : Printable (encodeText s) := by
  have hchars : Printable (s.flatMap escapeChar) := by
    intro c hc
    obtain ⟨d, -, hd⟩ := List.mem_flatMap.1 hc
    exact printable_escapeChar d c hd
  have hquote : ' ' ≤ '"' ∧ '"' ≤ '~' := by decide
  simp [encodeText, hchars, hquote]

/-! ## Units -/

theorem readOnto_replicate_zero (k : Nat) (s : List Char) :
    readOnto 16 hexValue? 0 (List.replicate k '0' ++ s) = readOnto 16 hexValue? 0 s := by
  induction k with
  | zero => rfl
  | succ k ih =>
    rw [List.replicate_succ, List.cons_append]
    exact ih

theorem readHex?_padLeft (width n : Nat) : readHex? (padLeft width '0' (hexDigits n)) = some n := by
  have hread := Text.readHex?_hexDigits n
  have hne : (hexDigits n).isEmpty = false := by simpa using writesBase_hexDigits.ne_nil n
  have hpad : (padLeft width '0' (hexDigits n)).isEmpty = false := by
    simpa [padLeft] using fun _ => writesBase_hexDigits.ne_nil n
  simp only [readHex?, hne] at hread
  simp only [readHex?, hpad]
  rw [padLeft, readOnto_replicate_zero]
  exact hread

/-- A sixteen-bit unit comes back from its four digits. -/
theorem unit?_padLeft {n : Nat} (hn : n < 0x10000) (rest : List Char) :
    unit? (padLeft 4 '0' (hexDigits n) ++ rest) = some (n, rest) := by
  have hle : (hexDigits n).length ≤ 4 := (writesBase_hexDigits.length_le_iff (by decide) 3 n).2 hn
  have hlen : (padLeft 4 '0' (hexDigits n)).length = 4 := by
    simp only [padLeft, List.length_append, List.length_replicate]
    omega
  have hread := readHex?_padLeft 4 n
  generalize padLeft 4 '0' (hexDigits n) = digits at hlen hread
  match digits, hlen with
  | [a, b, c, d], _ => simp [unit?, hread]

/-! ## Characters -/

theorem after?_append (s rest : List Char) : after? s (s ++ rest) = some rest := by
  induction s with
  | nil => rfl
  | cons c s ih => simpa [after?] using ih

theorem codeEscape?_unit {n : Nat} (hn : n < 0x10000) (hs : n < 0xd800 ∨ 0xe000 ≤ n)
    (rest : List Char) :
    codeEscape? (padLeft 4 '0' (hexDigits n) ++ rest) = some (Char.ofNat n, rest) := by
  have hlead : ¬(0xd800 ≤ n ∧ n < 0xdc00) := by omega
  have htrail : ¬(0xdc00 ≤ n ∧ n < 0xe000) := by omega
  simp [codeEscape?, unit?_padLeft hn, hlead, htrail]

/-- A surrogate pair stands for the number that its units split. -/
theorem codeEscape?_pair {n m : Nat} (hn : n < 0x400) (hm : m < 0x400) (rest : List Char) :
    codeEscape? (padLeft 4 '0' (hexDigits (0xd800 + n)) ++ (escapeUnit (0xdc00 + m) ++ rest)) =
      some (Char.ofNat (0x10000 + n * 0x400 + m), rest) := by
  have hlead : 0xd800 ≤ 0xd800 + n ∧ 0xd800 + n < 0xdc00 := by omega
  have htrail : 0xdc00 ≤ 0xdc00 + m ∧ 0xdc00 + m < 0xe000 := by omega
  have hfirst := unit?_padLeft (show 0xd800 + n < 0x10000 by omega)
    (escapeUnit (0xdc00 + m) ++ rest)
  have hsecond := unit?_padLeft (show 0xdc00 + m < 0x10000 by omega) rest
  have hbetween : after? ['\\', 'u'] (escapeUnit (0xdc00 + m) ++ rest) =
      some (padLeft 4 '0' (hexDigits (0xdc00 + m)) ++ rest) := after?_append _ _
  simp only [codeEscape?, hfirst, hbetween, hsecond, Option.bind_eq_bind, Option.bind_some, hlead,
    htrail, and_self, if_true, Option.pure_def, Nat.add_sub_cancel_left]

theorem stringChar?_unit (n : Nat) (rest : List Char) :
    stringChar? (escapeUnit n ++ rest) =
      (codeEscape? (padLeft 4 '0' (hexDigits n) ++ rest)).map fun (c, r) => (some c, r) := rfl

/-- Every character comes back from the way it is written. -/
theorem stringChar?_escapeChar (c : Char) (rest : List Char) :
    stringChar? (escapeChar c ++ rest) = some (some c, rest) := by
  unfold escapeChar
  iterate 7
    split
    · subst_vars
      rfl
  split
  · rename_i hquote hslash _ _ _ _ _ hc
    have hlow : ¬c < ' ' := Char.not_lt.2 hc.1
    rw [List.singleton_append, stringChar?.eq_def]
    split <;> simp_all
  split
  · rename_i hle
    have hvalid : c.toNat < 0xd800 ∨ 0xdfff < c.toNat ∧ c.toNat < 0x110000 := c.valid
    rw [stringChar?_unit, codeEscape?_unit (by omega) (by omega), Char.ofNat_toNat]
    rfl
  · rename_i hgt
    have hvalid : c.toNat < 0xd800 ∨ 0xdfff < c.toNat ∧ c.toNat < 0x110000 := c.valid
    dsimp only
    rw [List.append_assoc, stringChar?_unit, codeEscape?_pair (by omega) (by omega)]
    have hsum : 0x10000 + (c.toNat - 0x10000) / 0x400 * 0x400 + (c.toNat - 0x10000) % 0x400 =
        c.toNat := by omega
    rw [hsum, Char.ofNat_toNat]
    rfl

/-! ## Strings -/

theorem escapeChar_ne_nil (c : Char) : escapeChar c ≠ [] := by
  intro hc
  have hread := stringChar?_escapeChar c []
  rw [hc] at hread
  cases hread

theorem length_le_flatMap_escapeChar (s : List Char) :
    s.length ≤ (s.flatMap escapeChar).length := by
  induction s with
  | nil => simp
  | cons c s ih =>
    have hpos := List.length_pos_iff.2 (escapeChar_ne_nil c)
    simp only [List.length_cons, List.flatMap_cons, List.length_append]
    omega

/-- A string comes back from its text up to the closing quote. -/
theorem string?_flatMap (s : List Char) (rest : List Char) :
    ∀ {bound : Nat}, s.length < bound →
      string? bound (s.flatMap escapeChar ++ '"' :: rest) = some (s, rest) := by
  induction s with
  | nil =>
    intro bound hb
    obtain ⟨bound, rfl⟩ := Nat.exists_eq_succ_of_ne_zero (by omega : bound ≠ 0)
    rfl
  | cons c s ih =>
    intro bound hb
    obtain ⟨bound, rfl⟩ := Nat.exists_eq_succ_of_ne_zero (by omega : bound ≠ 0)
    rw [List.flatMap_cons, List.append_assoc, string?, stringChar?_escapeChar]
    simp [ih (by simpa using hb)]

/-- What follows an opening quote is read as the string that was written. -/
theorem string?_encodeText (s rest : List Char) :
    ∃ body, encodeText s ++ rest = '"' :: body ∧
      string? (body.length + 1) body = some (s, rest) := by
  refine ⟨s.flatMap escapeChar ++ '"' :: rest, by simp [encodeText], ?_⟩
  refine string?_flatMap s rest ?_
  have hle := length_le_flatMap_escapeChar s
  simp only [List.length_append, List.length_cons]
  omega

end TcpSessions.Json
