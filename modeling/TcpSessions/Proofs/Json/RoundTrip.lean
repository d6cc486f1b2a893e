import TcpSessions.Proofs.Json.Strings
import TcpSessions.Proofs.Text.Fields
/-!
# JSON values read back

A value without fractions and exponents is written in printable ASCII and reads back as it was
(`Json.decode?_encode`). The reader goes one step of its bound down for every value, item or member
that it starts; the text of a value is at least as long as the steps that reading it takes.
-/
namespace TcpSessions.Json

open Text (digits intDigits join readNat? writesBase_digits)

variable {c : Char} {s rest : List Char}

mutual

/-- All numbers in a value are integers. -/
def Whole : Json → Prop
  | null | bool _ | integer _ | text _ => True
  | real _ => False
  | array items => WholeItems items
  | object members => WholeMembers members

/-- All numbers in some values are integers. -/
def WholeItems : List Json → Prop
  | [] => True
  | v :: vs => Whole v ∧ WholeItems vs

/-- All numbers in the values of some members are integers. -/
def WholeMembers : List (String × Json) → Prop
  | [] => True
  | (_, v) :: ms => Whole v ∧ WholeMembers ms

end

/-! ## Printable ASCII -/

theorem printable_intDigits (n : Int) : Printable (intDigits n) := by
  cases n with
  | ofNat n => exact printable_of_writes writesBase_digits (by decide) (by decide) n
  | negSucc n =>
    refine printable_cons.2 ⟨by decide, ?_⟩
    exact printable_of_writes writesBase_digits (by decide) (by decide) (n + 1)

theorem printable_join {parts : List (List Char)} (h : ∀ p ∈ parts, Printable p) :
    Printable (join ',' parts) := by
  intro c hc
  rcases Text.mem_join hc with rfl | ⟨p, hp, hc⟩
  · decide
  · exact h p hp c hc

mutual

theorem printable_encode : ∀ {v : Json}, v.Whole → Printable v.encode
  | null, _ => by simp [encode, Printable]
  | bool true, _ => by simp [encode, Printable]
  | bool false, _ => by simp [encode, Printable]
  | integer n, _ => printable_intDigits n
  | text s, _ => printable_encodeText s.toList
  | array items, h => by
    have hitems := printable_join (printable_encodeItems h)
    simp [encode, hitems]
  | object members, h => by
    have hmembers := printable_join (printable_encodeMembers h)
    simp [encode, hmembers]

theorem printable_encodeItems : ∀ {vs : List Json}, WholeItems vs →
    ∀ p ∈ encodeItems vs, Printable p
  | [], _ => by simp [encodeItems]
  | v :: vs, ⟨hv, hvs⟩ => by
    simp only [encodeItems, List.mem_cons]
    rintro p (rfl | hp)
    · exact printable_encode hv
    · exact printable_encodeItems hvs p hp

theorem printable_encodeMembers : ∀ {ms : List (String × Json)}, WholeMembers ms →
    ∀ p ∈ encodeMembers ms, Printable p
  | [], _ => by simp [encodeMembers]
  | (k, v) :: ms, ⟨hv, hms⟩ => by
    simp only [encodeMembers, List.mem_cons]
    rintro p (rfl | hp)
    · simp [printable_encodeText, printable_encode hv]
    · exact printable_encodeMembers hms p hp

end

/-! ## How values start -/

/-- A character that a value may start with, and neither a blank nor a closing bracket is. -/
def Starts (c : Char) : Prop := isSpace c = false ∧ c ≠ ']' ∧ c ≠ '\x7d'

instance (c : Char) : Decidable (Starts c) := inferInstanceAs (Decidable (_ ∧ _))

theorem starts_digitChar : ∀ d < 10, Starts (Text.digitChar d) := by decide

theorem exists_digits_cons (n : Nat) : ∃ d < 10, ∃ s, digits n = Text.digitChar d :: s := by
  obtain ⟨c, s, hs⟩ := List.exists_cons_of_ne_nil (writesBase_digits.ne_nil n)
  obtain ⟨d, hd, rfl⟩ := writesBase_digits.eq_digitChar_of_mem (by decide) n (c := c) (by simp [hs])
  exact ⟨d, hd, s, hs⟩

theorem exists_encode_cons : ∀ {v : Json}, v.Whole → ∃ c s, v.encode = c :: s ∧ Starts c
  | null, _ => ⟨'n', _, rfl, by decide⟩
  | bool true, _ => ⟨'t', _, rfl, by decide⟩
  | bool false, _ => ⟨'f', _, rfl, by decide⟩
  | integer (.ofNat n), _ => by
    obtain ⟨d, hd, s, hs⟩ := exists_digits_cons n
    exact ⟨_, s, hs, starts_digitChar d hd⟩
  | integer (.negSucc n), _ => ⟨'-', _, rfl, by decide⟩
  | text s, _ => ⟨'"', _, rfl, by decide⟩
  | array items, _ => ⟨'[', _, rfl, by decide⟩
  | object members, _ => ⟨'\x7b', _, rfl, by decide⟩

theorem skipSpace_cons (hc : isSpace c = false) (s : List Char) : skipSpace (c :: s) = c :: s := by
  simp [skipSpace, hc]

/-! ## Numbers -/

/-- A text that does not go on with a character of a number. -/
def EndsNumber (rest : List Char) : Prop := ∀ c ∈ rest.head?, isNumberChar c = false

theorem endsNumber_nil : EndsNumber [] := by simp [EndsNumber]

theorem endsNumber_cons (hc : isNumberChar c = false) (s : List Char) : EndsNumber (c :: s) := by
  simpa [EndsNumber] using hc

theorem takeWhile_dropWhile_number (hs : ∀ c ∈ s, isNumberChar c = true) (hr : EndsNumber rest) :
    (s ++ rest).takeWhile isNumberChar = s ∧ (s ++ rest).dropWhile isNumberChar = rest := by
  induction s with
  | nil =>
    cases rest with
    | nil => exact ⟨rfl, rfl⟩
    | cons c r =>
      have hc : isNumberChar c = false := hr c rfl
      simp [hc]
  | cons c s ih =>
    have hc := hs c (by simp)
    simpa [hc] using ih fun d hd => hs d (by simp [hd])

theorem isNumberChar_digitChar : ∀ d < 10, isNumberChar (Text.digitChar d) = true := by decide

theorem digitChar_ne_hyphen : ∀ d < 10, Text.digitChar d ≠ '-' := by decide

theorem isNumberChar_of_mem_digits {n : Nat} (hc : c ∈ digits n) : isNumberChar c = true := by
  obtain ⟨d, hd, rfl⟩ := writesBase_digits.eq_digitChar_of_mem (by decide) n hc
  exact isNumberChar_digitChar d hd

theorem isNumberChar_of_mem_intDigits : ∀ {n : Int}, c ∈ intDigits n → isNumberChar c = true
  | .ofNat _, hc => isNumberChar_of_mem_digits hc
  | .negSucc n, hc => by
    rcases List.mem_cons.1 hc with rfl | hc
    · rfl
    · exact isNumberChar_of_mem_digits hc

theorem number?_intDigits : ∀ n : Int, number? (intDigits n) = some (integer n)
  | .ofNat n => by
    obtain ⟨d, hd, s, hs⟩ := exists_digits_cons n
    have hread : readNat? (Text.digitChar d :: s) = some n := hs ▸ Text.readNat?_digits n
    show number? (digits n) = _
    rw [hs, number?.eq_def]
    split
    · rename_i heq
      exact absurd (List.cons.inj heq).1 (digitChar_ne_hyphen d hd)
    · rw [hread]
      rfl
  | .negSucc n => by
    show number? ('-' :: digits (n + 1)) = _
    rw [number?, Text.readNat?_digits]
    rfl

/-- What starts like a number is read as one. -/
theorem value?_number (hc : isNumberChar c = true) (bound : Nat) (s : List Char) :
    value? (bound + 1) (c :: s) =
      (number? ((c :: s).takeWhile isNumberChar)).map (·, (c :: s).dropWhile isNumberChar) := by
  have hspace : isSpace c = false := by
    rw [Bool.eq_false_iff]
    intro hs
    simp only [isSpace, Bool.or_eq_true, decide_eq_true_eq] at hs
    rcases hs with ((rfl | rfl) | rfl) | rfl <;> cases hc
  rw [value?, skipSpace_cons hspace]
  split
  -- none of the other values starts with a character of a number
  iterate 6
    rename_i heq
    obtain ⟨rfl, -⟩ := List.cons.inj heq
    cases hc
  rfl

theorem value?_integer (n : Int) (bound : Nat) (hr : EndsNumber rest) :
    value? (bound + 1) (intDigits n ++ rest) = some (integer n, rest) := by
  have hall : ∀ c ∈ intDigits n, isNumberChar c = true := fun c => isNumberChar_of_mem_intDigits
  obtain ⟨htake, hdrop⟩ := takeWhile_dropWhile_number hall hr
  obtain ⟨c, s, hs, -⟩ := exists_encode_cons (v := integer n) trivial
  have hs : intDigits n = c :: s := hs
  rw [hs, List.cons_append, value?_number (hall c (by simp [hs])), ← List.cons_append, ← hs, htake,
    hdrop, number?_intDigits]
  rfl

/-! ## Values -/

theorem encode_ne_nil {v : Json} (h : v.Whole) : 0 < v.encode.length := by
  obtain ⟨c, s, hs, -⟩ := exists_encode_cons h
  simp [hs]

theorem encodeItems_ne_nil (v : Json) (vs : List Json) : encodeItems (v :: vs) ≠ [] := by
  simp [encodeItems]

theorem join_encodeItems (v w : Json) (vs : List Json) :
    join ',' (encodeItems (v :: w :: vs)) =
      v.encode ++ ',' :: join ',' (encodeItems (w :: vs)) :=
  Text.join_cons (encodeItems_ne_nil w vs)

theorem join_encodeMembers (k : String) (v : Json) (m : String × Json) (ms : List (String × Json)) :
    join ',' (encodeMembers ((k, v) :: m :: ms)) =
      encodeText k.toList ++ ':' :: v.encode ++ ',' :: join ',' (encodeMembers (m :: ms)) :=
  Text.join_cons (by simp [encodeMembers])

theorem exists_join_items {v : Json} (hv : v.Whole) (vs : List Json) :
    ∃ c s, join ',' (encodeItems (v :: vs)) = c :: s ∧ Starts c := by
  obtain ⟨c, s, hs, hc⟩ := exists_encode_cons hv
  cases vs with
  | nil => exact ⟨c, s, hs, hc⟩
  | cons w vs =>
    refine ⟨c, s ++ ',' :: join ',' (encodeItems (w :: vs)), ?_, hc⟩
    rw [join_encodeItems, hs]
    rfl

theorem value?_items (hc : Starts c) (bound : Nat) (s : List Char) :
    value? (bound + 1) ('[' :: c :: s) =
      (items? bound (c :: s)).map fun (vs, r) => (array vs, r) := by
  obtain ⟨hspace, hclosing, -⟩ := hc
  have hbracket : isSpace '[' = false := rfl
  rw [value?, skipSpace_cons hbracket]
  simp only [skipSpace_cons hspace]
  split
  · rename_i heq
    exact absurd (List.cons.inj heq).1 hclosing
  · rfl

theorem value?_members (bound : Nat) (s : List Char) :
    value? (bound + 1) ('\x7b' :: '"' :: s) =
      (members? bound ('"' :: s)).map fun (ms, r) => (object ms, r) := rfl

/-- A member is read up to what follows its value. -/
theorem members?_member (k : String) {v : Json} {bound : Nat} {s : List Char}
    (hv : value? bound s = some (v, rest)) :
    members? (bound + 1) (encodeText k.toList ++ ':' :: s) =
      match skipSpace rest with
      | '\x7d' :: r => some ([(k, v)], r)
      | ',' :: r => (members? bound r).bind fun (ms, r) => some ((k, v) :: ms, r)
      | _ => none := by
  obtain ⟨body, hbody, hread⟩ := string?_encodeText k.toList (':' :: s)
  rw [hbody, members?, skipSpace_cons (by rfl)]
  show (string? (body.length + 1) body >>= _) = _
  rw [hread]
  show (value? bound s >>= _) = _
  rw [hv]
  show (match skipSpace rest with
    | '\x7d' :: r => some ([(String.ofList k.toList, v)], r)
    | ',' :: r => (members? bound r).bind fun (ms, r) => some ((String.ofList k.toList, v) :: ms, r)
    | _ => none) = _
  simp only [String.ofList_toList]

mutual

/-- A value comes back from its text, whatever follows it. -/
theorem value?_encode : ∀ (v : Json) (bound : Nat) {rest : List Char}, v.Whole →
    v.encode.length ≤ bound → EndsNumber rest → value? bound (v.encode ++ rest) = some (v, rest)
  | v, 0, _, h, hb, _ => by
    have hpos := encode_ne_nil h
    omega
  | null, bound + 1, rest, _, _, _ => rfl
  | bool true, bound + 1, rest, _, _, _ => rfl
  | bool false, bound + 1, rest, _, _, _ => rfl
  | integer n, bound + 1, rest, _, _, hr => value?_integer n bound hr
  | text s, bound + 1, rest, _, _, _ => by
    obtain ⟨body, hbody, hread⟩ := string?_encodeText s.toList rest
    rw [encode, hbody, value?, skipSpace_cons (by rfl)]
    simp [hread]
  | array [], bound + 1, rest, _, _, _ => rfl
  | array (v :: vs), bound + 1, rest, h, hb, _ => by
    have hlen : (join ',' (encodeItems (v :: vs))).length < bound := by
      simp only [encode, List.length_cons, List.length_append] at hb
      omega
    have hitems := items?_encode v vs bound rest h hlen
    obtain ⟨c, s, hs, hc⟩ := exists_join_items h.1 vs
    rw [hs] at hitems
    have htext : (array (v :: vs)).encode ++ rest = '[' :: c :: (s ++ ']' :: rest) := by
      simp [encode, hs]
    rw [htext, value?_items hc, ← List.cons_append, hitems]
    rfl
  | object [], bound + 1, rest, _, _, _ => rfl
  | object ((k, v) :: ms), bound + 1, rest, h, hb, _ => by
    have hlen : (join ',' (encodeMembers ((k, v) :: ms))).length < bound := by
      simp only [encode, List.length_cons, List.length_append] at hb
      omega
    have hmembers := members?_encode k v ms bound rest h hlen
    obtain ⟨s, hs⟩ : ∃ s, join ',' (encodeMembers ((k, v) :: ms)) = '"' :: s := by
      cases ms with
      | nil => exact ⟨_, rfl⟩
      | cons m ms =>
        rw [join_encodeMembers]
        exact ⟨_, rfl⟩
    rw [hs] at hmembers
    have htext : (object ((k, v) :: ms)).encode ++ rest =
        '\x7b' :: '"' :: (s ++ '\x7d' :: rest) := by
      simp [encode, hs]
    rw [htext, value?_members, ← List.cons_append, hmembers]
    rfl

theorem items?_encode : ∀ (v : Json) (vs : List Json) (bound : Nat) (rest : List Char),
    WholeItems (v :: vs) → (join ',' (encodeItems (v :: vs))).length < bound →
    items? bound (join ',' (encodeItems (v :: vs)) ++ ']' :: rest) = some (v :: vs, rest)
  | v, vs, 0, _, _, hb => by omega
  | v, [], bound + 1, rest, ⟨hv, _⟩, hb => by
    have hlen : v.encode.length ≤ bound := Nat.lt_succ_iff.1 hb
    have hvalue := value?_encode v bound hv hlen (endsNumber_cons (c := ']') rfl rest)
    show items? (bound + 1) (v.encode ++ ']' :: rest) = _
    rw [items?, hvalue]
    rfl
  | v, w :: vs, bound + 1, rest, ⟨hv, hvs⟩, hb => by
    rw [join_encodeItems, List.length_append, List.length_cons] at hb
    have hvalue := value?_encode v bound hv (by omega)
      (endsNumber_cons (c := ',') rfl (join ',' (encodeItems (w :: vs)) ++ ']' :: rest))
    have hitems := items?_encode w vs bound rest hvs (by omega)
    rw [join_encodeItems, List.append_assoc, List.cons_append, items?, hvalue]
    show (items? bound _ >>= _) = _
    rw [hitems]
    rfl

theorem members?_encode : ∀ (k : String) (v : Json) (ms : List (String × Json)) (bound : Nat)
    (rest : List Char), WholeMembers ((k, v) :: ms) →
    (join ',' (encodeMembers ((k, v) :: ms))).length < bound →
    members? bound (join ',' (encodeMembers ((k, v) :: ms)) ++ '\x7d' :: rest) =
      some ((k, v) :: ms, rest)
  | k, v, ms, 0, _, _, hb => by omega
  | k, v, [], bound + 1, rest, ⟨hv, _⟩, hb => by
    have hlen : v.encode.length ≤ bound := by
      simp only [encodeMembers, join, List.length_append, List.length_cons] at hb
      omega
    have hvalue := value?_encode v bound hv hlen (endsNumber_cons (c := '\x7d') rfl rest)
    show members? (bound + 1) ((encodeText k.toList ++ ':' :: v.encode) ++ '\x7d' :: rest) = _
    rw [List.append_assoc, List.cons_append, members?_member k hvalue]
    rfl
  | k, v, (l, w) :: ms, bound + 1, rest, ⟨hv, hms⟩, hb => by
    rw [join_encodeMembers] at hb ⊢
    simp only [List.length_append, List.length_cons] at hb
    have hvalue := value?_encode v bound hv (by omega)
      (endsNumber_cons (c := ',') rfl (join ',' (encodeMembers ((l, w) :: ms)) ++ '\x7d' :: rest))
    have hmembers := members?_encode l w ms bound rest hms (by omega)
    simp only [List.append_assoc, List.cons_append]
    rw [members?_member k hvalue]
    show (members? bound _).bind _ = _
    rw [hmembers]
    rfl

end

/-- A value whose numbers are integers comes back from its text. -/
theorem decode?_encode {v : Json} (h : v.Whole) : decode? v.encode = some v := by
  have hread := value?_encode v (v.encode.length + 1) h (by omega) endsNumber_nil
  rw [List.append_nil] at hread
  rw [decode?, hread]
  rfl

end TcpSessions.Json
