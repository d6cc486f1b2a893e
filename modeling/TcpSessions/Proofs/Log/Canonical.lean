import TcpSessions.Proofs.Log.Agreement
import TcpSessions.Proofs.Log.Changes
/-!
# One line for data in any order

Two records whose data differ in nothing but the order in which the entries of dictionaries were put
in, at the top or anywhere inside, have one and the same JSON line, as long as the keys of each of
these dictionaries have different texts (`LogRecord.json_line_canonical`).
-/
namespace TcpSessions

namespace Datum

variable {P : List (Datum × Datum) → Prop} {d e : Datum} {es fs : List (Datum × Datum)}

/-! ## Data in another order -/

/-- The same dictionary with its entries in another order; the entries are as `P` says. -/
inductive Reordered (P : List (Datum × Datum) → Prop) : Datum → Datum → Prop
  | dict {es fs : List (Datum × Datum)} (hP : P es) (h : es.Perm fs) :
    Reordered P (dict es) (dict fs)

/-- The keys of some entries have different texts. -/
def Distinguished (entries : List (Datum × Datum)) : Prop :=
  (entries.map fun e => e.1.plain).Nodup

theorem keyed_of_distinguished (h : Distinguished es) (depth : Nat) :
    Keyed (es.map fun (k, v) => (textKey k, v.sanitised depth)) := by
  refine ⟨fun e he => ?_, ?_⟩
  · obtain ⟨x, -, rfl⟩ := List.mem_map.1 he
    exact ⟨_, rfl⟩
  · have htexts : (es.map fun (k, v) => (textKey k, v.sanitised depth)).map Prod.fst =
        (es.map fun e => e.1.plain).map fun s => text (String.ofList s) := by
      simp [textKey, Function.comp_def]
    rw [htexts]
    exact List.Nodup.map (fun s t h => String.ofList_injective (text.inj h)) h

theorem Keyed.of_perm (hk : Keyed es) (h : es.Perm fs) : Keyed fs :=
  ⟨fun e he => hk.texts e (h.mem_iff.2 he), (h.map Prod.fst).nodup_iff.1 hk.once⟩

/-- Sanitised dictionaries have their entries in another order if the dictionaries had. -/
theorem Reordered.sanitised (h : Reordered Distinguished d e) (depth : Nat) :
    Changed (Reordered Keyed) (d.sanitised depth) (e.sanitised depth) := by
  obtain ⟨hes, hperm⟩ := h
  cases depth with
  | zero => exact .refl _
  | succ depth =>
    have hkeyed := keyed_of_distinguished hes depth
    have hperm := hperm.map fun (k, v) => (textKey k, v.sanitised depth)
    rw [Datum.sanitised, Datum.sanitised, ofEntries_keyed hkeyed,
      ofEntries_keyed (hkeyed.of_perm hperm)]
    exact .here (.dict hkeyed hperm)

/-- The keys are the same in any order, so all have texts or not all. -/
theorem Reordered.keysWritable_eq (h : Reordered P d e) (depth : Nat) :
    d.keysWritable depth = e.keysWritable depth := by
  obtain ⟨-, hperm⟩ := h
  cases depth with
  | zero => rfl
  | succ depth => exact hperm.all_eq

/-! ## Their JSON value -/

theorem jsonItems?_congr (h : d.json? = e.json?) (before after : List Datum) :
    jsonItems? (before ++ d :: after) = jsonItems? (before ++ e :: after) := by
  induction before with
  | nil => simp only [List.nil_append, jsonItems?, h]
  | cons c before ih => simp only [List.cons_append, jsonItems?, ih]

theorem jsonMembers?_congr (h : d.json? = e.json?) (before after : List (Datum × Datum))
    (key : Datum) :
    jsonMembers? (before ++ (key, d) :: after) = jsonMembers? (before ++ (key, e) :: after) := by
  induction before with
  | nil => simp only [List.nil_append, jsonMembers?, h]
  | cons c before ih => simp only [List.cons_append, jsonMembers?, ih]

theorem jsonMembers?_cons_eq_some {entry : Datum × Datum} {ms : List (JsonKey × Json)} :
    jsonMembers? (entry :: es) = some ms ↔ ∃ k v rest, jsonKey? entry.1 = some k ∧
      json? entry.2 = some v ∧ jsonMembers? es = some rest ∧ ms = (k, v) :: rest := by
  obtain ⟨key, value⟩ := entry
  constructor
  · intro h
    unfold jsonMembers? at h
    split at h
    · rename_i k v rest hk hv hrest
      exact ⟨k, v, rest, hk, hv, hrest, (Option.some.inj h).symm⟩
    · cases h
  · rintro ⟨k, v, rest, hk, hv, hrest, rfl⟩
    simp only [jsonMembers?, hk, hv, hrest]

/-- Entries in another order have the same members in another order. -/
theorem jsonMembers?_of_perm (h : es.Perm fs) {ms : List (JsonKey × Json)}
    (hms : jsonMembers? es = some ms) : ∃ ns, jsonMembers? fs = some ns ∧ ms.Perm ns := by
  induction h generalizing ms with
  | nil => exact ⟨ms, hms, .refl ms⟩
  | cons entry _ ih =>
    obtain ⟨k, v, rest, hk, hv, hrest, rfl⟩ := jsonMembers?_cons_eq_some.1 hms
    obtain ⟨rest', hrest', hperm⟩ := ih hrest
    exact ⟨(k, v) :: rest', jsonMembers?_cons_eq_some.2 ⟨k, v, rest', hk, hv, hrest', rfl⟩,
      hperm.cons _⟩
  | swap entry entry' es =>
    obtain ⟨k', v', rest', hk', hv', hrest', rfl⟩ := jsonMembers?_cons_eq_some.1 hms
    obtain ⟨k, v, rest, hk, hv, hrest, rfl⟩ := jsonMembers?_cons_eq_some.1 hrest'
    refine ⟨(k, v) :: (k', v') :: rest, jsonMembers?_cons_eq_some.2 ⟨k, v, _, hk, hv, ?_, rfl⟩,
      .swap _ _ _⟩
    exact jsonMembers?_cons_eq_some.2 ⟨k', v', rest, hk', hv', hrest, rfl⟩
  | trans _ _ ih ih' =>
    obtain ⟨ms', hms', hperm⟩ := ih hms
    obtain ⟨ns, hns, hperm'⟩ := ih' hms'
    exact ⟨ns, hns, hperm.trans hperm'⟩

/-- Members under keys that are texts. -/
theorem exists_keyedMembers (ht : TextKeyed es) {ms : List (JsonKey × Json)}
    (hms : jsonMembers? es = some ms) :
    ∃ ms', ms = keyedMembers ms' ∧ (ms'.map Prod.fst).map text = es.map Prod.fst := by
  induction es generalizing ms with
  | nil =>
    obtain rfl := Option.some.inj hms
    exact ⟨[], rfl, rfl⟩
  | cons entry es ih =>
    obtain ⟨k, v, rest, hk, -, hrest, rfl⟩ := jsonMembers?_cons_eq_some.1 hms
    obtain ⟨s, hs⟩ := ht entry (by simp)
    obtain ⟨rest', rfl, hkeys⟩ := ih (fun e he => ht e (by simp [he])) hrest
    rw [hs] at hk
    obtain rfl : JsonKey.text s = k := Option.some.inj hk
    exact ⟨(s, v) :: rest', rfl, by simp [hs, hkeys]⟩

/-- Sorting by different keys leaves no trace of the order before. -/
theorem mergeSort_eq_of_perm {ms ns : List (String × Json)} (h : ms.Perm ns)
    (hk : (ms.map Prod.fst).Nodup) :
    ms.mergeSort (fun a b => decide (a.1 ≤ b.1)) = ns.mergeSort fun a b => decide (a.1 ≤ b.1) := by
  have hsorted : ∀ l : List (String × Json),
      (l.mergeSort fun a b => decide (a.1 ≤ b.1)).Pairwise fun a b => a.1 ≤ b.1 := fun l => by
    have htrans : ∀ a b c : String × Json, decide (a.1 ≤ b.1) = true → decide (b.1 ≤ c.1) = true →
        decide (a.1 ≤ c.1) = true := by
      simpa using fun a b c => String.le_trans
    have htotal : ∀ a b : String × Json, (decide (a.1 ≤ b.1) || decide (b.1 ≤ a.1)) = true := by
      simpa using fun a b => String.le_total a b
    simpa using List.pairwise_mergeSort htrans htotal l
  have hms := List.mergeSort_perm ms fun a b => decide (a.1 ≤ b.1)
  have hns := List.mergeSort_perm ns fun a b => decide (a.1 ≤ b.1)
  refine ((hms.trans h).trans hns.symm).eq_of_pairwise ?_ (hsorted ms) (hsorted ns)
  intro a b ha hb hle hge
  exact List.inj_on_of_nodup_map hk (hms.mem_iff.1 ha) (h.mem_iff.2 (hns.mem_iff.1 hb))
    (String.le_antisymm hle hge)

theorem perm_of_keyedMembers {ms ns : List (String × Json)}
    (h : (keyedMembers ms).Perm (keyedMembers ns)) : ms.Perm ns := by
  rw [← map_name_keyedMembers ms, ← map_name_keyedMembers ns]
  exact h.map _

theorem json?_dict_of_perm (hk : Keyed es) (h : es.Perm fs) :
    (dict es).json? = (dict fs).json? := by
  cases hms : jsonMembers? es with
  | none =>
    have hns : jsonMembers? fs = none := Option.eq_none_iff_forall_ne_some.2 fun ns hns => by
      obtain ⟨ms, hms', -⟩ := jsonMembers?_of_perm h.symm hns
      rw [hms] at hms'
      cases hms'
    rw [json?, json?, hms, hns]
  | some ms =>
    obtain ⟨ns, hns, hperm⟩ := jsonMembers?_of_perm h hms
    obtain ⟨ms', rfl, hkeys⟩ := exists_keyedMembers hk.texts hms
    obtain ⟨ns', rfl, -⟩ := exists_keyedMembers (hk.of_perm h).texts hns
    have hperm' := perm_of_keyedMembers hperm
    have honce : (ms'.map Prod.fst).Nodup := List.Nodup.of_map text (hkeys ▸ hk.once)
    rw [json?, json?, hms, hns, Option.bind_some, Option.bind_some, sortedObject?_keyedMembers,
      sortedObject?_keyedMembers, mergeSort_eq_of_perm hperm' honce]

/-- Data with texts as keys has the same JSON value in any order. -/
theorem Changed.json?_eq (h : Changed (Reordered Keyed) d e) : d.json? = e.json? := by
  induction h with
  | here h =>
    obtain ⟨hk, hperm⟩ := h
    exact json?_dict_of_perm hk hperm
  | list _ ih | tuple _ ih => rw [json?, json?, jsonItems?_congr ih]
  | set _ _ => rfl
  | value _ ih => rw [json?, json?, jsonMembers?_congr ih]
  | refl _ => rfl
  | trans _ _ ih ih' => exact ih.trans ih'

/-- The JSON value of what sanitising makes of data, or its failure, depends on no more than this. -/
theorem jsonCopy_congr {depth : Nat} (hkeys : d.keysWritable depth = e.keysWritable depth)
    (hjson : (d.sanitised depth).json? = (e.sanitised depth).json?) :
    d.jsonCopy depth = e.jsonCopy depth := by
  rw [jsonCopy, jsonCopy, sanitise_eq, sanitise_eq, hkeys]
  split
  · exact congrArg (fun v => Except.ok (Option.getD v .null)) hjson
  · rfl

theorem Changed.isVoid_eq (h : Changed (Reordered P) d e) : d.isVoid = e.isVoid := by
  induction h with
  | here h =>
    obtain ⟨-, hperm⟩ := h
    exact hperm.isEmpty_eq
  | list _ _ | tuple _ _ | set _ _ | value _ _ =>
    exact Bool.eq_iff_iff.2 (by simp [isVoid])
  | refl _ => rfl
  | trans _ _ ih ih' => exact ih.trans ih'

end Datum

namespace LogRecord

/-- Data with entries in another order, under keys with different texts, makes the same JSON
line. -/
theorem json_line_canonical (r : LogRecord) (env : List (String × String)) (l : LineLayout)
    {d e : Datum} (henv : asksForJson env = true)
    (h : Datum.Changed (Datum.Reordered Datum.Distinguished) d e) :
    { r with given := some d }.line (asksForJson env) l =
      { r with given := some e }.line (asksForJson env) l := by
  have hsanitised := h.sanitised (Datum.congruence_changed (Datum.Reordered Datum.Keyed))
    Datum.Reordered.sanitised Datum.usualDepth
  have hkeys := h.keysWritable_eq Datum.Reordered.keysWritable_eq Datum.usualDepth
  have hdata : { r with given := some d }.jsonData = { r with given := some e }.jsonData :=
    Datum.jsonCopy_congr hkeys hsanitised.json?_eq
  have hvoid : { r with given := some d }.data.isVoid = { r with given := some e }.data.isVoid :=
    h.isVoid_eq
  have hjson : { r with given := some d }.json = { r with given := some e }.json := by
    unfold json
    rw [hdata, hvoid]
    rfl
  rw [henv, line, line, if_pos rfl, if_pos rfl, jsonLine, jsonLine, hjson]

/-- Entries under keys of many kinds. -/
def tallies : List (Datum × Datum) :=
  [(.integer 10, .bytes [0]), (.bool false, .text "up"), (.absent, .integer 3),
    (.bytes [1], .list []), (.text "9", .state .closed), (.flags .managed, .absent)]

/-- One more entry, with tallies inside. -/
def within (entries : List (Datum × Datum)) : Datum × Datum := (.text "in", .tuple [.dict entries])

/-- A record of some entries. -/
def tallied (entries : List (Datum × Datum)) : LogRecord where
  logger := "ztcp.gate"
  level := 20
  template := "read"
  created := .whole 1700000000
  milliseconds := .whole 7
  given := some (.dict entries)

theorem json_line_canonical_tallied :
    ∃ line,
      (tallied (within tallies :: tallies)).line (asksForJson [("ZTCP_LOG_JSON", "TRUE")])
        .messageOnly = .ok line ∧
      (tallied (tallies ++ [within tallies.reverse])).line
        (asksForJson [("ZTCP_LOG_JSON", "TRUE")]) .messageOnly = .ok line := by
  have hinner : Datum.Distinguished tallies := by
    unfold Datum.Distinguished
    decide +kernel
  have houter : Datum.Distinguished (within tallies.reverse :: tallies) := by
    unfold Datum.Distinguished
    decide +kernel
  have hinside : Datum.Changed (Datum.Reordered Datum.Distinguished)
      (.dict (within tallies :: tallies)) (.dict (within tallies.reverse :: tallies)) :=
    @Datum.Changed.value _ [] _ _ _ _
      (@Datum.Changed.tuple _ [] [] _ _ (.here (.dict hinner (List.reverse_perm _).symm)))
  have haround : Datum.Changed (Datum.Reordered Datum.Distinguished)
      (.dict (within tallies.reverse :: tallies)) (.dict (tallies ++ [within tallies.reverse])) :=
    .here (.dict houter (List.perm_append_singleton _ _).symm)
  have henv : asksForJson [("ZTCP_LOG_JSON", "TRUE")] = true := by decide +kernel
  have hsame := (tallied []).json_line_canonical _ .messageOnly henv (hinside.trans haround)
  have hdate : (tallied (within tallies :: tallies)).time "%Y-%m-%dT%H:%M:%S" =
      .ok "2023-11-14T22:13:20" := by decide +kernel
  have hfraction : (tallied (within tallies :: tallies)).thousandths = .ok "007" := by
    decide +kernel
  obtain ⟨-, v, -, hv, -, hwritable, -⟩ :=
    jsonData_isJson (r := tallied (within tallies :: tallies)) (by decide +kernel)
  have hline := jsonLine_eq rfl rfl hdate hfraction hv hwritable
  exact ⟨_, hline, hsame.symm.trans hline⟩

end LogRecord
end TcpSessions
