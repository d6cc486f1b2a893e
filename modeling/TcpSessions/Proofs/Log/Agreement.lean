import Mathlib.Algebra.Group.Int.Defs
import TcpSessions.Proofs.Log.JsonLine
/-!
# Plain lines and JSON lines agree

Data that JSON knows (`Datum.Native`) is written in the same way on plain lines, which take it as it
is, and on JSON lines, which take a sanitised copy. The copy differs from the data only in values
that lie inside ten containers: they give way to a marker (`LogRecord.lines_agree`).
-/
namespace TcpSessions

namespace Datum

variable {limit depth level : Nat} {d : Datum} {entries : List (Datum × Datum)}

/-! ## Data that JSON knows -/

mutual

/-- Nothing but missing values, truth values, numbers, texts, lists, and dictionaries with texts as
keys, each key once. -/
def Native : Datum → Prop
  | absent | bool _ | number _ | text _ => True
  | list items => NativeItems items
  | dict entries => Keyed entries ∧ NativeEntries entries
  | flags _ | state _ | family _ | bytes _ | buffer _ | tuple _ | set _ | peer _ | listing _
  | session _ | unknown .. => False

/-- JSON knows each of some data. -/
def NativeItems : List Datum → Prop
  | [] => True
  | d :: ds => Native d ∧ NativeItems ds

/-- JSON knows each value of some entries. -/
def NativeEntries : List (Datum × Datum) → Prop
  | [] => True
  | (_, v) :: es => Native v ∧ NativeEntries es

end

/-- A missing value, a truth value, a number or a text, members of enumerations among them. -/
def Scalar : Datum → Prop
  | absent | bool _ | number _ | text _ | flags _ | state _ | family _ => True
  | _ => False

/-- Nothing but scalars, lists, and dictionaries with texts as keys, each key once. JSON knows all of
this but for the members of enumerations, which are written as the numbers and texts they are. -/
inductive Fit : Datum → Prop
  | scalar {d : Datum} (h : d.Scalar) : Fit d
  | list {items : List Datum} (h : ∀ d ∈ items, Fit d) : Fit (list items)
  | dict {entries : List (Datum × Datum)} (hkeyed : Keyed entries) (h : ∀ e ∈ entries, Fit e.2) :
    Fit (dict entries)

mutual

/-- Data that JSON knows is fit. -/
theorem Native.fit : ∀ {d : Datum}, d.Native → d.Fit
  | absent, _ | bool _, _ | number _, _ | text _, _ => .scalar trivial
  | list _, h => .list (fit_of_nativeItems h)
  | dict _, ⟨hkeyed, h⟩ => .dict hkeyed (fit_of_nativeEntries h)
  | flags _, h | state _, h | family _, h | bytes _, h | buffer _, h | tuple _, h | set _, h
  | peer _, h | listing _, h | session _, h | unknown .., h => h.elim

theorem fit_of_nativeItems : ∀ {items : List Datum}, NativeItems items → ∀ d ∈ items, d.Fit
  | [], _ => nofun
  | _ :: _, ⟨hd, hds⟩ => List.forall_mem_cons.2 ⟨hd.fit, fit_of_nativeItems hds⟩

theorem fit_of_nativeEntries : ∀ {entries : List (Datum × Datum)}, NativeEntries entries →
    ∀ e ∈ entries, e.2.Fit
  | [], _ => nofun
  | (_, _) :: _, ⟨hv, hes⟩ => List.forall_mem_cons.2 ⟨hv.fit, fit_of_nativeEntries hes⟩

end

mutual

/-- A datum that lies inside `level` containers, with the marker in place of every value that lies
inside exactly `limit` of them. -/
def marked (limit : Nat) : Nat → Datum → Datum
  | level, list items =>
    if level = limit then tooDeep else list (markedItems limit (level + 1) items)
  | level, dict entries =>
    if level = limit then tooDeep else dict (markedEntries limit (level + 1) entries)
  | level, d => if level = limit then tooDeep else d

/-- The items of a list with the marker in place of what lies inside exactly `limit` containers. -/
def markedItems (limit : Nat) : Nat → List Datum → List Datum
  | _, [] => []
  | level, d :: ds => marked limit level d :: markedItems limit level ds

/-- The entries of a dictionary with the marker in place of what lies inside exactly `limit`
containers. -/
def markedEntries (limit : Nat) : Nat → List (Datum × Datum) → List (Datum × Datum)
  | _, [] => []
  | level, (k, v) :: es => (k, marked limit level v) :: markedEntries limit level es

end

mutual

/-- No value of a datum that lies inside `level` containers lies inside `limit` of them or more. -/
def Within (limit : Nat) : Nat → Datum → Prop
  | level, list items => level < limit ∧ WithinItems limit (level + 1) items
  | level, dict entries => level < limit ∧ WithinEntries limit (level + 1) entries
  | level, _ => level < limit

/-- No value of some items lies inside `limit` containers or more. -/
def WithinItems (limit : Nat) : Nat → List Datum → Prop
  | _, [] => True
  | level, d :: ds => Within limit level d ∧ WithinItems limit level ds

/-- No value of some entries lies inside `limit` containers or more. -/
def WithinEntries (limit : Nat) : Nat → List (Datum × Datum) → Prop
  | _, [] => True
  | level, (_, v) :: es => Within limit level v ∧ WithinEntries limit level es

end

/-! ## Shallow data -/

mutual

/-- Where nothing lies too deep, nothing is replaced. -/
theorem marked_of_within : ∀ {level : Nat} {d : Datum}, d.Within limit level →
    d.marked limit level = d
  | level, list items, ⟨hlt, h⟩ => by
    rw [marked, if_neg (Nat.ne_of_lt hlt), markedItems_of_within h]
  | level, dict entries, ⟨hlt, h⟩ => by
    rw [marked, if_neg (Nat.ne_of_lt hlt), markedEntries_of_within h]
  | level, absent, h | level, bool _, h | level, number _, h | level, text _, h
  | level, flags _, h | level, state _, h | level, family _, h | level, bytes _, h
  | level, buffer _, h | level, tuple _, h | level, set _, h | level, peer _, h
  | level, listing _, h | level, session _, h | level, unknown .., h =>
    if_neg (Nat.ne_of_lt h)

theorem markedItems_of_within : ∀ {level : Nat} {items : List Datum},
    WithinItems limit level items → markedItems limit level items = items
  | _, [], _ => rfl
  | level, d :: ds, ⟨hd, hds⟩ => by
    rw [markedItems, marked_of_within hd, markedItems_of_within hds]

theorem markedEntries_of_within : ∀ {level : Nat} {entries : List (Datum × Datum)},
    WithinEntries limit level entries → markedEntries limit level entries = entries
  | _, [], _ => rfl
  | level, (k, v) :: es, ⟨hv, hes⟩ => by
    rw [markedEntries, marked_of_within hv, markedEntries_of_within hes]

end

/-! ## Sanitised data -/

theorem marked_limit (limit : Nat) (d : Datum) : d.marked limit limit = tooDeep := by
  cases d <;> simp [marked]

theorem markedItems_eq_map (level : Nat) (items : List Datum) :
    markedItems limit level items = items.map (marked limit level) := by
  induction items with
  | nil => rfl
  | cons d ds ih => rw [markedItems, ih, List.map_cons]

theorem markedEntries_eq_map (level : Nat) (entries : List (Datum × Datum)) :
    markedEntries limit level entries = entries.map fun (k, v) => (k, marked limit level v) := by
  induction entries with
  | nil => rfl
  | cons e es ih => rw [markedEntries, ih, List.map_cons]

/-- Entries with a key each are put one behind another. -/
theorem foldl_put_keyed : ∀ {puts entries : List (Datum × Datum)}, Keyed (entries ++ puts) →
    puts.foldl (fun d (k, v) => put k v d) entries = entries ++ puts
  | [], entries, _ => (List.append_nil entries).symm
  | (k, v) :: puts, entries, h => by
    obtain ⟨htexts, honce⟩ := id h
    obtain ⟨s, rfl⟩ : ∃ s, k = text s := htexts (k, v) (by simp)
    rw [List.map_append, List.map_cons, List.nodup_append] at honce
    have hnew : text s ∉ entries.map Prod.fst := fun hs =>
      honce.2.2 (text s) hs (text s) (by simp) rfl
    have hput : put (text s) v entries = entries ++ [(text s, v)] := by
      have hkeyed : Keyed entries := ⟨fun e he => htexts e (by simp [he]), honce.1⟩
      rcases put_text s v hkeyed with ⟨-, heq⟩ | ⟨before, old, after, rfl, -⟩
      · exact heq
      · exact absurd (by simp) hnew
    have happend : entries ++ [(text s, v)] ++ puts = entries ++ (text s, v) :: puts := by simp
    have hkeyed : Keyed (entries ++ [(text s, v)] ++ puts) := happend ▸ h
    show puts.foldl _ (put (text s) v entries) = _
    rw [hput, foldl_put_keyed hkeyed, happend]

theorem ofEntries_keyed (h : Keyed entries) : ofEntries entries = dict entries :=
  congrArg dict (foldl_put_keyed (by rwa [List.nil_append]))

theorem Keyed.map_values (h : Keyed entries) (f : Datum → Datum) :
    Keyed (entries.map fun (k, v) => (k, f v)) := by
  refine ⟨fun e he => ?_, by simpa [Function.comp_def] using h.once⟩
  obtain ⟨x, hx, rfl⟩ := List.mem_map.1 he
  exact h.texts x hx

/-- A dictionary with texts as keys keeps them. -/
theorem sanitised_dict_keyed (hkeyed : Keyed entries) {f : Datum → Datum}
    (h : ∀ e ∈ entries, e.2.sanitised depth = f e.2) :
    (dict entries).sanitised (depth + 1) = dict (entries.map fun (k, v) => (k, f v)) := by
  have hentries : (entries.map fun (k, v) => (textKey k, v.sanitised depth)) =
      entries.map fun (k, v) => (k, f v) := by
    refine List.map_congr_left fun e he => ?_
    obtain ⟨s, hs⟩ := hkeyed.texts e he
    simp only [hs, textKey_text, h e he]
  rw [sanitised, hentries, ofEntries_keyed (hkeyed.map_values f)]

theorem Scalar.sanitised_eq (h : d.Scalar) (depth : Nat) : d.sanitised (depth + 1) = d := by
  cases d with
  | absent | bool | number | text | flags | state | family => rfl
  | _ => exact h.elim

theorem Scalar.marked_eq (h : d.Scalar) (hne : level ≠ limit) : d.marked limit level = d := by
  cases d with
  | list | dict => exact h.elim
  | _ => exact if_neg hne

theorem Fit.sanitised_eq (h : d.Fit) (hlimit : depth + level = limit) :
    d.sanitised depth = d.marked limit level := by
  induction depth generalizing d level with
  | zero =>
    obtain rfl : level = limit := by omega
    exact (marked_limit level d).symm
  | succ depth ih =>
    have hne : level ≠ limit := by omega
    have hnext : depth + (level + 1) = limit := by omega
    cases h with
    | scalar h => rw [h.sanitised_eq, h.marked_eq hne]
    | @list items h =>
      have hitems : items.map (sanitised depth) = items.map (marked limit (level + 1)) :=
        List.map_congr_left fun d hd => ih (h d hd) hnext
      rw [sanitised, hitems, marked, if_neg hne, markedItems_eq_map]
    | dict hkeyed h =>
      rw [sanitised_dict_keyed hkeyed fun e he => ih (h e he) hnext, marked, if_neg hne,
        markedEntries_eq_map]

/-- Texts can be written. -/
theorem Keyed.isWritable (h : Keyed entries) : ∀ e ∈ entries, e.1.isWritable = true := by
  intro e he
  obtain ⟨s, hs⟩ := h.texts e he
  rw [hs]
  rfl

theorem Fit.keysWritable (h : d.Fit) (depth : Nat) : d.keysWritable depth = true := by
  induction depth generalizing d with
  | zero => rfl
  | succ depth ih =>
    cases h with
    | @scalar d h =>
      cases d with
      | absent | bool | number | text | flags | state | family => rfl
      | _ => exact h.elim
    | list h => exact List.all_eq_true.2 fun d hd => ih (h d hd)
    | dict hkeyed h =>
      refine List.all_eq_true.2 fun e he => ?_
      exact Bool.and_eq_true_iff.2 ⟨hkeyed.isWritable e he, ih (h e he)⟩

/-- Sanitising fit data replaces what lies too deep, and changes nothing else. -/
theorem Fit.sanitise_eq (h : d.Fit) (hlimit : depth + level = limit) :
    d.sanitise depth = .ok (d.marked limit level) := by
  rw [Datum.sanitise_eq, if_pos (h.keysWritable depth), h.sanitised_eq hlimit]

end Datum

namespace LogRecord

/-! ## Both lines -/

/-- A record without its data. -/
def bare (r : LogRecord) : LogRecord := { r with given := none }

/-- Data that is not void goes first into the object of a record, and changes nothing else in it. -/
theorem json_of_data {r : LogRecord} {v : Json} (h : r.data.isVoid = false)
    (hv : r.jsonData = .ok v) :
    (∀ e, r.bare.json = .error e → r.json = .error e) ∧
    ∀ w, r.bare.json = .ok w →
      ∃ m ms, w = .object (m :: ms) ∧ r.json = .ok (.object (("data", v) :: m :: ms)) := by
  have hbare : r.bare.data.isVoid = true := rfl
  have hmessage : r.bare.message = r.message := rfl
  have htime : r.bare.time = r.time := rfl
  have hthousandths : r.bare.thousandths = r.thousandths := rfl
  have hfailure : r.bare.failure = r.failure := rfl
  unfold json
  rw [h, hbare, hv, hmessage, htime, hthousandths, hfailure]
  cases r.message with
  | error e => exact ⟨fun _ he => he, nofun⟩
  | ok message =>
    cases r.time "%Y-%m-%dT%H:%M:%S" with
    | error e => exact ⟨fun _ he => he, nofun⟩
    | ok date =>
      cases r.thousandths with
      | error e => exact ⟨fun _ he => he, nofun⟩
      | ok fraction =>
        refine ⟨nofun, fun v hv => ?_⟩
        obtain rfl := Except.ok.inj hv
        cases r.failure with
        | none => exact ⟨_, _, rfl, rfl⟩
        | some f => exact ⟨_, _, rfl, rfl⟩

/-- The JSON line of a record is that of the record without its data, with the text of the data put
first if it has one. -/
theorem jsonLine_of_data {r : LogRecord} {v : Json} (h : r.data.isVoid = false)
    (hv : r.jsonData = .ok v) :
    (∀ e, r.bare.jsonLine = .error e → r.jsonLine = .error e) ∧
    ∀ s, r.bare.jsonLine = .ok s → ∃ others, s = "\x7b" ++ others ∧
      r.jsonLine = (v.write.mapError .noText).map fun text =>
        "\x7b\"data\":" ++ text ++ "," ++ others := by
  obtain ⟨herror, hok⟩ := json_of_data h hv
  unfold jsonLine
  cases hbare : r.bare.json with
  | error e =>
    rw [herror e hbare]
    exact ⟨fun _ he => he, nofun⟩
  | ok w =>
    obtain ⟨m, ms, rfl, hjson⟩ := hok w hbare
    rw [hjson]
    show (∀ e, (Json.write _).mapError _ = _ → (Json.write _).mapError _ = _) ∧
      ∀ s, (Json.write _).mapError _ = _ → ∃ others, _ ∧ (Json.write _).mapError _ = _
    have hobject : (Json.object (("data", v) :: m :: ms)).isWritable =
        (v.isWritable && (Json.object (m :: ms)).isWritable) := rfl
    unfold Json.write
    rw [hobject]
    cases (Json.object (m :: ms)).isWritable with
    | false =>
      rw [Bool.and_false]
      exact ⟨fun _ he => he, nofun⟩
    | true =>
      refine ⟨nofun, fun s hs => ?_⟩
      obtain rfl : String.ofList (Json.object (m :: ms)).encode = s := Except.ok.inj hs
      refine ⟨String.ofList (Text.join ',' (Json.encodeMembers (m :: ms)) ++ ['\x7d']), ?_, ?_⟩
      · rw [← String.toList_inj]
        simp [Json.encode]
      · cases v.isWritable with
        | false => rfl
        | true =>
          have hjoin := Json.join_encodeMembers "data" v m ms
          refine congrArg Except.ok (String.toList_inj.1 ?_)
          simp [Json.encode, hjoin, Json.encodeText, Json.escapeChar]

/-- Data that JSON knows stands first on the JSON line, with a marker in place of every value that
lies inside exactly ten containers. If no value lies as deep, the plain line ends with the very
same text. If an integer in it is too long to be written, neither line can be made, for this one
reason. -/
theorem lines_agree (r : LogRecord) (l : LineLayout) {v : Datum} (hg : r.given = some v)
    (hv : v.Native) (hvoid : v.isVoid = false) :
    ∃ value, (v.marked Datum.usualDepth 0).json? = some value ∧
      (v.marked Datum.usualDepth 0).IsJson value ∧
      (∀ e, r.bare.line true l = .error e → r.line true l = .error e) ∧
      (∀ s, r.bare.line true l = .ok s → ∃ others, s = "\x7b" ++ others ∧
        r.line true l = (value.write.mapError .noText).map fun text =>
          "\x7b\"data\":" ++ text ++ "," ++ others) ∧
      (v.Within Datum.usualDepth 0 → r.line false l = (r.laidOut l).bind fun head =>
        (value.write.mapError .noText).map fun text => head ++ " | data=" ++ text) := by
  have hdata : r.data = v := by
    unfold data
    rw [hg]
    rfl
  obtain ⟨value, hvalue, his, -⟩ := Datum.hasJson_sanitised Datum.usualDepth v
  have hmarked : v.sanitised Datum.usualDepth = v.marked Datum.usualDepth 0 :=
    hv.fit.sanitised_eq rfl
  have hsanitise : v.sanitise Datum.usualDepth = .ok (v.marked Datum.usualDepth 0) :=
    hv.fit.sanitise_eq rfl
  rw [hmarked] at hvalue his
  have hjsonData : r.jsonData = .ok value := by
    rw [jsonData, hdata, Datum.jsonCopy, hsanitise]
    exact congrArg (fun v => Except.ok (Option.getD v .null)) hvalue
  obtain ⟨herror, hok⟩ := jsonLine_of_data (hdata ▸ hvoid) hjsonData
  refine ⟨value, hvalue, his, herror, hok, fun hwithin => ?_⟩
  rw [Datum.marked_of_within hwithin] at hvalue his
  have hplain : r.plainData = value.write := by
    unfold plainData Json.write
    rw [hdata, hvalue, Datum.isWritable_of_isJson his]
    rfl
  show r.plainLine l = _
  unfold plainLine
  rw [hdata, hvoid, hplain]
  cases r.laidOut l with
  | error e => rfl
  | ok head => cases value.write <;> rfl

/-- The readings of a gate, one of them missing. -/
def readings : LogRecord where
  logger := "ztcp.gate"
  level := 20
  template := "read"
  created := .whole 1700000000
  milliseconds := .whole 7
  given := some (.list [.text "at \"noon\"", .bool true,
    .list [.number (.real (.finite false 6755399441055744 (-52))), .absent]])

/-- A reading that cannot be written: it has one digit too many. -/
def longReading : LogRecord := { readings with given := some (.integer (10 ^ Text.digitLimit)) }

theorem lines_agree_readings :
    (∃ others, readings.line true .messageOnly = .ok
        ("\x7b\"data\":" ++ "[\"at \\\"noon\\\"\",true,[1.5,null]]" ++ "," ++ others) ∧
      readings.line false .messageOnly =
        .ok ("read | data=" ++ "[\"at \\\"noon\\\"\",true,[1.5,null]]")) ∧
    longReading.line true .messageOnly = .error (.noText .integerTooLong) ∧
    longReading.line false .messageOnly = .error (.noText .integerTooLong) := by
  have hnative : readings.data.Native := by
    simp [readings, data, Datum.Native, Datum.NativeItems]
  have hwithin : readings.data.Within Datum.usualDepth 0 := by
    simp [readings, data, Datum.usualDepth, Datum.Within, Datum.WithinItems]
  obtain ⟨value, hvalue, -, -, hline, hplain⟩ :=
    readings.lines_agree .messageOnly rfl hnative rfl
  have htext : value.write = .ok "[\"at \\\"noon\\\"\",true,[1.5,null]]" := by
    obtain rfl := Option.some.inj hvalue
    decide +kernel
  have hbare : readings.bare.line true .messageOnly = .ok
      ("\x7b\"logger\":\"ztcp.gate\",\"message\":\"read\",\"severity\":\"INFO\"," ++
        "\"timestamp\":\"2023-11-14T22:13:20.007Z\"\x7d") := by decide +kernel
  have hhead : readings.laidOut .messageOnly = .ok "read" := by decide +kernel
  rw [htext] at hline hplain
  obtain ⟨others, -, hothers⟩ := hline _ hbare
  refine ⟨⟨others, hothers, by rw [hplain hwithin, hhead]; rfl⟩, ?_⟩
  have hvoid (n : Int) (hn : n ≠ 0) : (Datum.integer n).isVoid = false := decide_eq_false hn
  obtain ⟨long, hlong, -, -, hline, hplain⟩ :=
    longReading.lines_agree .messageOnly (v := .integer (10 ^ Text.digitLimit)) rfl trivial
      (hvoid _ (Int.pow_ne_zero (by decide)))
  have hnone : long.write = .error .integerTooLong := by
    obtain rfl : Json.integer (10 ^ Text.digitLimit) = long := Option.some.inj hlong
    have hlarge : ¬(10 ^ Text.digitLimit : Int).natAbs < 10 ^ Text.digitLimit := by
      simp [Int.natAbs_pow]
    rw [Json.write, Json.isWritable, if_neg fun h => hlarge ((Text.isWritable_iff _).1 h)]
  have hlongHead : longReading.laidOut .messageOnly = .ok "read" := by decide +kernel
  rw [hnone] at hline hplain
  obtain ⟨_, -, hfails⟩ := hline _ hbare
  refine ⟨hfails, ?_⟩
  rw [hplain (show 0 < 10 by omega), hlongHead]
  rfl

end LogRecord
end TcpSessions
