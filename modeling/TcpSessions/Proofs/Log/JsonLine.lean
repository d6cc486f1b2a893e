import TcpSessions.Log.Line
import TcpSessions.Proofs.Log.Sanitised
/-!
# The JSON line of a record

A record that can be written at all is written as one line of printable ASCII, and what is read from
the line is what was logged (`LogRecord.json_line_decodes`): the logger, the message, the severity,
the time, and the sanitised data if there is any.
-/
namespace TcpSessions

/-! ## Times that can be told -/

/-- The integer at or below a number, if it is finite. -/
def Number.floor? : Number → Option Int
  | whole n => some n
  | real x => x.floor?.map Prod.fst

/-- The year of a day is one of the four hundred of its cycle, or the one after them. -/
theorem Date.year_ofDays_bounds (days : Int) :
    (days + 719468) / 146097 * 400 ≤ (Date.ofDays days).year ∧
      (Date.ofDays days).year ≤ (days + 719468) / 146097 * 400 + 401 := by
  obtain ⟨day, hday⟩ : ∃ day, ((days + 719468).fmod 146097).toNat = day := ⟨_, rfl⟩
  -- a year that starts in March ends in the next one
  obtain ⟨late, hlate, hyear⟩ : ∃ late : Int, (late = 1 ∨ late = 0) ∧ (Date.ofDays days).year =
      (days + 719468).fdiv 146097 * 400 +
        ((day - day / 1460 + day / 36524 - day / 146096) / 365 : Nat) + late := by
    subst hday
    exact ⟨_, ite_eq_or_eq _ _ _, rfl⟩
  have hlt : day < 146097 := by
    rw [← hday, Int.fmod_eq_emod_of_nonneg _ (by decide)]
    omega
  rw [hyear, Int.fdiv_eq_ediv_of_nonneg _ (by decide)]
  omega

namespace LogRecord

variable {r : LogRecord}

/-- A record has a time that can be told: its second lies in the calendar, in a year that can be
written, and its thousandths are a number. That is so of whatever a clock shows when a record is
made (`timed_of_near`). -/
structure Timed (r : LogRecord) : Prop where
  second : ∃ n, secondOf r.created = .ok n ∧ (Moment.ofSeconds n).date.year < 0x80000000
  thousandths : ∃ n, r.milliseconds.truncated = .ok n ∧ Text.isWritable n

/-- The time of a record can be told if it lies within some thirty million years of 1970. -/
theorem timed_of_near {n k : Int} (hn : r.created.floor? = some n)
    (hnear : -0x4000000000000 ≤ n ∧ n ≤ 0x4000000000000) (hk : r.milliseconds.truncated = .ok k)
    (hwritable : Text.isWritable k) : r.Timed := by
  obtain ⟨hlow, hhigh⟩ := Date.year_ofDays_bounds (n / 86400)
  have hdays : n.fdiv 86400 = n / 86400 := Int.fdiv_eq_ediv_of_nonneg _ (by decide)
  have hsecond : secondOf r.created = .ok n := by
    have hword : ¬(n < -0x8000000000000000 ∨ 0x8000000000000000 ≤ n) := by omega
    have hyear : -0x80000000 ≤ (Date.ofDays (n.fdiv 86400)).year - 1900 ∧
        (Date.ofDays (n.fdiv 86400)).year - 1900 < 0x80000000 := by
      rw [hdays]
      omega
    unfold secondOf
    cases hc : r.created with
    | whole m =>
      obtain rfl : m = n := by simpa [hc, Number.floor?] using hn
      simp only [hword, hyear, and_self, if_false, if_true]
    | real x =>
      rw [hc] at hn
      cases x with
      | nan => cases hn
      | infinite negative => cases hn
      | finite negative m e =>
        obtain ⟨⟨m', exact⟩, hfloor, rfl⟩ := Option.map_eq_some_iff.1 hn
        simp only [hfloor, Option.map_some, Option.elim_some, hword, hyear, and_self, if_false,
          if_true]
  refine ⟨⟨n, hsecond, ?_⟩, k, hk, hwritable⟩
  show (Date.ofDays (n.fdiv 86400)).year < _
  rw [hdays]
  omega

theorem time_of_timed (ht : r.Timed) (layout : String) (hl : '\x00' ∉ layout.toList) :
    ∃ text, r.time layout = .ok text := by
  obtain ⟨n, hn, hyear⟩ := ht.second
  have hyear : ¬0x80000000 ≤ (Moment.ofSeconds n).date.year := by omega
  have hl : layout.toList.contains '\x00' = false := by simpa using hl
  refine ⟨String.ofList ((Moment.ofSeconds n).text layout.toList), ?_⟩
  unfold time
  rw [hn]
  show (if 0x80000000 ≤ (Moment.ofSeconds n).date.year then _ else _) = _
  rw [if_neg hyear, hl]
  rfl

theorem thousandths_of_timed (ht : r.Timed) : ∃ text, r.thousandths = .ok text := by
  obtain ⟨n, hn, hwritable⟩ := ht.thousandths
  refine ⟨String.ofList ((Template.integerFigure [] (Text.digits n.natAbs) none n).lay
    { zero := true } 3), ?_⟩
  unfold thousandths
  rw [hn]
  exact if_pos hwritable

/-! ## The object of a record -/

/-- The members of a record besides its data and its failure. -/
def plainMembers (r : LogRecord) (message timestamp : String) : List (String × Json) :=
  [("logger", .text r.logger), ("message", .text message), ("severity", .text r.severity),
    ("timestamp", .text timestamp)]

/-- The object of a record without a failure, whose data stands for a JSON value. -/
def written (r : LogRecord) (message timestamp : String) (v : Json) : Json :=
  .object ((if r.data.isVoid then [] else [("data", v)]) ++ r.plainMembers message timestamp)

theorem jsonLine_eq {message date fraction : String} {v : Json} (hf : r.failure = none)
    (hm : r.message = .ok message) (hd : r.time "%Y-%m-%dT%H:%M:%S" = .ok date)
    (hfr : r.thousandths = .ok fraction) (hv : r.jsonData = .ok v) (hw : v.isWritable) :
    r.jsonLine =
      .ok (String.ofList (r.written message (date ++ "." ++ fraction ++ "Z") v).encode) := by
  have hjson : r.json = .ok (r.written message (date ++ "." ++ fraction ++ "Z") v) := by
    unfold json written
    rw [hm, hd, hfr, hf, hv]
    by_cases hvoid : r.data.isVoid <;> simp only [hvoid] <;> rfl
  have hshort : (r.written message (date ++ "." ++ fraction ++ "Z") v).isWritable := by
    unfold written
    cases r.data.isVoid with
    | true => rfl
    | false => simp [plainMembers, Json.isWritable, Json.membersWritable, hw]
  rw [jsonLine, hjson]
  show (Json.write _).mapError _ = _
  rw [Json.write, if_pos hshort]
  rfl

/-- What goes into the line of a record is the JSON value of its sanitised data. -/
theorem jsonData_isJson (hw : r.data.isWritable) :
    ∃ s v, r.data.sanitise Datum.usualDepth = .ok s ∧ r.jsonData = .ok v ∧ s.IsJson v ∧
      v.isWritable ∧ (r.data.Floatless → v.Whole) := by
  obtain ⟨hkeys, hwritable⟩ := Datum.sanitised_of_isWritable Datum.usualDepth hw
  obtain ⟨v, hv, his, hwhole⟩ := Datum.hasJson_sanitised Datum.usualDepth r.data
  have hsanitise := Datum.sanitise_eq Datum.usualDepth r.data
  rw [if_pos hkeys] at hsanitise
  refine ⟨_, v, hsanitise, ?_, his, (Datum.isWritable_of_isJson his).trans hwritable, hwhole⟩
  rw [jsonData, Datum.jsonCopy, hsanitise]
  exact congrArg (fun v => Except.ok (Option.getD v .null)) hv

/-- A record without a failure, whose message can be made, whose time can be told and whose data has
a text, is written as printable ASCII if JSON is asked for, and its line reads as an object of the
logger, the message, the severity, the time, and the sanitised data unless that is void. -/
theorem json_line_decodes (r : LogRecord) (env : List (String × String)) (l : LineLayout)
    {message : String} (henv : asksForJson env = true) (hf : r.failure = none)
    (hm : r.message = .ok message) (ht : r.Timed) (hd : r.data.Floatless)
    (hw : r.data.isWritable) :
    ∃ line date fraction data, r.line (asksForJson env) l = .ok line ∧
      Json.Printable line.toList ∧
      r.time "%Y-%m-%dT%H:%M:%S" = .ok date ∧ r.thousandths = .ok fraction ∧
      Json.decode? line.toList = some (.object
        (data ++ r.plainMembers message (date ++ "." ++ fraction ++ "Z"))) ∧
      (r.data.isVoid = true → data = []) ∧
      (r.data.isVoid = false → ∃ s v, r.data.sanitise Datum.usualDepth = .ok s ∧
        data = [("data", v)] ∧ s.IsJson v) := by
  obtain ⟨date, hdate⟩ := time_of_timed ht "%Y-%m-%dT%H:%M:%S" (by decide)
  obtain ⟨fraction, hfraction⟩ := thousandths_of_timed ht
  obtain ⟨s, v, hs, hv, his, hwritable, hwhole⟩ := jsonData_isJson hw
  have hjsonLine := jsonLine_eq hf hm hdate hfraction hv hwritable
  obtain ⟨data, hdata⟩ : ∃ data, data =
      if r.data.isVoid then ([] : List (String × Json)) else [("data", v)] := ⟨_, rfl⟩
  obtain ⟨object, hobject⟩ : ∃ object, object = Json.object
      (data ++ r.plainMembers message (date ++ "." ++ fraction ++ "Z")) := ⟨_, rfl⟩
  rw [written, ← hdata, ← hobject] at hjsonLine
  have hline : r.line (asksForJson env) l = .ok (String.ofList object.encode) := by
    rw [henv, line, if_pos rfl, hjsonLine]
  have hintegers : object.Whole := by
    rw [hobject, hdata]
    cases r.data.isVoid with
    | true => simp [plainMembers, Json.Whole, Json.WholeMembers]
    | false => simp [plainMembers, Json.Whole, Json.WholeMembers, hwhole hd]
  refine ⟨_, date, fraction, data, hline, ?_, hdate, hfraction, ?_, fun hvoid => ?_,
    fun hvoid => ?_⟩
  · rw [String.toList_ofList]
    exact Json.printable_encode hintegers
  · rw [String.toList_ofList, ← hobject]
    exact Json.decode?_encode hintegers
  · rw [hdata, hvoid]
    rfl
  · refine ⟨s, v, hs, ?_, his⟩
    rw [hdata, hvoid]
    rfl

/-- A message on two lines, and data of many kinds: a dictionary with a number, a truth value and a
byte string among its keys, a character beyond sixteen bits, bytes, a set, and an endpoint. -/
def motley : LogRecord where
  logger := "ztcp.\"gate\""
  level := 25
  severity := "NOTICE\n"
  template := "two\nlines \\ and a tab\t"
  created := .whole 1700000000
  milliseconds := .whole 7
  given := some (.dict [(.integer 1, .text "🔒 \u2028"), (.bool false, .bytes [0, 255]),
    (.bytes [1], .set [.state .connected]), (.text "1", .list [.integer (-20), .absent]),
    (.text "peer", .peer ⟨.inet [192, 0, 2, 1] rfl, 23, 0, 0⟩)])

theorem json_line_decodes_motley :
    ∃ line s v, motley.line (asksForJson [("ZTCP_LOG_JSON", " Yes ")]) .messageOnly = .ok line ∧
      Json.Printable line.toList ∧ Json.decode? line.toList = some (.object [("data", v),
        ("logger", .text "ztcp.\"gate\""), ("message", .text "two\nlines \\ and a tab\t"),
        ("severity", .text "NOTICE\n"), ("timestamp", .text "2023-11-14T22:13:20.007Z")]) ∧
      motley.data.sanitise Datum.usualDepth = .ok s ∧ s.IsJson v := by
  have hfloatless : motley.data.Floatless := by
    simp [motley, data, Datum.Floatless, Datum.FloatlessEntries, Datum.FloatlessItems,
      Datum.integer]
  have htimed : motley.Timed :=
    timed_of_near (n := 1700000000) rfl (by omega) (k := 7) rfl (by decide +kernel)
  obtain ⟨line, date, fraction, members, hline, hprintable, hdate, hfraction, hread, -, hdata⟩ :=
    motley.json_line_decodes [("ZTCP_LOG_JSON", " Yes ")] .messageOnly (by decide +kernel) rfl rfl
      htimed hfloatless (by decide +kernel)
  obtain ⟨s, v, hs, rfl, hv⟩ := hdata rfl
  obtain rfl : "2023-11-14T22:13:20" = date := Except.ok.inj ((by decide +kernel :
    Except.ok "2023-11-14T22:13:20" = motley.time "%Y-%m-%dT%H:%M:%S").trans hdate)
  obtain rfl : "007" = fraction := Except.ok.inj ((by decide +kernel :
    Except.ok "007" = motley.thousandths).trans hfraction)
  exact ⟨line, s, v, hline, hprintable, hread, hs, hv⟩

end LogRecord
end TcpSessions
