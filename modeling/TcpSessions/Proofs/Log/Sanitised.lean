import Mathlib.Data.List.Nodup
import TcpSessions.Log.Sanitised
import TcpSessions.Proofs.Json.RoundTrip
/-!
# Sanitised data has a JSON value

Sanitising fails on nothing but a key without a text (`Datum.sanitise_eq`). What it makes of any
other data (`Datum.sanitised`) are plain values, lists, and dictionaries with texts as keys, each
key once. Their JSON value says the same as they do (`Datum.IsJson`), and its numbers are integers
if there were no floating-point numbers.
-/
namespace TcpSessions

theorem Family.isWritable_number (f : Family) : Text.isWritable f.number = true := by
  cases f <;> decide +kernel

namespace Datum

variable {key value : Datum} {entries : List (Datum × Datum)}

/-! ## What sanitising does -/

/-- The text of a datum as a datum, however long its integers are. -/
def textKey (d : Datum) : Datum := text (String.ofList d.plain)

/-- What sanitising makes of data if all keys have texts. -/
def sanitised : Nat → Datum → Datum
  | 0, _ => tooDeep
  | depth + 1, d =>
    match d with
    | bytes b | buffer b => byteCount b.length
    | peer p => sanitised depth p.toDatum
    | listing l => sanitised depth l.toDatum
    | session s => sanitised depth s.toDatum
    | dict entries => ofEntries (entries.map fun (k, v) => (textKey k, sanitised depth v))
    | list items | tuple items | set items => list (items.map (sanitised depth))
    | unknown .. => textKey d
    | absent | bool _ | number _ | text _ | flags _ | state _ | family _ => d

/-- Whether every key has a text that sanitising down to a depth comes to. -/
def keysWritable : Nat → Datum → Bool
  | 0, _ => true
  | depth + 1, d =>
    match d with
    | peer p => keysWritable depth p.toDatum
    | listing l => keysWritable depth l.toDatum
    | session s => keysWritable depth s.toDatum
    | dict entries => entries.all fun (k, v) => k.isWritable && keysWritable depth v
    | list items | tuple items | set items => items.all (keysWritable depth)
    | absent | bool _ | number _ | text _ | flags _ | state _ | family _ | bytes _ | buffer _
    | unknown .. => true

/-- Steps that fail in one way only, each of them decided by its item. -/
theorem mapM_eq_ite {α β ε : Type} {e : ε} {f : α → Except ε β} {p : α → Bool} {g : α → β} :
    ∀ {l : List α}, (∀ a ∈ l, f a = if p a then .ok (g a) else .error e) →
      l.mapM f = if l.all p then .ok (l.map g) else .error e
  | [], _ => rfl
  | a :: l, h => by
    rw [List.mapM_cons, h a (by simp), mapM_eq_ite fun b (hb : b ∈ l) => h b (by simp [hb]),
      List.all_cons]
    cases p a with
    | false => rfl
    | true => cases l.all p <;> rfl

/-- Sanitising fails exactly if it comes to a key without a text. -/
theorem sanitise_eq : ∀ (depth : Nat) (d : Datum), d.sanitise depth =
    if d.keysWritable depth then .ok (d.sanitised depth) else .error .integerTooLong
  | 0, _ => rfl
  | depth + 1, d => by
    have ih := sanitise_eq depth
    have hitems (items : List Datum) : items.mapM (sanitise depth) =
        if items.all (keysWritable depth) then .ok (items.map (sanitised depth))
        else .error .integerTooLong := mapM_eq_ite fun d _ => ih d
    cases d with
    | peer p => exact ih p.toDatum
    | listing l => exact ih l.toDatum
    | session s => exact ih s.toDatum
    | list items | tuple items | set items =>
      simp only [sanitise, sanitised, keysWritable, hitems]
      by_cases h : items.all (keysWritable depth) <;> simp only [h] <;> rfl
    | dict entries =>
      have hentry (e : Datum × Datum) : (do return (← asText e.1, ← sanitise depth e.2) :
          Except TextError (Datum × Datum)) = if e.1.isWritable && e.2.keysWritable depth then
            .ok (textKey e.1, e.2.sanitised depth) else .error .integerTooLong := by
        rw [ih, asText, plainText]
        cases e.1.isWritable with
        | false => rfl
        | true => cases e.2.keysWritable depth <;> rfl
      have hentries := mapM_eq_ite fun e (_ : e ∈ entries) => hentry e
      simp only [sanitise, sanitised, keysWritable, hentries]
      by_cases h : entries.all fun e => e.1.isWritable && e.2.keysWritable depth <;>
        simp only [h] <;> rfl
    | absent | bool | number | text | flags | state | family | bytes | buffer | unknown => rfl

/-! ## What a JSON value says -/

mutual

/-- The value says what the datum is. Flags and families are their numbers and states their names;
the members of an object may come in another order than the entries of a dictionary. -/
def IsJson : Datum → Json → Prop
  | absent, v => v = .null
  | bool b, v => v = .bool b
  | number (.whole n), v => v = .integer n
  | number (.real x), v => v = .real x.jsonText
  | text s, v => v = .text s
  | flags f, v => v = .integer f.bits
  | state s, v => v = .text s.name
  | family f, v => v = .integer f.number
  | list items, v => ∃ vs, v = .array vs ∧ AreJson items vs
  | tuple items, v => ∃ vs, v = .array vs ∧ AreJson items vs
  | dict entries, v => ∃ ms ms', v = .object ms' ∧ ms.Perm ms' ∧ (ms.map Prod.fst).Nodup ∧
      AreMembers entries ms
  | bytes _, _ | buffer _, _ | set _, _ | peer _, _ | listing _, _ | session _, _
  | unknown .., _ => False

/-- The values say what the data are, item by item. -/
def AreJson : List Datum → List Json → Prop
  | [], vs => vs = []
  | d :: ds, vs => ∃ v vs', vs = v :: vs' ∧ IsJson d v ∧ AreJson ds vs'

/-- The members say what the entries are, one by one. -/
def AreMembers : List (Datum × Datum) → List (String × Json) → Prop
  | [], ms => ms = []
  | (k, d) :: es, ms => ∃ s v ms', ms = (s, v) :: ms' ∧ k = text s ∧ IsJson d v ∧ AreMembers es ms'

end

mutual

/-- No value in a datum is a floating-point number. -/
def Floatless : Datum → Prop
  | number (.real _) => False
  | list items | tuple items | set items => FloatlessItems items
  | dict entries => FloatlessEntries entries
  | absent | bool _ | number (.whole _) | text _ | flags _ | state _ | family _ | bytes _
  | buffer _ | peer _ | listing _ | session _ | unknown .. => True

/-- No value in some data is a floating-point number. -/
def FloatlessItems : List Datum → Prop
  | [] => True
  | d :: ds => Floatless d ∧ FloatlessItems ds

/-- No value in some entries is a floating-point number. -/
def FloatlessEntries : List (Datum × Datum) → Prop
  | [] => True
  | (_, v) :: es => Floatless v ∧ FloatlessEntries es

end

theorem floatlessItems_iff {items : List Datum} :
    FloatlessItems items ↔ ∀ d ∈ items, d.Floatless := by
  induction items with
  | nil => simp [FloatlessItems]
  | cons d ds ih => simp [FloatlessItems, ih]

theorem floatlessEntries_iff : FloatlessEntries entries ↔ ∀ e ∈ entries, e.2.Floatless := by
  induction entries with
  | nil => simp [FloatlessEntries]
  | cons e es ih => simp [FloatlessEntries, ih]

/-- The datum has a JSON value, which says what it is; under `P` its numbers are integers. -/
def HasJson (P : Prop) (d : Datum) : Prop :=
  ∃ v, d.json? = some v ∧ d.IsJson v ∧ (P → v.Whole)

theorem HasJson.mono {P Q : Prop} {d : Datum} (h : d.HasJson P) (hq : Q → P) : d.HasJson Q := by
  obtain ⟨v, hv, hd, hwhole⟩ := h
  exact ⟨v, hv, hd, fun q => hwhole (hq q)⟩

/-! ## Lists -/

theorem hasJson_items {P : Prop} : ∀ {items : List Datum}, (∀ d ∈ items, d.HasJson P) →
    ∃ vs, jsonItems? items = some vs ∧ AreJson items vs ∧ (P → Json.WholeItems vs)
  | [], _ => ⟨[], rfl, rfl, fun _ => trivial⟩
  | d :: ds, h => by
    obtain ⟨v, hv, hd, hwhole⟩ := h d (by simp)
    obtain ⟨vs, hvs, hds, hwholes⟩ := hasJson_items fun d (hd : d ∈ ds) => h d (by simp [hd])
    exact ⟨v :: vs, by simp [jsonItems?, hv, hvs], ⟨v, vs, rfl, hd, hds⟩,
      fun hp => ⟨hwhole hp, hwholes hp⟩⟩

theorem hasJson_list {P : Prop} {items : List Datum} (h : ∀ d ∈ items, d.HasJson P) :
    (list items).HasJson P := by
  obtain ⟨vs, hvs, hare, hwhole⟩ := hasJson_items h
  exact ⟨.array vs, by simp [json?, hvs], ⟨vs, rfl, hare⟩, hwhole⟩

/-! ## Dictionaries -/

/-- The keys of some entries are texts. -/
def TextKeyed (entries : List (Datum × Datum)) : Prop := ∀ e ∈ entries, ∃ s, e.1 = text s

theorem sameKey_text (s t : String) : (text s).sameKey (text t) = decide (s = t) := by
  unfold sameKey
  rfl

theorem textKey_text (s : String) : textKey (text s) = text s := congrArg text String.ofList_toList

/-- The entries of a dictionary whose keys are texts, each of them once. -/
structure Keyed (entries : List (Datum × Datum)) : Prop where
  texts : TextKeyed entries
  once : (entries.map Prod.fst).Nodup

theorem keyed_nil : Keyed [] := ⟨by simp [TextKeyed], by simp⟩

/-- A value is put under its key or behind all others. -/
theorem put_text (s : String) (value : Datum) (hk : Keyed entries) :
    (text s ∉ entries.map Prod.fst ∧ put (text s) value entries = entries ++ [(text s, value)]) ∨
    ∃ before old after, entries = before ++ (text s, old) :: after ∧
      put (text s) value entries = before ++ (text s, value) :: after := by
  obtain ⟨htexts, honce⟩ := hk
  induction entries with
  | nil => exact .inl ⟨by simp, rfl⟩
  | cons e rest ih =>
    obtain ⟨k, v⟩ := e
    obtain ⟨t, rfl⟩ : ∃ t, k = text t := htexts (k, v) (by simp)
    by_cases hst : t = s
    · subst hst
      exact .inr ⟨[], v, rest, rfl, by simp [put, sameKey_text]⟩
    · have hput : put (text s) value ((text t, v) :: rest) =
          (text t, v) :: put (text s) value rest := by
        simp [put, sameKey_text, hst]
      rcases ih (fun e he => htexts e (by simp [he])) (List.nodup_cons.1 honce).2 with
        ⟨hnot, heq⟩ | ⟨before, old, after, rfl, heq⟩
      · refine .inl ⟨?_, by rw [hput, heq]; rfl⟩
        simp only [List.map_cons, List.mem_cons, not_or]
        exact ⟨fun h => hst (text.inj h).symm, hnot⟩
      · exact .inr ⟨(text t, v) :: before, old, after, rfl, by rw [hput, heq]; rfl⟩

theorem Keyed.put (hk : Keyed entries) (s : String) (value : Datum) :
    Keyed (put (text s) value entries) := by
  rcases put_text s value hk with ⟨hnot, heq⟩ | ⟨before, old, after, rfl, heq⟩
  · rw [heq]
    refine ⟨?_, ?_⟩
    · intro e he
      rcases List.mem_append.1 he with he | he
      · exact hk.texts e he
      · exact ⟨s, by rw [List.mem_singleton.1 he]⟩
    · rw [List.map_append, List.nodup_append]
      refine ⟨hk.once, by simp, ?_⟩
      rintro k hmem _ hl rfl
      rw [List.map_singleton, List.mem_singleton] at hl
      exact hnot (by rwa [hl] at hmem)
  · rw [heq]
    refine ⟨?_, by simpa using hk.once⟩
    intro e he
    rcases List.mem_append.1 he with he | he
    · exact hk.texts e (by simp [he])
    · rcases List.mem_cons.1 he with rfl | he
      · exact ⟨s, rfl⟩
      · exact hk.texts e (by simp [he])

theorem mem_put {e : Datum × Datum} (he : e ∈ put key value entries) :
    e.2 = value ∨ e ∈ entries := by
  induction entries with
  | nil => exact .inl (by rw [List.mem_singleton.1 he])
  | cons d rest ih =>
    obtain ⟨k, v⟩ := d
    unfold put at he
    split at he
    · rcases List.mem_cons.1 he with rfl | he
      · exact .inl rfl
      · exact .inr (by simp [he])
    · rcases List.mem_cons.1 he with rfl | he
      · exact .inr (by simp)
      · exact (ih he).imp_right fun h => by simp [h]

/-- Entries put one after another: each key once, and no values but those that were put. -/
theorem keyed_foldl_put : ∀ {puts entries : List (Datum × Datum)}, TextKeyed puts →
    Keyed entries → Keyed (puts.foldl (fun d (k, v) => put k v d) entries) ∧
      ∀ e ∈ puts.foldl (fun d (k, v) => put k v d) entries,
        e ∈ entries ∨ ∃ e' ∈ puts, e'.2 = e.2
  | [], _, _, hk => ⟨hk, fun _ he => .inl he⟩
  | (k, v) :: puts, entries, ht, hk => by
    obtain ⟨s, rfl⟩ : ∃ s, k = text s := ht (k, v) (by simp)
    obtain ⟨hkeyed, hfrom⟩ := keyed_foldl_put
      (fun e (he : e ∈ puts) => ht e (by simp [he])) (hk.put s v)
    refine ⟨hkeyed, fun e he => ?_⟩
    rcases hfrom e he with hput | ⟨e', he', hv⟩
    · rcases mem_put hput with hv | hold
      · exact .inr ⟨(text s, v), by simp, hv.symm⟩
      · exact .inl hold
    · exact .inr ⟨e', by simp [he'], hv⟩

/-! ### Sorting -/

/-- The members of an object before they are sorted. -/
def keyedMembers (ms : List (String × Json)) : List (JsonKey × Json) :=
  ms.map fun (s, v) => (.text s, v)

theorem map_name_keyedMembers (ms : List (String × Json)) :
    ((keyedMembers ms).map fun (k, v) => (k.name, v)) = ms := by
  simp [keyedMembers, JsonKey.name, Function.comp_def]

/-- Members with texts as keys can be sorted, and are sorted by these texts. -/
theorem sortedObject?_keyedMembers (ms : List (String × Json)) :
    sortedObject? (keyedMembers ms) =
      some (.object (ms.mergeSort fun a b => decide (a.1 ≤ b.1))) := by
  have hsortable : sortable (keyedMembers ms) = true := by
    match ms with
    | [] | [_] => rfl
    | (s, v) :: m :: ms => simp [keyedMembers, sortable, JsonKey.compares]
  have hordered : ((keyedMembers ms).all fun m => m.1.isOrdered) = true := by
    simp [keyedMembers, JsonKey.isOrdered, JsonKey.le]
  have hsort : (keyedMembers ms).mergeSort (fun a b => a.1.le b.1) =
      keyedMembers (ms.mergeSort fun a b => decide (a.1 ≤ b.1)) := by
    refine (List.map_mergeSort ?_).symm
    intro a _ b _
    rfl
  rw [sortedObject?, if_pos hsortable, sortMembers, if_pos hordered, hsort, map_name_keyedMembers]

theorem hasJson_members {P : Prop} : ∀ {entries : List (Datum × Datum)}, TextKeyed entries →
    (∀ e ∈ entries, e.2.HasJson P) →
    ∃ ms, jsonMembers? entries = some (keyedMembers ms) ∧ AreMembers entries ms ∧
      (ms.map Prod.fst).map text = entries.map Prod.fst ∧ (P → Json.WholeMembers ms)
  | [], _, _ => ⟨[], rfl, rfl, rfl, fun _ => trivial⟩
  | (k, d) :: es, ht, h => by
    obtain ⟨s, rfl⟩ : ∃ s, k = text s := ht (k, d) (by simp)
    obtain ⟨v, hv, hd, hwhole⟩ := h (text s, d) (by simp)
    obtain ⟨ms, hms, hare, hkeys, hwholes⟩ := hasJson_members
      (fun e (he : e ∈ es) => ht e (by simp [he])) fun e he => h e (by simp [he])
    have hkey : jsonKey? (text s) = some (.text s) := rfl
    exact ⟨(s, v) :: ms, by simp [jsonMembers?, hkey, hv, hms, keyedMembers],
      ⟨s, v, ms, rfl, rfl, hd, hare⟩, by simp [hkeys], fun hp => ⟨hwhole hp, hwholes hp⟩⟩

theorem wholeMembers_iff {ms : List (String × Json)} :
    Json.WholeMembers ms ↔ ∀ m ∈ ms, m.2.Whole := by
  induction ms with
  | nil => simp [Json.WholeMembers]
  | cons m ms ih => simp [Json.WholeMembers, ih]

theorem hasJson_dict {P : Prop} (hk : Keyed entries) (h : ∀ e ∈ entries, e.2.HasJson P) :
    (dict entries).HasJson P := by
  obtain ⟨ms, hms, hare, hkeys, hwhole⟩ := hasJson_members hk.texts h
  have hperm := (List.mergeSort_perm ms fun a b => decide (a.1 ≤ b.1)).symm
  have honce : (ms.map Prod.fst).Nodup := List.Nodup.of_map text (hkeys ▸ hk.once)
  refine ⟨.object _, by rw [json?, hms, Option.bind_some, sortedObject?_keyedMembers],
    ⟨ms, _, rfl, hperm, honce, hare⟩, ?_⟩
  intro hp
  refine wholeMembers_iff.2 fun m hm => ?_
  exact wholeMembers_iff.1 (hwhole hp) m (hperm.mem_iff.2 hm)

/-! ## Sanitising -/

theorem floatless_ofText? (s : Option String) : (ofText? s).Floatless := by
  cases s <;> trivial

theorem floatless_peer (p : Peer) : p.toDatum.Floatless := by
  simp [Peer.toDatum, ofFields, integer, Floatless, FloatlessEntries]

theorem floatless_listing (l : Listing) : l.toDatum.Floatless := by
  simp [Listing.toDatum, ofFields, integer, Floatless, FloatlessEntries, floatless_ofText?]

theorem floatless_session (s : Session) : s.toDatum.Floatless := by
  have hpeer : (s.peer.elim absent Peer.toDatum).Floatless := by
    cases s.peer with
    | none => trivial
    | some p => exact floatless_peer p
  have hsocket : (s.socket.elim absent fun k => unknown (Text.intText k.descriptor)).Floatless := by
    cases s.socket <;> trivial
  simp [Session.toDatum, ofFields, integer, Floatless, FloatlessEntries, hpeer, hsocket]

/-- A sanitised dictionary has each key once, a text, and under it a value that was sanitised. -/
theorem exists_sanitised_dict (depth : Nat) (entries : List (Datum × Datum)) :
    ∃ es, (dict entries).sanitised (depth + 1) = dict es ∧ Keyed es ∧
      ∀ e ∈ es, ∃ x ∈ entries, e.2 = x.2.sanitised depth := by
  have htexts : TextKeyed (entries.map fun (k, v) => (textKey k, sanitised depth v)) := by
    intro e he
    obtain ⟨x, -, rfl⟩ := List.mem_map.1 he
    exact ⟨_, rfl⟩
  obtain ⟨hkeyed, hfrom⟩ := keyed_foldl_put htexts keyed_nil
  refine ⟨_, rfl, hkeyed, fun e he => ?_⟩
  rcases hfrom e he with hnone | ⟨e', he', hv⟩
  · cases hnone
  · obtain ⟨x, hx, rfl⟩ := List.mem_map.1 he'
    exact ⟨x, hx, hv.symm⟩

/-- Sanitised data has a JSON value, whatever it was. -/
theorem hasJson_sanitised : ∀ (depth : Nat) (d : Datum),
    (d.sanitised depth).HasJson d.Floatless
  | 0, _ => ⟨_, rfl, rfl, fun _ => trivial⟩
  | depth + 1, d => by
    have ih := hasJson_sanitised depth
    have hitems : ∀ items : List Datum,
        (list (items.map (sanitised depth))).HasJson (FloatlessItems items) := by
      intro items
      refine hasJson_list fun d hd => ?_
      obtain ⟨x, hx, rfl⟩ := List.mem_map.1 hd
      exact (ih x).mono fun h => floatlessItems_iff.1 h x hx
    cases d with
    | absent => exact ⟨_, rfl, rfl, fun _ => trivial⟩
    | bool b => exact ⟨_, rfl, rfl, fun _ => trivial⟩
    | number x =>
      cases x with
      | whole n => exact ⟨_, rfl, rfl, fun _ => trivial⟩
      | real x => exact ⟨_, rfl, rfl, fun h => h⟩
    | text s => exact ⟨_, rfl, rfl, fun _ => trivial⟩
    | flags f => exact ⟨_, rfl, rfl, fun _ => trivial⟩
    | state s => exact ⟨_, rfl, rfl, fun _ => trivial⟩
    | family f => exact ⟨_, rfl, rfl, fun _ => trivial⟩
    | bytes b => exact ⟨_, rfl, rfl, fun _ => trivial⟩
    | buffer b => exact ⟨_, rfl, rfl, fun _ => trivial⟩
    | unknown => exact ⟨_, rfl, rfl, fun _ => trivial⟩
    | list items => exact hitems items
    | tuple items => exact hitems items
    | set items => exact hitems items
    | dict entries =>
      obtain ⟨es, heq, hkeyed, hfrom⟩ := exists_sanitised_dict depth entries
      rw [heq]
      refine hasJson_dict hkeyed fun e he => ?_
      obtain ⟨x, hx, hv⟩ := hfrom e he
      rw [hv]
      exact (ih x.2).mono fun h => floatlessEntries_iff.1 h x hx
    -- a record is sanitised as the dictionary of its fields
    | peer p => exact (ih p.toDatum).mono fun _ => floatless_peer p
    | listing l => exact (ih l.toDatum).mono fun _ => floatless_listing l
    | session s => exact (ih s.toDatum).mono fun _ => floatless_session s

/-! ## Sanitised data with a text -/

theorem itemsWritable_eq_all (items : List Datum) : itemsWritable items = items.all isWritable := by
  induction items with
  | nil => rfl
  | cons d ds ih => rw [itemsWritable, List.all_cons, ih]

theorem entriesWritable_eq_all (entries : List (Datum × Datum)) :
    entriesWritable entries = entries.all fun (k, v) => k.isWritable && v.isWritable := by
  induction entries with
  | nil => rfl
  | cons e es ih => rw [entriesWritable, List.all_cons, ih]

theorem isWritable_ofText? (s : Option String) : (ofText? s).isWritable = true := by
  cases s <;> rfl

theorem isWritable_peer (p : Peer) : p.toDatum.isWritable = p.isWritable := by
  simp [Peer.toDatum, Peer.isWritable, ofFields, integer, isWritable, entriesWritable,
    Family.isWritable_number, Bool.and_assoc]

theorem isWritable_listing (l : Listing) : l.toDatum.isWritable = l.isWritable := by
  simp [Listing.toDatum, Listing.isWritable, ofFields, integer, isWritable, entriesWritable,
    isWritable_ofText?]

theorem isWritable_session (s : Session) : s.toDatum.isWritable = s.isWritable := by
  have hpeer : (s.peer.elim absent Peer.toDatum).isWritable = s.peer.all Peer.isWritable := by
    cases s.peer with
    | none => rfl
    | some p => exact isWritable_peer p
  have hsocket : (s.socket.elim absent fun k =>
      unknown (Text.intText k.descriptor)).isWritable = true := by
    cases s.socket <;> rfl
  simp [Session.toDatum, Session.isWritable, ofFields, integer, isWritable, entriesWritable, hpeer,
    hsocket, Bool.and_assoc]

/-- Data with a text can be sanitised, and what is left of it has a text. -/
theorem sanitised_of_isWritable : ∀ (depth : Nat) {d : Datum}, d.isWritable →
    d.keysWritable depth ∧ (d.sanitised depth).isWritable
  | 0, _, _ => ⟨rfl, rfl⟩
  | depth + 1, d, h => by
    have ih {d : Datum} (h : d.isWritable) := sanitised_of_isWritable depth h
    have hitems {items : List Datum} (h : itemsWritable items) :
        items.all (keysWritable depth) ∧ itemsWritable (items.map (sanitised depth)) := by
      rw [itemsWritable_eq_all, List.all_eq_true] at h
      rw [itemsWritable_eq_all, List.all_eq_true, List.all_map, List.all_eq_true]
      exact ⟨fun d hd => (ih (h d hd)).1, fun d hd => (ih (h d hd)).2⟩
    cases d with
    | peer p => exact ih ((isWritable_peer p).trans h)
    | listing l => exact ih ((isWritable_listing l).trans h)
    | session s => exact ih ((isWritable_session s).trans h)
    | list items => exact hitems h
    | tuple items => exact hitems h
    | set items => exact hitems h
    | dict entries =>
      obtain ⟨es, heq, hkeyed, hfrom⟩ := exists_sanitised_dict depth entries
      rw [isWritable, entriesWritable_eq_all, List.all_eq_true] at h
      have hboth : ∀ e ∈ entries, e.1.isWritable = true ∧ e.2.isWritable = true := fun e he =>
        Bool.and_eq_true_iff.1 (h e he)
      rw [heq, isWritable, entriesWritable_eq_all, keysWritable, List.all_eq_true, List.all_eq_true]
      refine ⟨fun e he => ?_, fun e he => ?_⟩
      · obtain ⟨hk, hv⟩ := hboth e he
        exact Bool.and_eq_true_iff.2 ⟨hk, (ih hv).1⟩
      · obtain ⟨s, hs⟩ := hkeyed.texts e he
        obtain ⟨x, hx, hv⟩ := hfrom e he
        refine Bool.and_eq_true_iff.2 ⟨by rw [hs]; rfl, ?_⟩
        rw [hv]
        exact (ih (hboth x hx).2).2
    | absent | bool | number | text | flags | state | family => exact ⟨rfl, h⟩
    | bytes | buffer | unknown => exact ⟨rfl, rfl⟩

theorem membersWritable_of_perm {ms ms' : List (String × Json)} (h : ms.Perm ms') :
    Json.membersWritable ms = Json.membersWritable ms' := by
  induction h with
  | nil => rfl
  | cons m _ ih => rw [Json.membersWritable, Json.membersWritable, ih]
  | swap m m' ms => simp only [Json.membersWritable, Bool.and_left_comm]
  | trans _ _ ih ih' => exact ih.trans ih'

mutual

/-- A JSON value can be written if and only if the datum that it says has a text. -/
theorem isWritable_of_isJson : ∀ {d : Datum} {v : Json}, d.IsJson v → v.isWritable = d.isWritable
  | absent, _, rfl | bool _, _, rfl | number (.whole _), _, rfl | number (.real _), _, rfl
  | text _, _, rfl | flags _, _, rfl | state _, _, rfl | family _, _, rfl => rfl
  | list _, _, ⟨_, rfl, h⟩ | tuple _, _, ⟨_, rfl, h⟩ => itemsWritable_of_areJson h
  | dict entries, _, ⟨ms, ms', rfl, hperm, _, h⟩ => by
    rw [Json.isWritable, ← membersWritable_of_perm hperm, membersWritable_of_areMembers h,
      isWritable]
  | bytes _, _, h | buffer _, _, h | set _, _, h | peer _, _, h | listing _, _, h
  | session _, _, h | unknown .., _, h => h.elim

theorem itemsWritable_of_areJson : ∀ {items : List Datum} {vs : List Json}, AreJson items vs →
    Json.itemsWritable vs = itemsWritable items
  | [], _, rfl => rfl
  | _ :: _, _, ⟨_, _, rfl, hd, hds⟩ => by
    rw [Json.itemsWritable, itemsWritable, isWritable_of_isJson hd, itemsWritable_of_areJson hds]

theorem membersWritable_of_areMembers : ∀ {entries : List (Datum × Datum)}
    {ms : List (String × Json)}, AreMembers entries ms →
    Json.membersWritable ms = entriesWritable entries
  | [], _, rfl => rfl
  | (_, _) :: _, _, ⟨_, _, _, rfl, rfl, hd, hes⟩ => by
    rw [Json.membersWritable, entriesWritable, isWritable_of_isJson hd,
      membersWritable_of_areMembers hes]
    rfl

end

end Datum
end TcpSessions
