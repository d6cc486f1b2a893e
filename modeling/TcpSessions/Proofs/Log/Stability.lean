import TcpSessions.Proofs.Log.Agreement
import TcpSessions.Proofs.Log.Changes
/-!
# What sanitising leaves

Sanitised data is made of scalars, lists, and dictionaries with texts as keys; it is bounded however
deep the data was, sanitising it once more changes nothing, and of a byte string among the values
nothing is left but its length (`Datum.sanitise_bounded_and_stable`). A byte string that is a key is
written out like any other key (`Datum.sanitise_byte_key`).
-/
namespace TcpSessions

/-- The number of bytes of an address is settled by its family. -/
theorem Address.length_bytes (a : Address) : a.family.addressLength? = some a.bytes.length := by
  cases a with
  | inet b h => exact (congrArg some h).symm
  | inet6 b h => exact (congrArg some h).symm

namespace Datum

variable {limit depth level : Nat} {d e : Datum} {entries : List (Datum × Datum)}

/-! ## Settled data -/

theorem withinItems_iff {items : List Datum} :
    WithinItems limit level items ↔ ∀ d ∈ items, d.Within limit level := by
  induction items with
  | nil => simp [WithinItems]
  | cons d ds ih => simp [WithinItems, ih]

theorem withinEntries_iff :
    WithinEntries limit level entries ↔ ∀ e ∈ entries, e.2.Within limit level := by
  induction entries with
  | nil => simp [WithinEntries]
  | cons e es ih => simp [WithinEntries, ih]

theorem Scalar.within (h : d.Scalar) (hlt : level < limit) : d.Within limit level := by
  cases d with
  | list | dict => exact h.elim
  | _ => simpa only [Within] using hlt

/-- Fit data in which whatever lies inside `depth` containers is the marker. -/
inductive Settled : Nat → Datum → Prop
  | marker : Settled 0 tooDeep
  | scalar {depth : Nat} {d : Datum} (h : d.Scalar) : Settled (depth + 1) d
  | list {depth : Nat} {items : List Datum} (h : ∀ d ∈ items, Settled depth d) :
    Settled (depth + 1) (list items)
  | dict {depth : Nat} {entries : List (Datum × Datum)} (hkeyed : Keyed entries)
    (h : ∀ e ∈ entries, Settled depth e.2) : Settled (depth + 1) (dict entries)

/-- The marker is a text, which may stand anywhere. -/
theorem Settled.succ (h : d.Settled depth) : d.Settled (depth + 1) := by
  induction h with
  | marker => exact .scalar trivial
  | scalar h => exact .scalar h
  | list _ ih => exact .list ih
  | dict hkeyed _ ih => exact .dict hkeyed ih

theorem settled_sanitised : ∀ (depth : Nat) (d : Datum), (d.sanitised depth).Settled depth
  | 0, _ => .marker
  | depth + 1, d => by
    have ih := settled_sanitised depth
    have hitems (items : List Datum) :
        (list (items.map (sanitised depth))).Settled (depth + 1) := by
      refine .list fun d hd => ?_
      obtain ⟨x, -, rfl⟩ := List.mem_map.1 hd
      exact ih x
    cases d with
    | list items => exact hitems items
    | tuple items => exact hitems items
    | set items => exact hitems items
    | dict entries =>
      obtain ⟨es, heq, hkeyed, hfrom⟩ := exists_sanitised_dict depth entries
      rw [heq]
      refine .dict hkeyed fun e he => ?_
      obtain ⟨x, -, hv⟩ := hfrom e he
      rw [hv]
      exact ih x.2
    -- a record takes one level more than is left of it
    | peer p => exact (ih p.toDatum).succ
    | listing l => exact (ih l.toDatum).succ
    | session s => exact (ih s.toDatum).succ
    | absent | bool | number | text | flags | state | family | bytes | buffer | unknown =>
      exact .scalar trivial

theorem Settled.fit (h : d.Settled depth) : d.Fit := by
  induction h with
  | marker => exact .scalar trivial
  | scalar h => exact .scalar h
  | list _ ih => exact .list ih
  | dict hkeyed _ ih => exact .dict hkeyed ih

/-- No value of settled data lies inside more containers than it is settled for. -/
theorem Settled.within (h : d.Settled depth) (hlt : level + depth < limit) :
    d.Within limit level := by
  induction h generalizing level with
  | marker => simpa only [tooDeep, Within, Nat.add_zero] using hlt
  | scalar h => exact h.within (by omega)
  | list _ ih => exact ⟨by omega, withinItems_iff.2 fun d hd => ih d hd (by omega)⟩
  | dict _ _ ih => exact ⟨by omega, withinEntries_iff.2 fun e he => ih e he (by omega)⟩

/-- Sanitising settled data changes nothing. -/
theorem Settled.sanitised_eq (h : d.Settled depth) : d.sanitised depth = d := by
  induction h with
  | marker => rfl
  | scalar h => exact h.sanitised_eq _
  | @list depth items _ ih =>
    have hitems : items.map (sanitised depth) = items :=
      (List.map_congr_left ih).trans (List.map_id items)
    rw [sanitised, hitems]
  | dict hkeyed _ ih =>
    rw [sanitised_dict_keyed (f := id) hkeyed ih]
    refine congrArg Datum.dict ?_
    exact List.map_id _

/-! ## Byte strings -/

/-- The same but for the bytes that a byte string, or the address of an endpoint, is made of; there
are as many of them. -/
inductive SameButBytes : Datum → Datum → Prop
  | bytes {b c : List UInt8} (h : c.length = b.length) : SameButBytes (bytes b) (bytes c)
  | buffer {b c : List UInt8} (h : c.length = b.length) : SameButBytes (buffer b) (buffer c)
  | peer {p : Peer} {a : Address} (h : a.family = p.address.family) :
    SameButBytes (peer p) (peer { p with address := a })
  | session {s : Session} {p : Peer} {a : Address} (h : a.family = p.address.family) :
    SameButBytes (session { s with peer := some p })
      (session { s with peer := some { p with address := a } })

theorem sanitised_bytes {b c : List UInt8} (h : c.length = b.length) (depth : Nat) :
    (bytes b).sanitised depth = (bytes c).sanitised depth := by
  cases depth with
  | zero => rfl
  | succ depth => rw [sanitised, sanitised, h]

theorem sanitised_peer {p : Peer} {a : Address} (h : a.family = p.address.family) (depth : Nat) :
    p.toDatum.sanitised depth = { p with address := a }.toDatum.sanitised depth := by
  have hlength : a.bytes.length = p.address.bytes.length := by
    have ha := a.length_bytes
    rw [h, p.address.length_bytes] at ha
    exact (Option.some.inj ha).symm
  cases depth with
  | zero => rfl
  | succ depth =>
    simp only [Peer.toDatum, ofFields, sanitised, List.map_cons, h, sanitised_bytes hlength]

theorem SameButBytes.sanitised_eq (h : SameButBytes d e) (depth : Nat) :
    d.sanitised depth = e.sanitised depth := by
  cases h with
  | bytes h => exact sanitised_bytes h depth
  | buffer h =>
    cases depth with
    | zero => rfl
    | succ depth => rw [sanitised, sanitised, h]
  | peer h =>
    cases depth with
    | zero => rfl
    | succ depth => exact sanitised_peer h depth
  | session h =>
    rcases depth with _ | _ | depth
    · rfl
    · rfl
    · simp only [sanitised, Session.toDatum, ofFields, List.map_cons, Option.elim_some,
        sanitised_peer h depth, Session.fd]

/-- No record has a key that cannot be written. -/
theorem keysWritable_peer (p : Peer) : ∀ depth, p.toDatum.keysWritable depth = true
  | 0 | 1 | _ + 2 => rfl

theorem SameButBytes.keysWritable_eq (h : SameButBytes d e) (depth : Nat) :
    d.keysWritable depth = e.keysWritable depth := by
  cases h with
  | bytes | buffer => cases depth <;> rfl
  | peer =>
    cases depth with
    | zero => rfl
    | succ depth => exact (keysWritable_peer _ depth).trans (keysWritable_peer _ depth).symm
  | session =>
    rcases depth with _ | _ | depth
    · rfl
    · rfl
    · simp only [keysWritable, Session.toDatum, ofFields, List.map_cons, List.all_cons,
        Option.elim_some, keysWritable_peer, Session.fd]

/-- Sanitising fails on nothing but a key with an integer that is too long. What it makes of other
data is fit, no value in it lies inside more than ten containers, and sanitising it again changes
nothing. Nothing depends on the contents of byte strings that are values. Of data that is fit
already nothing but what lies inside exactly ten containers is replaced. -/
theorem sanitise_bounded_and_stable (d : Datum) :
    ((∃ s, d.sanitise usualDepth = .ok s) ↔ d.keysWritable usualDepth) ∧
      (∀ s, d.sanitise usualDepth = .ok s → s.Fit ∧ s.Within (usualDepth + 1) 0 ∧
        s.sanitise usualDepth = .ok s) ∧
      (∀ e, Changed SameButBytes d e → e.sanitise usualDepth = d.sanitise usualDepth) ∧
      (d.Fit → d.sanitise usualDepth = .ok (d.marked usualDepth 0)) := by
  have hsettled := settled_sanitised usualDepth d
  have hsanitise := sanitise_eq usualDepth d
  refine ⟨?_, fun s hs => ?_, fun e h => ?_, fun h => h.sanitise_eq rfl⟩
  · rw [hsanitise]
    split
    · next hkeys => exact iff_of_true ⟨_, rfl⟩ hkeys
    · next hkeys => exact iff_of_false nofun hkeys
  · rw [hsanitise] at hs
    split at hs
    · obtain rfl := Except.ok.inj hs
      refine ⟨hsettled.fit, hsettled.within (by omega), ?_⟩
      rw [sanitise_eq, if_pos (hsettled.fit.keysWritable usualDepth), hsettled.sanitised_eq]
    · cases hs
  · rw [hsanitise, sanitise_eq, h.keysWritable_eq SameButBytes.keysWritable_eq,
      h.sanitised congruence_eq SameButBytes.sanitised_eq]

/-- What came from an endpoint, under a key of one byte. -/
def greeting (raw : List UInt8) (a : Address) : Datum :=
  dict [(text "raw", buffer raw), (bytes [1], peer ⟨a, 23, 0, 0⟩)]

theorem sanitise_bounded_and_stable_greeting :
    (∃ s, (greeting [13, 10] (.inet [198, 51, 100, 9] rfl)).sanitise usualDepth = .ok s ∧
        (greeting [255, 244] (.inet [192, 0, 2, 1] rfl)).sanitise usualDepth = .ok s ∧
        s.sanitise usualDepth = .ok s) ∧
      (dict [(text "port", integer 23)]).sanitise usualDepth =
        .ok ((dict [(text "port", integer 23)]).marked usualDepth 0) := by
  have hraw : Changed SameButBytes (greeting [255, 244] (.inet [192, 0, 2, 1] rfl))
      (greeting [13, 10] (.inet [192, 0, 2, 1] rfl)) :=
    @Changed.value _ [] _ _ _ _ (.here (.buffer rfl))
  have haddress : Changed SameButBytes (greeting [13, 10] (.inet [192, 0, 2, 1] rfl))
      (greeting [13, 10] (.inet [198, 51, 100, 9] rfl)) :=
    @Changed.value _ [_] _ _ _ _ (.here (.peer rfl))
  obtain ⟨hok, hstable, hsame, -⟩ :=
    sanitise_bounded_and_stable (greeting [255, 244] (.inet [192, 0, 2, 1] rfl))
  obtain ⟨s, hs⟩ := hok.2 (by decide +kernel)
  have hfit : (dict [(text "port", integer 23)]).Fit :=
    .dict ⟨List.forall_mem_singleton.2 ⟨"port", rfl⟩, List.nodup_singleton _⟩
      (List.forall_mem_singleton.2 (.scalar trivial))
  obtain ⟨-, -, -, hcopied⟩ := sanitise_bounded_and_stable (dict [(text "port", integer 23)])
  exact ⟨⟨s, (hsame _ (hraw.trans haddress)).trans hs, hs, (hstable s hs).2.2⟩, hcopied hfit⟩

/-- A byte string that is a key is written out. -/
theorem sanitise_byte_key (b : List UInt8) (value : Datum) (depth : Nat) :
    (dict [(bytes b, value)]).sanitise (depth + 1) = (value.sanitise depth).map fun s =>
      dict [(text (String.ofList (Text.quotedBytes b)), s)] := by
  simp only [sanitise, List.mapM_cons, List.mapM_nil]
  cases value.sanitise depth <;> rfl

/-- What is left of a byte string that is a key depends on more than its length. -/
theorem sanitise_writes_byte_keys :
    (dict [(bytes [115, 101, 99, 114, 101, 116], integer 1)]).sanitise usualDepth =
        .ok (dict [(text "b'secret'", integer 1)]) ∧
      (dict [(bytes [112, 117, 98, 108, 105, 99], integer 1)]).sanitise usualDepth =
        .ok (dict [(text "b'public'", integer 1)]) ∧
      dict [(text "b'secret'", integer 1)] ≠ dict [(text "b'public'", integer 1)] := by
  have hsecret : String.ofList (Text.quotedBytes [115, 101, 99, 114, 101, 116]) = "b'secret'" := by
    decide +kernel
  have hpublic : String.ofList (Text.quotedBytes [112, 117, 98, 108, 105, 99]) = "b'public'" := by
    decide +kernel
  refine ⟨?_, ?_, by simp⟩
  · rw [← hsecret]
    exact sanitise_byte_key _ _ 9
  · rw [← hpublic]
    exact sanitise_byte_key _ _ 9

end Datum
end TcpSessions
