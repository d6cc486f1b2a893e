import Mathlib.Data.List.Basic
import Mathlib.Data.List.Nodup
import TcpSessions.Proofs.Session.Handles
import TcpSessions.Proofs.Session.Validity
/-!
# The table as a set of objects in order

Whatever its table is asked, and however sessions change meanwhile, a registry tracks exactly the
objects that were created and not removed, in the order of their creation
(`Tracking.agrees_after`). The objects are told apart by identity: an id that a removed or a foreign
object shares with a tracked one is of no use to it. The ids that objects carry increase in the order
of creation.
-/
namespace TcpSessions

/-- What happens to a table: calls on it, and changes of sessions that it does not see. -/
inductive TableCall
  | create (flags : SessionFlags)
  | remove (ref : SessionRef)
  /-- Removes an object that was made elsewhere and has a given id. -/
  | removeStranger (id : Int)
  | find (handle : Int)
  | iterate
  | size
  /-- The fields of a session change in any way, except for its id. -/
  | change (ref : SessionRef) (fields : Session)

/-- What a call on a table is answered with. -/
inductive TableAnswer
  /-- The new object, and the id that its session has. -/
  | created (ref : SessionRef) (id : Option Int)
  | removed (tracked : Bool)
  | found (ref : Option SessionRef)
  | refs (refs : List SessionRef)
  | count (n : Nat)
  | changed
  deriving DecidableEq, Repr

/-- The answer to a call, and the registry after it. -/
def TableCall.answer (r : Registry) : TableCall → TableAnswer × Registry
  | create flags =>
    let (ref, r') := r.create flags
    (.created ref ((r'.get? ref).map (·.id)), r')
  | remove ref =>
    let (tracked, r') := r.remove ref
    (.removed tracked, r')
  | removeStranger id =>
    let (tracked, r') := r.removeStranger id
    (.removed tracked, r')
  | find handle => (.found (r.findByHandle? handle), r)
  | iterate => (.refs r.table.refs, r)
  | size => (.count r.table.size, r)
  | change ref fields =>
    match r.get? ref with
    | some x => (.changed, r.set ref { fields with id := x.id })
    | none => (.changed, r)

/-- A registry with the calls on its table so far and their answers, latest first. -/
structure Tracking where
  registry : Registry := {}
  past : List (TableCall × TableAnswer) := []

namespace Tracking

/-- One more call. -/
def ask (t : Tracking) (c : TableCall) : Tracking where
  registry := (c.answer t.registry).2
  past := (c, (c.answer t.registry).1) :: t.past

/-- An empty registry after some calls. -/
def after (calls : List TableCall) : Tracking := calls.foldl ask {}

/-- The object that a creation gave out, and the id of its session. -/
def creation? : TableCall × TableAnswer → Option (SessionRef × Option Int)
  | (.create _, .created ref id) => some (ref, id)
  | _ => none

/-- The object of a removal that found it tracked. -/
def removal? : TableCall × TableAnswer → Option SessionRef
  | (.remove ref, .removed true) => some ref
  | _ => none

/-- What was created, in order. -/
def creations (t : Tracking) : List (SessionRef × Option Int) := (t.past.filterMap creation?).reverse

/-- The objects created, in order. -/
def created (t : Tracking) : List SessionRef := t.creations.map (·.1)

/-- The objects that were found tracked when they were removed. -/
def removed (t : Tracking) : List SessionRef := t.past.filterMap removal?

/-- The ids that the sessions of the objects created have now, in the order of creation. -/
def ids (t : Tracking) : List (Option Int) := t.created.map fun ref => (t.registry.get? ref).map (·.id)

/-- The objects created and not removed, in creation order. -/
def tracked (t : Tracking) : List SessionRef := t.created.filter (· ∉ t.removed)

/-- The table does what an ordered set of objects does. -/
structure Agrees (t : Tracking) : Prop where
  iterate : t.registry.table.refs = t.tracked
  /-- Every session still has the id that it had when it was created. -/
  ids : t.ids = t.creations.map (·.2)
  /-- These ids increase in the order of creation, so none is given out twice. -/
  increasing : ∃ ns : List Int, t.ids = ns.map some ∧ ns.Pairwise (· < ·)
  /-- The table lists the tracked objects under their own ids. -/
  listed : ∀ e ∈ t.registry.table.entries, (t.registry.get? e.ref).map (·.id) = some e.id
  distinct : t.created.Nodup
  /-- Each object is removed at most once, and only after it was created. -/
  once : t.removed.Nodup ∧ t.removed ⊆ t.created
  /-- Removing an object finds out whether that very object is tracked, and takes no other away. -/
  remove : ∀ ref, (t.registry.remove ref).1 = decide (ref ∈ t.tracked) ∧
    (t.registry.remove ref).2.table.refs = t.tracked.filter (· ≠ ref) ∧
    (t.registry.remove ref).2.sessions = t.registry.sessions
  refuse : ∀ ref ∉ t.tracked, t.registry.remove ref = (false, t.registry)
  /-- An object that is not tracked is refused under every id. -/
  foreign : ∀ id, ∀ ref ∉ t.tracked,
    t.registry.table.remove id ref = (false, t.registry.table)
  stranger : ∀ id, t.registry.removeStranger id = (false, t.registry)
  find : ∀ handle, t.registry.findByHandle? handle =
    if handle = -1 then none
    else t.tracked.find? fun ref => (t.registry.get? ref).any (·.fd = handle)
  size : t.registry.table.size + t.removed.length = t.created.length

end Tracking

/-! ## One call -/

namespace Registry

variable {r : Registry} {ref : SessionRef} {id : Int} {handle : Int}

/-- An object that is not tracked is refused, whatever id it has. -/
theorem table_remove_of_notMem (hr : ref ∉ r.table.refs) :
    r.table.remove id ref = (false, r.table) := by
  have hnot : r.table.tracks id ref = false := by
    rw [Table.tracks, decide_eq_false_iff_not]
    intro hf
    exact hr (List.mem_map.2 ⟨_, Table.mem_of_lookup? hf, rfl⟩)
  simp [Table.remove, hnot]

theorem remove_of_notMem (hr : ref ∉ r.table.refs) : r.remove ref = (false, r) := by
  unfold remove
  split
  · rw [table_remove_of_notMem hr]
  · rfl

theorem Indexed.index_lt (h : r.Indexed) (hr : ref ∈ r.table.refs) :
    ref.index < r.sessions.length := by
  obtain ⟨x, hx⟩ := h.exists_get? hr
  exact Registry.index_lt hx

/-- An object made elsewhere is none of the tracked ones. -/
theorem Indexed.removeStranger_eq (h : r.Indexed) : r.removeStranger id = (false, r) := by
  have hr : r.stranger ∉ r.table.refs := fun hr => Nat.lt_irrefl _ (h.index_lt hr)
  unfold removeStranger
  rw [table_remove_of_notMem hr]

/-- A removal finds out whether the object is tracked and takes no other away. -/
theorem Indexed.remove_spec (h : r.Indexed) (ref : SessionRef) :
    (r.remove ref).1 = decide (ref ∈ r.table.refs) ∧
      (r.remove ref).2.table.refs = r.table.refs.filter (· ≠ ref) := by
  cases hx : r.get? ref with
  | some x => exact h.remove_eq hx
  | none =>
    have hr : ref ∉ r.table.refs := by
      intro hr
      obtain ⟨x, hx'⟩ := h.exists_get? hr
      rw [hx] at hx'
      cases hx'
    have hkeep : r.table.refs.filter (· ≠ ref) = r.table.refs := by
      refine List.filter_eq_self.2 fun s hs => ?_
      have hne : s ≠ ref := by rintro rfl; exact hr hs
      simpa using hne
    rw [remove_of_notMem hr, hkeep]
    exact ⟨by simp [hr], rfl⟩

/-- A search goes through the tracked objects in order and looks at their present handles. -/
theorem findByHandle?_eq_find? (r : Registry) (handle : Int) :
    r.findByHandle? handle = if handle = -1 then none
      else r.table.refs.find? fun ref => (r.get? ref).any (·.fd = handle) := by
  by_cases hh : handle = -1
  · simp [findByHandle?, Handle.ofInt?, hh]
  · have hsame : ∀ x : Session, x.handle = some ⟨handle, hh⟩ ↔ x.fd = handle :=
      fun x => Session.handle_eq_iff_fd
    simp [findByHandle?, Handle.ofInt?, hh, hsame]

end Registry

namespace Tracking

variable {t : Tracking} {ref : SessionRef} {c : TableCall} {a : TableAnswer} {r : Registry}

/-! ## What the history says after one more call -/

theorem creations_push : creations ⟨r, (c, a) :: t.past⟩ =
    t.creations ++ (creation? (c, a)).toList := by
  cases h : creation? (c, a) <;> simp [creations, h]

theorem created_push : created ⟨r, (c, a) :: t.past⟩ =
    t.created ++ (creation? (c, a)).toList.map (·.1) := by
  simp only [created, creations_push, List.map_append]

theorem removed_push : removed ⟨r, (c, a) :: t.past⟩ =
    (removal? (c, a)).toList ++ t.removed := by
  cases h : removal? (c, a) <;> simp [removed, h]

/-! ## The invariant -/

/-- The registry holds what the history says. -/
structure Records (t : Tracking) : Prop where
  indexed : t.registry.Indexed
  created : t.created = (List.range t.registry.sessions.length).map SessionRef.mk
  refs : t.registry.table.refs = t.tracked
  removed : t.removed.Nodup ∧ t.removed ⊆ t.created
  ids : (t.registry.sessions.map fun x => some x.id) = t.creations.map (·.2)
  increasing : (t.registry.sessions.map (·.id)).Pairwise (· < ·)
  next : ∀ x ∈ t.registry.sessions, x.id < t.registry.table.nextId

theorem records_start : Records {} where
  indexed := Registry.indexed_empty
  created := rfl
  refs := rfl
  removed := ⟨.nil, by simp [Tracking.removed]⟩
  ids := rfl
  increasing := .nil
  next := nofun

namespace Records

/-- A call that creates and removes nothing. -/
theorem idle (ht : t.Records) (hi : r.Indexed)
    (hs : r.sessions.map (·.id) = t.registry.sessions.map (·.id)) (hr : r.table = t.registry.table)
    (hc : creation? (c, a) = none) (hd : removal? (c, a) = none) :
    Records ⟨r, (c, a) :: t.past⟩ := by
  have hcreations : creations ⟨r, (c, a) :: t.past⟩ = t.creations := by simp [creations_push, hc]
  have hcreated : Tracking.created ⟨r, (c, a) :: t.past⟩ = t.created := by
    simp [created_push, hc]
  have hremoved : Tracking.removed ⟨r, (c, a) :: t.past⟩ = t.removed := by
    simp [removed_push, hd]
  constructor
  · exact hi
  · have hlength : r.sessions.length = t.registry.sessions.length := by
      simpa using congrArg List.length hs
    rw [hcreated, hlength]
    exact ht.created
  · rw [tracked, hcreated, hremoved, hr]
    exact ht.refs
  · rw [hcreated, hremoved]
    exact ht.removed
  · rw [hcreations, ← ht.ids]
    simpa [Function.comp_def] using congrArg (List.map some) hs
  · rw [hs]
    exact ht.increasing
  · intro x hx
    have hmem : x.id ∈ t.registry.sessions.map (·.id) := hs ▸ List.mem_map_of_mem hx
    obtain ⟨y, hy, hid⟩ := List.mem_map.1 hmem
    rw [hr, ← hid]
    exact ht.next y hy

theorem newcomer_notMem (ht : t.Records) (flags : SessionFlags) :
    (t.registry.create flags).1 ∉ t.created := by
  rw [ht.created]
  simp [Registry.create]

theorem create (ht : t.Records) (flags : SessionFlags) : (t.ask (.create flags)).Records := by
  have hnew := ht.newcomer_notMem flags
  have hcreations : (t.ask (.create flags)).creations =
      t.creations ++ [((t.registry.create flags).1, some t.registry.table.nextId)] := by
    refine creations_push.trans ?_
    simp only [TableCall.answer, Registry.get?_create_new]
    rfl
  have hcreated : (t.ask (.create flags)).created =
      t.created ++ [(t.registry.create flags).1] := created_push
  have hremoved : (t.ask (.create flags)).removed = t.removed := removed_push
  constructor
  · exact ht.indexed.create flags
  · rw [hcreated, ht.created]
    simp [ask, TableCall.answer, Registry.create, List.range_succ]
  · -- the new object is at the end, and was not removed before
    have hkept : (t.registry.create flags).1 ∉ t.removed := fun h => hnew (ht.removed.2 h)
    rw [tracked, hcreated, hremoved, List.filter_append]
    have hrefs : (t.ask (.create flags)).registry.table.refs =
        t.registry.table.refs ++ [(t.registry.create flags).1] := by
      simp [ask, TableCall.answer, Registry.create, Table.refs, Table.insert]
    rw [hrefs, ht.refs]
    simp [hkept, tracked]
  · rw [hcreated, hremoved]
    exact ⟨ht.removed.1, fun s hs => List.mem_append_left _ (ht.removed.2 hs)⟩
  · rw [hcreations, List.map_append, ← ht.ids]
    simp [ask, TableCall.answer, Registry.create]
  · show ((t.registry.create flags).2.sessions.map (·.id)).Pairwise (· < ·)
    simp only [Registry.create, List.map_append, List.map_singleton]
    refine List.pairwise_append.2 ⟨ht.increasing, List.pairwise_singleton _ _, ?_⟩
    intro i hi j hj
    obtain ⟨x, hx, rfl⟩ := List.mem_map.1 hi
    obtain rfl := List.mem_singleton.1 hj
    exact ht.next x hx
  · intro x hx
    show x.id < t.registry.table.nextId + 1
    rcases List.mem_append.1 hx with hx | hx
    · have := ht.next x hx
      omega
    · rw [List.mem_singleton.1 hx]
      show t.registry.table.nextId < t.registry.table.nextId + 1
      omega

theorem remove (ht : t.Records) (ref : SessionRef) : (t.ask (.remove ref)).Records := by
  by_cases hr : ref ∈ t.registry.table.refs
  · obtain ⟨hanswer, hrefs⟩ := ht.indexed.remove_spec ref
    have htracked : (t.registry.remove ref).1 = true := by simp [hanswer, hr]
    have heq : t.ask (.remove ref) =
        ⟨(t.registry.remove ref).2, (.remove ref, .removed true) :: t.past⟩ := by
      simp [ask, TableCall.answer, htracked]
    have hcreations : (t.ask (.remove ref)).creations = t.creations := by
      rw [heq, creations_push]
      exact List.append_nil _
    have hcreated : (t.ask (.remove ref)).created = t.created := by
      simp only [Tracking.created, hcreations]
    have hremoved : (t.ask (.remove ref)).removed = ref :: t.removed := by
      rw [heq, removed_push]
      rfl
    obtain ⟨hmem, hfresh⟩ : ref ∈ t.created ∧ ref ∉ t.removed := by
      rw [ht.refs] at hr
      simpa [tracked] using hr
    constructor
    · exact ht.indexed.remove ref
    · rw [hcreated, ht.created]
      simp [ask, TableCall.answer]
    · show (t.registry.remove ref).2.table.refs = _
      rw [hrefs, ht.refs, tracked, tracked, hcreated, hremoved, List.filter_filter]
      refine List.filter_congr fun s _ => ?_
      simp [not_or]
    · rw [hcreated, hremoved]
      refine ⟨List.nodup_cons.2 ⟨hfresh, ht.removed.1⟩, ?_⟩
      exact List.cons_subset.2 ⟨hmem, ht.removed.2⟩
    · rw [hcreations, ← ht.ids, heq, Registry.sessions_remove]
    · rw [heq, Registry.sessions_remove]
      exact ht.increasing
    · rw [heq, Registry.sessions_remove, Registry.nextId_remove]
      exact ht.next
  · have heq : t.ask (.remove ref) = ⟨t.registry, (.remove ref, .removed false) :: t.past⟩ := by
      simp [ask, TableCall.answer, Registry.remove_of_notMem hr]
    rw [heq]
    exact ht.idle ht.indexed rfl rfl rfl rfl

theorem change (ht : t.Records) (ref : SessionRef) (fields : Session) :
    (t.ask (.change ref fields)).Records := by
  cases hx : t.registry.get? ref with
  | none =>
    have heq : t.ask (.change ref fields) =
        ⟨t.registry, (.change ref fields, .changed) :: t.past⟩ := by
      simp [ask, TableCall.answer, hx]
    rw [heq]
    exact ht.idle ht.indexed rfl rfl rfl rfl
  | some x =>
    have heq : t.ask (.change ref fields) =
        ⟨t.registry.set ref { fields with id := x.id },
          (.change ref fields, .changed) :: t.past⟩ := by
      simp [ask, TableCall.answer, hx]
    rw [heq]
    refine ht.idle (ht.indexed.set hx rfl) ?_ rfl rfl rfl
    show (t.registry.sessions.set ref.index _).map (·.id) = _
    obtain ⟨hi, rfl⟩ := List.getElem?_eq_some_iff.1 hx
    have hmap : ref.index < (t.registry.sessions.map (·.id)).length := by simpa using hi
    have hself := List.set_getElem_self hmap
    rw [List.getElem_map] at hself
    rw [List.map_set]
    exact hself

theorem ask (ht : t.Records) (c : TableCall) : (t.ask c).Records := by
  cases c with
  | create flags => exact ht.create flags
  | remove ref => exact ht.remove ref
  | removeStranger id =>
    have heq : t.ask (.removeStranger id) =
        ⟨t.registry, (.removeStranger id, .removed false) :: t.past⟩ := by
      simp [Tracking.ask, TableCall.answer, ht.indexed.removeStranger_eq]
    rw [heq]
    exact ht.idle ht.indexed rfl rfl rfl rfl
  | change ref fields => exact ht.change ref fields
  | find handle => exact ht.idle ht.indexed rfl rfl rfl rfl
  | iterate => exact ht.idle ht.indexed rfl rfl rfl rfl
  | size => exact ht.idle ht.indexed rfl rfl rfl rfl

theorem distinct (ht : t.Records) : t.created.Nodup := by
  rw [ht.created]
  exact List.nodup_range.map fun i j h => SessionRef.mk.inj h

/-- Of the objects created, some are tracked and the others were removed. -/
theorem length_tracked (ht : t.Records) :
    t.tracked.length + t.removed.length = t.created.length := by
  have hremoved : (t.created.filter (· ∈ t.removed)).Perm t.removed := by
    refine (List.perm_ext_iff_of_nodup (ht.distinct.filter _) ht.removed.1).2 fun s => ?_
    simpa using fun hs => ht.removed.2 hs
  have hsplit := List.length_eq_length_filter_add (l := t.created) (decide <| · ∈ t.removed)
  rw [hremoved.length_eq] at hsplit
  simp only [tracked, decide_not]
  omega

/-- The ids of the objects created are those of the sessions that there are. -/
theorem ids_eq (ht : t.Records) : t.ids = t.registry.sessions.map fun x => some x.id := by
  unfold Tracking.ids
  rw [ht.created]
  refine List.ext_getElem (by simp) fun i hi _ => ?_
  have hi : i < t.registry.sessions.length := by simpa using hi
  simp [Registry.get?, hi]

theorem agrees (ht : t.Records) : t.Agrees where
  iterate := ht.refs
  ids := ht.ids_eq.trans ht.ids
  increasing := by
    refine ⟨t.registry.sessions.map (·.id), ?_, ht.increasing⟩
    rw [ht.ids_eq, List.map_map]
    rfl
  listed := by
    intro e he
    obtain ⟨x, hx, hid⟩ := ht.indexed.entry e he
    rw [hx, Option.map_some, hid]
  distinct := ht.distinct
  once := ht.removed
  remove := by
    intro ref
    obtain ⟨hanswer, hrefs⟩ := ht.indexed.remove_spec ref
    rw [← ht.refs]
    exact ⟨hanswer, hrefs, Registry.sessions_remove⟩
  refuse := by
    intro ref hr
    rw [← ht.refs] at hr
    exact Registry.remove_of_notMem hr
  foreign := by
    intro id ref hr
    rw [← ht.refs] at hr
    exact Registry.table_remove_of_notMem hr
  stranger := fun id => ht.indexed.removeStranger_eq
  find := by
    intro handle
    rw [← ht.refs]
    exact t.registry.findByHandle?_eq_find? handle
  size := by
    have hlen : t.registry.table.size = t.tracked.length := by
      rw [← ht.refs, Table.refs, List.length_map]
      rfl
    rw [hlen]
    exact ht.length_tracked

end Records

theorem records_after (calls : List TableCall) : (after calls).Records := by
  suffices ∀ t : Tracking, t.Records → (calls.foldl Tracking.ask t).Records from
    this {} records_start
  induction calls with
  | nil => exact fun t ht => ht
  | cons c calls ih => exact fun t ht => ih (t.ask c) (ht.ask c)

/-- After any calls on its table, with sessions changed behind it in any way, a registry tracks the
objects created and not removed, and answers every call accordingly. -/
theorem agrees_after (calls : List TableCall) : (after calls).Agrees := (records_after calls).agrees

/-- A removed object and a foreign one with the id of a tracked one are refused alike, a session
whose handle is set behind the table is found, and the id of a removed object is not given out
again. -/
theorem agrees_after_removing :
    let t := after [.create .none, .create .none, .remove ⟨1⟩, .removeStranger 1, .remove ⟨1⟩,
      .find (-1), .change ⟨0⟩ { id := 7, handle := Handle.ofInt? 4 }, .find 4, .create .none, .iterate]
    t.Agrees ∧ t.ids = [some 1, some 2, some 3] ∧ (t.past.map (·.2)).reverse =
      [.created ⟨0⟩ (some 1), .created ⟨1⟩ (some 2), .removed true, .removed false, .removed false,
        .found none, .changed, .found (some ⟨0⟩), .created ⟨2⟩ (some 3), .refs [⟨0⟩, ⟨2⟩]] := by
  intro t
  exact ⟨agrees_after _, by decide, by decide⟩

end Tracking
end TcpSessions
