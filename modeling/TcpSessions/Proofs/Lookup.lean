import Mathlib.Data.List.Forall2
import Mathlib.Data.List.TakeWhile
import TcpSessions.Proofs.Manager.SystemLookup
/-!
# What a name resolves to

`resolve_exact` is the contract of the name lookup through the system. A literal stands for itself.
Otherwise the system is asked, and of its entries those of the family count: each is read up to its
scope, and an address that was found before is dropped. The contract speaks of the entries by
`Reads`, and `collect_of_reads` says that going through them one after another comes to that.
-/
namespace TcpSessions.Lookup

open Act World

variable {ω : Type} {h : Host ω} {w u : World ω} {token : Option TokenId} {family : Family}
variable {name host text : String} {infos : List AddressInfo}
variable {found all packed : List Address.Bytes}

/-! ## Reading one entry -/

/-- `text` is what stands in `host` before its first percent sign. -/
def Cut (host text : String) : Prop :=
  '%' ∉ text.toList ∧ (host = text ∨ ∃ scope, host = text ++ "%" ++ scope)

/-- What stands before the first `c` is what has no `c` and ends where the list or `c` does. -/
theorem takeWhile_ne_eq_iff {c : Char} {cs before : List Char} :
    cs.takeWhile (· ≠ c) = before ↔
      c ∉ before ∧ (cs = before ∨ ∃ after, cs = before ++ c :: after) := by
  constructor
  · rintro rfl
    refine ⟨fun hc => by simpa using List.mem_takeWhile_imp hc, ?_⟩
    have hsplit := List.takeWhile_append_dropWhile (p := (· ≠ c)) (l := cs)
    cases hrest : cs.dropWhile (· ≠ c) with
    | nil =>
      rw [hrest, List.append_nil] at hsplit
      exact .inl hsplit.symm
    | cons d after =>
      have hd : d = c := by
        have := List.head_dropWhile_not (· ≠ c) (l := cs) (by rw [hrest]; simp)
        simpa only [hrest, List.head_cons, decide_eq_false_iff_not, not_not] using this
      rw [hrest, hd] at hsplit
      exact .inr ⟨after, hsplit.symm⟩
  · rintro ⟨hc, hcs⟩
    have hpos : ∀ d ∈ before, decide (d ≠ c) = true := by
      intro d hd
      simpa using fun he : d = c => hc (he ▸ hd)
    rcases hcs with rfl | ⟨after, rfl⟩
    · exact List.takeWhile_eq_self_iff.2 hpos
    · rw [List.takeWhile_append_of_pos hpos]
      simp

/-- There is one way to cut a host text. -/
theorem cut_iff : Cut host text ↔ withoutScope host = text := by
  rw [withoutScope, ← String.toList_inj, String.toList_ofList, takeWhile_ne_eq_iff]
  refine and_congr_right fun _ => or_congr String.toList_inj.symm ⟨?_, ?_⟩
  · rintro ⟨scope, rfl⟩
    exact ⟨scope.toList, by simp⟩
  · rintro ⟨scope, hscope⟩
    exact ⟨String.ofList scope, String.toList_inj.1 (by simp [hscope])⟩

/-- An entry names the address that its host text, cut at its first percent sign, is a literal
of. -/
def Reads (family : Family) (info : AddressInfo) (bytes : Address.Bytes) : Prop :=
  ∃ text, Cut info.host text ∧ Address.literal? family text = some bytes

theorem reads_iff {info : AddressInfo} {bytes : Address.Bytes} :
    Reads family info bytes ↔ Address.ofText family (withoutScope info.host) = .ok bytes := by
  constructor
  · rintro ⟨text, hcut, hliteral⟩
    rw [cut_iff.1 hcut]
    exact Address.ofText_of_literal? hliteral
  · intro htext
    exact ⟨_, cut_iff.2 rfl, by simp [Address.literal?, htext, Except.toOption]⟩

/-! ## Going through the entries -/

/-- The entries of a family. -/
def entriesOf (family : Family) (infos : List AddressInfo) : List AddressInfo :=
  infos.filter fun info => info.family = family.number

theorem exists_forall₂_reads : ∀ (infos : List AddressInfo),
    (∀ info ∈ infos, info.family = family.number → ∃ bytes, Reads family info bytes) →
    ∃ packed, List.Forall₂ (Reads family) (entriesOf family infos) packed
  | [], _ => ⟨[], .nil⟩
  | info :: rest, hread => by
    obtain ⟨packed, hpacked⟩ := exists_forall₂_reads rest fun i hi =>
      hread i (List.mem_cons_of_mem _ hi)
    by_cases hfamily : info.family = family.number
    · obtain ⟨bytes, hbytes⟩ := hread info (by simp) hfamily
      exact ⟨bytes :: packed, by simpa [entriesOf, hfamily] using ⟨hbytes, hpacked⟩⟩
    · exact ⟨packed, by simpa [entriesOf, hfamily] using hpacked⟩

/-- Entries of other families are passed over. -/
theorem collect_entriesOf : ∀ (infos : List AddressInfo) (found : List Address.Bytes),
    collect family found infos = collect family found (entriesOf family infos)
  | [], _ => rfl
  | info :: rest, found => by
    by_cases hfamily : info.family = family.number
    · have hcons : entriesOf family (info :: rest) = info :: entriesOf family rest := by
        simp [entriesOf, hfamily]
      rw [hcons, collect, collect, if_pos hfamily, if_pos hfamily]
      cases Address.ofText family (withoutScope info.host) with
      | error e => rfl
      | ok bytes => exact collect_entriesOf rest _
    · have hrest : entriesOf family (info :: rest) = entriesOf family rest := by
        simp [entriesOf, hfamily]
      rw [hrest, collect, if_neg hfamily]
      exact collect_entriesOf rest found

/-- What the entries read as is appended without what was there already and without repetitions. -/
theorem collect_of_reads (hread : List.Forall₂ (Reads family) infos packed)
    (hfamily : ∀ info ∈ infos, info.family = family.number) (found : List Address.Bytes) :
    collect family found infos = .ok (found ++ (packed.filter (· ∉ found)).eraseDups) := by
  induction hread generalizing found with
  | nil => simp [collect]
  | @cons info bytes rest packed hinfo hrest ih =>
    have hfamily' : ∀ info ∈ rest, info.family = family.number := fun i hi =>
      hfamily i (List.mem_cons_of_mem _ hi)
    rw [collect, if_pos (hfamily info (by simp)), reads_iff.1 hinfo]
    dsimp only
    rw [ih hfamily']
    by_cases hmem : bytes ∈ found
    · simp [hmem]
    · have hlater : (packed.filter (· ∉ found)).filter (fun b => !b == bytes) =
          packed.filter (· ∉ found ++ [bytes]) := by
        rw [List.filter_filter]
        refine List.filter_congr fun b _ => ?_
        by_cases hb : b = bytes <;> simp [hb]
      rw [if_neg hmem, List.filter_cons_of_pos (by simpa using hmem), List.eraseDups_cons, hlater,
        List.append_assoc, List.singleton_append]

/-- Entries that differ in their scope alone count once, and one of another family need not read. -/
example : (collect .inet6 []
    [⟨10, "fe80::1%eth0"⟩, ⟨2, "no address"⟩, ⟨10, "fe80::1%eth1"⟩]).toOption =
      some [[0xfe, 0x80, 0, 0, 0, 0, 0, 0, 0, 0, 0, 0, 0, 0, 0, 1]] := by
  decide +kernel

/-- Collecting adds no address a second time. -/
theorem nodup_collect : ∀ {infos : List AddressInfo} {found : List Address.Bytes},
    collect family found infos = .ok all → found.Nodup → all.Nodup
  | [], found, hall, hfound => by
    obtain rfl : found = all := Except.ok.inj hall
    exact hfound
  | info :: rest, found, hall, hfound => by
    unfold collect at hall
    split at hall
    · split at hall
      · cases hall
      · refine nodup_collect hall ?_
        split
        · exact hfound
        · rename_i hmem
          refine List.nodup_append.2 ⟨hfound, List.nodup_singleton _, fun a ha b hb he => ?_⟩
          obtain rfl := List.mem_singleton.1 hb
          exact hmem (he ▸ ha)
    · exact nodup_collect hall hfound

/-! ## The lookup -/

/-- How a lookup ends by what was collected. -/
def conclusion (name : String) (family : Family) :
    Except Failure (List Address.Bytes) → Outcome (List Address.Bytes)
  | .error f => .failed f
  | .ok found =>
    if found.isEmpty then
      .failed (.of (.resolution name (some ("no " ++ family.name ++ " addresses"))))
    else .returned found

/-- The end of a lookup whose entries of the family all read. -/
theorem conclusion_of_reads (hread : List.Forall₂ (Reads family) (entriesOf family infos) packed) :
    conclusion name family (collect family [] infos) =
      if packed = [] then
        .failed (.of (.resolution name (some ("no " ++ family.name ++ " addresses"))))
      else .returned packed.eraseDups := by
  have hfamily : ∀ info ∈ entriesOf family infos, info.family = family.number := fun info hi => by
    simpa using (List.mem_filter.1 hi).2
  rw [collect_entriesOf, collect_of_reads hread hfamily]
  cases packed with
  | nil => rfl
  | cons bytes packed => simp [conclusion, List.eraseDups_cons]

section
variable (hl : Address.literal? family name = none)
include hl

theorem resolve_of_infos
    (hcall : h.call token (.addressInfo name family) w = (.returned (.ok infos), u)) :
    (resolve h token name family w).1 = conclusion name family (collect family [] infos) := by
  unfold resolve
  rw [hl]
  dsimp only
  rw [bind_eq hcall]
  dsimp only
  cases hfound : collect family [] infos with
  | error f => rfl
  | ok found =>
    rw [bind_eq (m := Act.ofExcept (.ok found)) (w := u) rfl]
    unfold conclusion
    dsimp only
    split <;> rfl

/-- A refused lookup fails for its own reason, and with the failure of the call otherwise. -/
theorem resolve_of_error {f : Failure}
    (hcall : h.call token (.addressInfo name family) w = (.returned (.error f), u)) :
    (resolve h token name family w).1 =
      .failed ((refusal? f).elim f fun detail => ⟨.resolution name detail, some f, none⟩) := by
  unfold resolve
  rw [hl]
  dsimp only
  rw [bind_eq hcall]
  dsimp only
  cases refusal? f <;> rfl

theorem resolve_of_stalled (hcall : h.call token (.addressInfo name family) w = (.stalled, u)) :
    resolve h token name family w = (.stalled, u) := by
  unfold resolve
  rw [hl]
  exact bind_stalled hcall _

end

/-- What is returned fits the family, has no repetition and is not nothing; only two families have
addresses at all. -/
structure Fits (family : Family) (found : List Address.Bytes) : Prop where
  ne_nil : found ≠ []
  nodup : found.Nodup
  lengths : (family = .inet ∧ ∀ bytes ∈ found, bytes.length = 4) ∨
    (family = .inet6 ∧ ∀ bytes ∈ found, bytes.length = 16)

/-- Addresses that have the length of the family have it for one of two families. -/
theorem Fits.of_addressLength? (hne : found ≠ []) (hnodup : found.Nodup)
    (hlength : ∀ bytes ∈ found, family.addressLength? = some bytes.length) : Fits family found := by
  refine ⟨hne, hnodup, ?_⟩
  obtain ⟨first, rest, rfl⟩ := List.exists_cons_of_ne_nil hne
  have hfirst := hlength first (by simp)
  cases family with
  | inet => exact .inl ⟨rfl, fun b hb => (Option.some.inj (hlength b hb)).symm⟩
  | inet6 => exact .inr ⟨rfl, fun b hb => (Option.some.inj (hlength b hb)).symm⟩
  | _ => cases hfirst

theorem fits_literal {bytes : Address.Bytes} (hl : Address.literal? family name = some bytes) :
    Fits family [bytes] :=
  .of_addressLength? (by simp) (List.nodup_singleton _) fun b hb => by
    rw [List.mem_singleton.1 hb]
    exact addressLength?_of_literal hl

theorem fits_of_conclusion
    (hfound : conclusion name family (collect family [] infos) = .returned found) :
    Fits family found := by
  cases hall : collect family [] infos with
  | error f => simp [hall, conclusion] at hfound
  | ok all =>
    simp only [hall, conclusion] at hfound
    split at hfound
    · cases hfound
    · rename_i hne
      obtain rfl := Outcome.returned.inj hfound
      exact .of_addressLength? (by simpa using hne) (nodup_collect hall List.nodup_nil)
        (addressLength?_of_collect hall (by simp))

/-- What the lookup of a name comes to, by what the system says. -/
structure Exact (h : Host ω) (token : Option TokenId) (name : String) (family : Family)
    (w : World ω) : Prop where
  /-- A literal is its own result: nothing is asked, and nothing else happens. -/
  literal : ∀ bytes, Address.literal? family name = some bytes →
    resolve h token name family w = (.returned [bytes], w)
  /-- For any other name the system is asked, which it answers unless the run gives up first. -/
  asked : Address.literal? family name = none →
    (∃ reply u, h.call token (.addressInfo name family) w = (.returned reply, u)) ∨
    ∃ u, h.call token (.addressInfo name family) w = (.stalled, u) ∧
      resolve h token name family w = (.stalled, u)
  /-- The system does not know the name. -/
  unknown : Address.literal? family name = none → ∀ f detail u,
    h.call token (.addressInfo name family) w = (.returned (.error f), u) →
    f.reason = .system .nameLookup detail →
    (resolve h token name family w).1 =
      .failed ⟨.resolution name detail.strerror?, some f, none⟩
  /-- The name cannot be put to the system. -/
  unencodable : Address.literal? family name = none → ∀ f detail u,
    h.call token (.addressInfo name family) w = (.returned (.error f), u) →
    f.reason = .fault .unicode detail →
    (resolve h token name family w).1 =
      .failed ⟨.resolution name (some detail.faultText), some f, none⟩
  /-- Anything else that goes wrong in the call goes on as it is. -/
  passed : Address.literal? family name = none → ∀ f u,
    h.call token (.addressInfo name family) w = (.returned (.error f), u) →
    (∀ detail, f.reason ≠ .system .nameLookup detail) →
    (∀ detail, f.reason ≠ .fault .unicode detail) →
    (resolve h token name family w).1 = .failed f
  /-- Every entry of the family reads: the result is what they read as, in order and each once. -/
  found : Address.literal? family name = none → ∀ infos u,
    h.call token (.addressInfo name family) w = (.returned (.ok infos), u) →
    (∀ info ∈ infos, info.family = family.number → ∃ bytes, Reads family info bytes) →
    ∃ packed, List.Forall₂ (Reads family) (entriesOf family infos) packed ∧
      (resolve h token name family w).1 =
        if packed = [] then
          .failed (.of (.resolution name (some ("no " ++ family.name ++ " addresses"))))
        else .returned packed.eraseDups
  /-- Entries of other families do not matter, whatever they hold: replies that agree on the
  entries of the family lead to the same end, in whatever surroundings they are given. -/
  others : Address.literal? family name = none →
    ∀ {ω' : Type} (h' : Host ω') (token' : Option TokenId) (w' : World ω') infos infos' u u',
    h.call token (.addressInfo name family) w = (.returned (.ok infos), u) →
    h'.call token' (.addressInfo name family) w' = (.returned (.ok infos'), u') →
    entriesOf family infos = entriesOf family infos' →
    (resolve h token name family w).1 = (resolve h' token' name family w').1
  fits : ∀ found u, resolve h token name family w = (.returned found, u) → Fits family found

/-- The contract of the lookup, for every name, every family and whatever the system says. -/
theorem resolve_exact (h : Host ω) (token : Option TokenId) (name : String) (family : Family)
    (w : World ω) : Exact h token name family w where
  literal _ hl := resolve_of_literal hl w
  asked hl := by
    rcases h.call_returned_or_stalled token (.addressInfo name family) w with hcall | ⟨u, hcall⟩
    · exact .inl hcall
    · exact .inr ⟨u, hcall, resolve_of_stalled hl hcall⟩
  unknown hl f detail u hcall hf := by
    rw [resolve_of_error hl hcall, refusal?, hf]
    rfl
  unencodable hl f detail u hcall hf := by
    rw [resolve_of_error hl hcall, refusal?, hf]
    rfl
  passed hl f u hcall hlookup hunicode := by
    have hnone : refusal? f = none := by
      unfold refusal?
      split
      · exact absurd ‹_› (hlookup _)
      · exact absurd ‹_› (hunicode _)
      · rfl
    rw [resolve_of_error hl hcall, hnone]
    rfl
  found hl infos u hcall hread := by
    obtain ⟨packed, hpacked⟩ := exists_forall₂_reads infos hread
    exact ⟨packed, hpacked, (resolve_of_infos hl hcall).trans (conclusion_of_reads hpacked)⟩
  others hl _ h' token' w' infos infos' u u' hcall hcall' hentries := by
    rw [resolve_of_infos hl hcall, resolve_of_infos hl hcall', collect_entriesOf infos,
      collect_entriesOf infos', hentries]
  fits found u hfound := by
    cases hl : Address.literal? family name with
    | some bytes =>
      rw [resolve_of_literal hl] at hfound
      obtain rfl := Outcome.returned.inj (Prod.mk.inj hfound).1
      exact fits_literal hl
    | none =>
      rcases h.call_returned_or_stalled token (.addressInfo name family) w with
        ⟨reply, v, hcall⟩ | ⟨v, hcall⟩
      · cases reply with
        | ok infos =>
          have hend := resolve_of_infos hl hcall
          rw [hfound] at hend
          exact fits_of_conclusion hend.symm
        | error f =>
          have hfailed := resolve_of_error hl hcall
          rw [hfound] at hfailed
          cases hfailed
      · rw [resolve_of_stalled hl hcall] at hfound
        cases hfound

end TcpSessions.Lookup
