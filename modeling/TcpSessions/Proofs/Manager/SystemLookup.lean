import TcpSessions.Proofs.Address.Packed
import TcpSessions.Proofs.Manager.QuietLookup
/-!
# What the name lookup of the system finds

A literal address is found without a call. Whatever is found fits the family that was asked for, and
it is never nothing.
-/
namespace TcpSessions.Lookup

open Act World

variable {ω : Type} {h : Host ω} {w : World ω} {token : Option TokenId} {family : Family}
variable {bytes : Address.Bytes} {name : String}

/-- A literal address is its own result: no call is made. -/
theorem resolve_of_literal (hl : Address.literal? family name = some bytes) (w : World ω) :
    resolve h token name family w = (.returned [bytes], w) := by
  unfold resolve
  rw [hl]
  rfl

theorem addressLength?_of_literal (hl : Address.literal? family name = some bytes) :
    family.addressLength? = some bytes.length :=
  Address.addressLength?_of_ofText (Address.ofText_of_literal? hl)

/-- Collecting keeps to addresses that have the length of the family. -/
theorem addressLength?_of_collect : ∀ {infos : List AddressInfo} {found all : List Address.Bytes},
    collect family found infos = .ok all →
    (∀ bytes ∈ found, family.addressLength? = some bytes.length) →
    ∀ bytes ∈ all, family.addressLength? = some bytes.length
  | [], found, all, hall, hfound => by
    obtain rfl : found = all := Except.ok.inj hall
    exact hfound
  | info :: rest, found, all, hall, hfound => by
    unfold collect at hall
    by_cases hfamily : info.family = family.number
    · rw [if_pos hfamily] at hall
      cases htext : Address.ofText family (withoutScope info.host) with
      | error e => simp [htext] at hall
      | ok bytes =>
        simp only [htext] at hall
        refine addressLength?_of_collect hall fun b hb => ?_
        split at hb
        · exact hfound b hb
        · rcases List.mem_append.1 hb with hb | hb
          · exact hfound b hb
          · rw [List.mem_singleton.1 hb]
            exact Address.addressLength?_of_ofText htext
    · rw [if_neg hfamily] at hall
      exact addressLength?_of_collect hall hfound

theorem textFailure_not_connection (e : Address.TextError) (id : Int) (errno : Option Int)
    (cancelled : Bool) : (textFailure e).reason ≠ .connection id errno cancelled := by
  cases e <;> simp [textFailure, Failure.of]

theorem collect_not_connection : ∀ {infos : List AddressInfo} {found : List Address.Bytes}
    {f : Failure}, collect family found infos = .error f → ∀ id errno cancelled,
    f.reason ≠ .connection id errno cancelled
  | [], found, f, hf, id, errno, cancelled => by cases hf
  | info :: rest, found, f, hf, id, errno, cancelled => by
    unfold collect at hf
    by_cases hfamily : info.family = family.number
    · rw [if_pos hfamily] at hf
      cases htext : Address.ofText family (withoutScope info.host) with
      | error e =>
        simp only [htext] at hf
        obtain rfl := Except.error.inj hf
        exact textFailure_not_connection e id errno cancelled
      | ok bytes =>
        simp only [htext] at hf
        exact collect_not_connection hf id errno cancelled
    · rw [if_neg hfamily] at hf
      exact collect_not_connection hf id errno cancelled

/-- What is found fits the family and is not nothing. Only the system itself can make the lookup
fail as a connect does. -/
theorem resolve_found (hh : h.Quiet) (name : String) (family : Family) :
    Ends (LookedUp w) (resolve h token name family) w
      (fun found _ => found ≠ [] ∧ ∀ bytes ∈ found, family.addressLength? = some bytes.length)
      (fun f _ => (∀ id errno cancelled, f.reason ≠ .connection id errno cancelled) ∨
        h.environment.MayAnswer (.addressInfo name family) (.error f)) := by
  cases hl : Address.literal? family name with
  | some bytes =>
    refine .of_returned (resolve_of_literal hl w) (.refl w) ⟨by simp, fun b hb => ?_⟩
    rw [List.mem_singleton.1 hb]
    exact addressLength?_of_literal hl
  | none =>
    unfold resolve
    rw [hl]
    refine .quiet_bind hh (fun w' hw' => hw'.lookedUp rfl) fun reply w' hc => ?_
    have hw' := hc.lookedUp rfl
    cases reply with
    | error f =>
      dsimp only
      split
      · exact .notice_bind (.fail (hw'.notice _) (.inl fun _ _ _ hr => by cases hr))
      · exact .fail hw' (.inr hc.mayAnswer)
    | ok infos =>
      refine .ofExcept_bind (fun found hfound => ?_)
        (fun f hf => ⟨hw', .inl (collect_not_connection hf)⟩)
      split
      · exact .fail hw' (.inl fun _ _ _ hr => by cases hr)
      · rename_i hne
        refine .notice_bind (.pure (hw'.notice _) ⟨by simpa using hne, ?_⟩)
        exact addressLength?_of_collect hfound (by simp)

end TcpSessions.Lookup
