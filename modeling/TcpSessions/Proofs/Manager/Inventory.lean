import TcpSessions.Manager.Inventory
import TcpSessions.Proofs.Work.Calls
/-!
# Listing only takes steps

Whatever is nested in the lookups of a listing, a row shows the endpoint that its session had when
the listing began (`Session.Shows`).
-/
namespace TcpSessions

/-- The address and the port of a row are those of the session's endpoint. -/
def Session.Shows (x : Session) (row : Listing) : Prop :=
  ∀ address, row.peerAddress = some address →
    ∃ p, x.peer = some p ∧ p.host = address ∧ (p.port.toNat : Int) = row.peerPort

/-- Closing a session leaves its endpoint. -/
theorem Session.Kept.peer_eq {past : List Event} {x x' : Session} (h : x.Kept past x') :
    x'.peer = x.peer := by
  rcases h with rfl | ⟨-, rfl, -⟩
  · rfl
  · rfl

namespace Manager

open Act World

variable {ω : Type} {h : Host ω} {w w₀ : World ω}

theorem lookup_reverse_ends (hh : h.Sound) (hw : Since h.environment w₀ w)
    (bytes : Address.Bytes) (family : Family) :
    Ends (Since h.environment w₀) (Lookup.reverse h bytes family) w (fun _ _ => True)
      (fun _ _ => True) := by
  unfold Lookup.reverse
  cases Address.ofBytes? family bytes with
  | none => exact .pure hw trivial
  | some address =>
    refine .call_bind hh hw (by simp [Call.startsAttempt]) fun w₁ reply _ h₁ _ => ?_
    have h₂ := h₁.leave (.hostByAddress address.text) reply
      (by cases reply <;> rfl)
    cases reply with
    | ok name => exact .pure h₂ trivial
    | error f =>
      dsimp only
      split
      · exact .pure h₂ trivial
      · exact .fail h₂ trivial

theorem reverse_ends (m : Manager) (hh : h.Sound) (hw : Since h.environment w₀ w)
    (address : Address) :
    Ends (Since h.environment w₀) (m.reverse h address) w (fun _ _ => True) (fun _ _ => True) := by
  unfold reverse
  split
  · exact lookup_reverse_ends hh hw address.bytes address.family
  · refine .call_bind hh hw (by simp [Call.startsAttempt]) fun w₁ reply _ h₁ _ => ?_
    have h₂ := h₁.leave (.reverse address) reply (by cases reply <;> rfl)
    cases reply with
    | ok name => exact .of_returned rfl h₂ trivial
    | error f => exact .fail h₂ trivial

theorem listingOf_ends (m : Manager) (hh : h.Sound) (hw : Since h.environment w₀ w)
    (ref : SessionRef) :
    Ends (Since h.environment w₀) (m.listingOf h ref) w
      (fun row _ => ∀ x, w₀.now.registry.get? ref = some x → x.Shows row) (fun _ _ => True) := by
  have hpeer : ∀ x y, w₀.now.registry.get? ref = some x → w.now.registry.get? ref = some y →
      y.peer = x.peer := by
    intro x y hx hy
    obtain ⟨x', hx', hk⟩ := hw.kept hx
    obtain rfl := Option.some.inj (hx'.symm.trans hy)
    exact hk.peer_eq
  unfold listingOf
  refine .session_bind (fun y hy => ?_) (fun _ => ⟨hw, fun _ => trivial⟩)
  cases hp : y.peer with
  | none =>
    refine .session_bind (fun z _ => .pure hw fun x hx address ha => ?_)
      (fun _ => ⟨hw, fun _ => trivial⟩)
    cases ha
  | some peer =>
    refine .bind (reverse_ends m hh hw peer.address) fun name w₁ h₁ _ => ?_
    refine .session_bind (fun z _ => .pure h₁ fun x hx address ha => ?_)
      (fun _ => ⟨h₁, fun _ => trivial⟩)
    exact ⟨peer, (hpeer x y hx hy).symm.trans hp, Option.some.inj ha, rfl⟩

/-- The rows of a listing are those of some of the sessions, in their order. -/
def Listed (w : World ω) (refs : List SessionRef) (rows : List Listing) : Prop :=
  ∃ shown : List (Listing × SessionRef), shown.map Prod.fst = rows ∧
    (shown.map Prod.snd).Sublist refs ∧
    ∀ s ∈ shown, ∀ x, w.now.registry.get? s.2 = some x → x.Shows s.1

theorem listingsOf_ends (m : Manager) (hh : h.Sound) : ∀ (refs : List SessionRef) (w : World ω),
    Since h.environment w₀ w →
    Ends (Since h.environment w₀) (m.listingsOf h refs) w (fun rows _ => Listed w₀ refs rows)
      (fun _ _ => True)
  | [], w, hw => .pure hw ⟨[], rfl, .slnil, by simp⟩
  | ref :: rest, w, hw => by
    unfold listingsOf
    refine .session_bind (fun x _ => ?_) (fun _ => ⟨hw, fun _ => trivial⟩)
    split
    · refine .bind (listingOf_ends m hh hw ref) fun row w₁ h₁ hrow => ?_
      refine .bind (listingsOf_ends m hh rest w₁ h₁) fun rows w₂ h₂ hrows => .pure h₂ ?_
      obtain ⟨shown, rfl, hsub, hall⟩ := hrows
      refine ⟨(row, ref) :: shown, rfl, hsub.cons_cons ref, fun s hs => ?_⟩
      rcases List.mem_cons.1 hs with rfl | hs
      · exact hrow
      · exact hall s hs
    · refine (listingsOf_ends m hh rest w hw).mono ?_ fun _ _ hf => hf
      rintro rows u ⟨shown, hrows, hsub, hall⟩
      exact ⟨shown, hrows, hsub.cons ref, hall⟩

theorem listAll_ends (m : Manager) (hh : h.Sound) (hw : Since h.environment w₀ w) :
    Ends (Since h.environment w₀) (m.listAll h) w
      (fun rows _ => Listed w₀ w.now.registry.table.refs rows) (fun _ _ => True) := by
  unfold listAll
  exact .registry_bind (listingsOf_ends m hh _ w hw)

end Manager
end TcpSessions
