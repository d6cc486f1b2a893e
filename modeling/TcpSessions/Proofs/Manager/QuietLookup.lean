import TcpSessions.Proofs.Work.SocketCalls
/-!
# Lookups on a quiet host

Resolving a host and naming an address call no socket and leave the sessions alone, however they
end (`World.LookedUp`).
-/
namespace TcpSessions

open Act World

variable {ω : Type} {h : Host ω} {w w' w'' : World ω} {token : Option TokenId}

/-- From `w` to `w'` sessions and sockets stayed as they were, and no socket was called. -/
structure World.LookedUp (w w' : World ω) : Prop where
  registry : w'.now.registry = w.now.registry
  sockets : w'.now.sockets = w.now.sockets
  calls : ∀ s, socketCalls s w'.past = socketCalls s w.past

namespace World

theorem LookedUp.refl (w : World ω) : w.LookedUp w := ⟨rfl, rfl, fun _ => rfl⟩

theorem LookedUp.trans (h : w.LookedUp w') (h' : w'.LookedUp w'') : w.LookedUp w'' :=
  ⟨h'.registry.trans h.registry, h'.sockets.trans h.sockets,
    fun s => (h'.calls s).trans (h.calls s)⟩

theorem LookedUp.notice (hw : w.LookedUp w') (n : Notice) : w.LookedUp (w'.push (.noticed n)) :=
  ⟨hw.registry, hw.sockets, hw.calls⟩

/-- A call that is on no socket. -/
theorem Called.lookedUp {env : Environment ω} {c : Call} {reply : Except Failure c.Reply}
    (hc : w.Called env token c reply w') (hs : c.socket? = none) : w.LookedUp w' where
  registry := hc.registry
  sockets := hc.sockets
  calls := by
    intro s
    simp [hc.socketCalls_eq, hs]

theorem Entered.lookedUp {c : Call} (hc : w.Entered token c w') (hs : c.socket? = none) :
    w.LookedUp w' where
  registry := hc.registry
  sockets := hc.sockets
  calls := by
    intro s
    simp [hc.socketCalls_eq, hs]

end World

namespace Manager

theorem lookup_resolve_quiet (hh : h.Quiet) (name : String) (family : Family) :
    Ends (LookedUp w) (Lookup.resolve h token name family) w (fun _ _ => True)
      (fun _ _ => True) := by
  unfold Lookup.resolve
  cases Address.literal? family name with
  | some bytes => exact .pure (.refl w) trivial
  | none =>
    refine .quiet_bind hh (fun w' hw' => hw'.lookedUp rfl) fun reply w' hc => ?_
    have hw' := hc.lookedUp rfl
    cases reply with
    | error f =>
      dsimp only
      split
      · exact .notice_bind (.fail (hw'.notice _) trivial)
      · exact .fail hw' trivial
    | ok infos =>
      refine .ofExcept_bind (fun found _ => ?_) (fun _ _ => ⟨hw', trivial⟩)
      split
      · exact .fail hw' trivial
      · exact .notice_bind (.pure (hw'.notice _) trivial)

theorem resolve_quiet (m : Manager) (hh : h.Quiet) (host : String) (family : Family) :
    Ends (LookedUp w) (m.resolve h token host family) w (fun _ _ => True) (fun _ _ => True) := by
  unfold resolve
  split
  · exact lookup_resolve_quiet hh host family
  · refine .quiet_bind hh (fun w' hw' => hw'.lookedUp rfl) fun reply w' hc => ?_
    cases reply with
    | ok found => exact .of_returned rfl (hc.lookedUp rfl) trivial
    | error f => exact .fail (hc.lookedUp rfl) trivial

theorem lookup_reverse_quiet (hh : h.Quiet) (bytes : Address.Bytes) (family : Family) :
    Ends (LookedUp w) (Lookup.reverse h bytes family) w (fun _ _ => True) (fun _ _ => True) := by
  unfold Lookup.reverse
  cases Address.ofBytes? family bytes with
  | none => exact .pure (.refl w) trivial
  | some address =>
    refine .quiet_bind hh (fun w' hw' => hw'.lookedUp rfl) fun reply w' hc => ?_
    cases reply with
    | ok name => exact .pure (hc.lookedUp rfl) trivial
    | error f =>
      dsimp only
      split
      · exact .pure (hc.lookedUp rfl) trivial
      · exact .fail (hc.lookedUp rfl) trivial

theorem reverse_quiet (m : Manager) (hh : h.Quiet) (address : Address) :
    Ends (LookedUp w) (m.reverse h address) w (fun _ _ => True) (fun _ _ => True) := by
  unfold reverse
  split
  · exact lookup_reverse_quiet hh address.bytes address.family
  · refine .quiet_bind hh (fun w' hw' => hw'.lookedUp rfl) fun reply w' hc => ?_
    cases reply with
    | ok name => exact .of_returned rfl (hc.lookedUp rfl) trivial
    | error f => exact .fail (hc.lookedUp rfl) trivial

/-- Why there are no candidates: the resolver failed, or the token was set when it returned. -/
inductive Unresolved (m : Manager) (h : Host ω) (token : Option TokenId) (host : String)
    (family : Family) (w : World ω) : Failure → Prop
  | refused (f : Failure) (hf : (m.resolve h token host family w).1 = .failed f)
    (hi : f.isInterrupted = false) : Unresolved m h token host family w f
  | interrupted (f : Failure) (hf : (m.resolve h token host family w).1 = .failed f)
    (hi : f.isInterrupted = true) :
    Unresolved m h token host family w
      ((Failure.of (.resolution host (some "interrupted"))).causedBy f)
  | cancelled :
    Unresolved m h token host family w (.of (.resolution host (some "interrupted")))

theorem candidatesOf_quiet (m : Manager) (hh : h.Quiet) (host : String) (family : Family) :
    Ends (LookedUp w) (m.candidatesOf h token host family) w
      (fun candidates _ => (m.resolve h token host family w).1 = .returned candidates)
      (fun f _ => m.Unresolved h token host family w f) := by
  unfold candidatesOf
  refine .attempt_bind (resolve_quiet m hh host family).outcome
    (fun candidates w' hw' hr => ?_) fun f w' hw' hf => ?_
  · refine .isCancelled_bind ?_
    split
    · exact .fail hw' .cancelled
    · exact .pure hw' hr
  · dsimp only
    split
    · rename_i hi
      exact .fail hw' (.interrupted f hf hi)
    · rename_i hi
      exact .fail hw' (.refused f hf (by simpa using hi))

end Manager
end TcpSessions
