import TcpSessions.Peer
import TcpSessions.Proofs.Address.Packed
/-!
# Endpoints that pass their checks

What an endpoint is made of can be read off it again.
-/
namespace TcpSessions.Peer

variable {family : Family} {p : PeerFields} {peer : Peer}

theorem eq_of_checkAddress {bytes : Address.Bytes} {a : Address}
    (h : checkAddress (.known family) bytes = .ok a) : a.family = family ∧ a.bytes = bytes := by
  unfold checkAddress FamilyCode.family? at h
  dsimp only at h
  split at h
  · cases h
  · split at h
    · cases h
    · rename_i a' ha
      obtain rfl := Except.ok.inj h
      exact Address.eq_of_ofBytes? ha

/-- An endpoint has the address, the port and the extras that it was given. -/
theorem eq_of_ofFields (hfamily : p.family = .known family) (h : ofFields p = .ok peer) :
    peer.address.family = family ∧ peer.address.bytes = p.address ∧
      (peer.port.toNat : Int) = p.port ∧ peer.flowinfo = p.flowinfo ∧ peer.scopeId = p.scopeId := by
  unfold ofFields at h
  rw [hfamily] at h
  split at h
  · cases h
  · rename_i a ha
    split at h
    · rename_i hport
      obtain ⟨hf, hb⟩ := eq_of_checkAddress ha
      obtain rfl := Except.ok.inj h
      refine ⟨hf, hb, ?_, rfl, rfl⟩
      have hlt : p.port.toNat < 65536 := by omega
      show ((UInt16.ofNat p.port.toNat).toNat : Int) = p.port
      rw [UInt16.toNat_ofNat_of_lt' hlt]
      omega
    · cases h

end TcpSessions.Peer
