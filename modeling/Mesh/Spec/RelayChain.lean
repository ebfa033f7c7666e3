import Mesh.Spec.AppCorrect

/-!
# Delivery over a chain of relays

A frame built by one node of a channel, passed through relays of that channel,
reaches another node of it with the hop limit as the only field changed. So the
nonce, which is read off the header, is still the sender's, and the body decrypts
to what was sent.
-/

namespace Mesh

namespace MeshNode

/-- Nodes of one channel share its key. -/
theorem crypto_eq_of_channel {a b : MeshNode} (h : a.channel = b.channel) :
    a.crypto = b.crypto := by
  have hpsk : a.crypto.psk = b.crypto.psk := by rw [a.crypto_psk, b.crypto_psk, h]
  cases ha : a.crypto
  cases hb : b.crypto
  rw [ha, hb] at hpsk
  rw [MeshCrypto.mk.injEq]
  exact hpsk

end MeshNode

section

variable [Prost] [Aes256]

/-- Feed the bytes to each relay in turn; each transmits the frame it hands back. No
    bytes come out if some relay hands back none. -/
def relayChain : List MeshNode → List UInt8 → Option (List UInt8)
  | [], raw => some raw
  | node :: rest, raw => do
    let fwd ← forward? (node.processRxFrame raw).1
    relayChain rest fwd.toBytes

variable {A : MeshNode} {random toNode : UInt32} {data : Data} {F : MeshFrame}

/-! ## The frame on its way -/

/-- What a node builds stays in range with any hop limit of three bits. -/
theorem inRange_withHops_of_buildFrame (hF : A.buildFrame random toNode data = some F) {n : Nat}
    (hn : n < 8) : (F.withHops n).InRange :=
  MeshFrame.inRange_withHops (inRange_of_buildFrame hF).2 hn

/-- Nodes of the sender's channel check and decode the frame whatever its hop limit. -/
theorem checked_of_buildFrame (hF : A.buildFrame random toNode data = some F) {node : MeshNode}
    (hchan : node.channel = A.channel) {n : Nat} (hn : n < 8) :
    node.channel.checked (F.withHops n).toBytes = some (F.withHops n) := by
  have hpass : node.channel.admits (F.withHops n).header := by
    rw [(buildFrame_eq_some_iff.mp hF).2, hchan]
    exact .inr rfl
  exact ChannelConfig.checked_toBytes (inRange_withHops_of_buildFrame hF hn) hpass

/-- Every node of the channel decrypts what was encoded, whatever hops are left. -/
theorem body_of_buildFrame (hF : A.buildFrame random toNode data = some F) {node : MeshNode}
    (hchan : node.channel = A.channel) (n : Nat) :
    node.body (F.withHops n) = Prost.encodeData data := by
  -- the nonce comes from `id` and `fromNode`, which no relay touches
  rw [MeshNode.body, MeshNode.crypto_eq_of_channel hchan, (buildFrame_eq_some_iff.mp hF).2]
  exact MeshCrypto.decrypt_encrypt _ _ _ _

/-- What a node of the sender's channel makes of the frame with `n` hops left. -/
private theorem processRxFrame_sent (hF : A.buildFrame random toNode data = some F)
    (hcodec : Prost.decodeData (Prost.encodeData data) = .ok data) {node : MeshNode}
    (hchan : node.channel = A.channel) (hnew : (A.nodeId, random) ∉ node.dedup.entries) {n : Nat}
    (hn : n < 8) :
    (node.processRxFrame (F.withHops n).toBytes).1 =
      .ok (if toNode = node.nodeId ∨ toNode = broadcast then
          some { fromNode := A.nodeId, toNode, data, hopLimit := UInt8.ofNat n,
                 selfOrigin := A.nodeId == node.nodeId }
        else none,
        node.forwardOf (F.withHops n)) := by
  have hchk := checked_of_buildFrame hF hchan hn
  have hdec : Prost.decodeData (node.body (F.withHops n)) = .ok data := by
    rw [body_of_buildFrame hF hchan, hcodec]
  obtain ⟨-, rfl⟩ := buildFrame_eq_some_iff.mp hF
  exact MeshNode.processRxFrame_decodable hchk hnew hdec

/-- A chain no longer than the hops left lets the frame through. -/
private theorem relayChain_sent (hF : A.buildFrame random toNode data = some F)
    (hcodec : Prost.decodeData (Prost.encodeData data) = .ok data) (relays : List MeshNode)
    (hrelays : ∀ r ∈ relays, r.channel = A.channel ∧ r.nodeId ≠ A.nodeId ∧
      (A.nodeId, random) ∉ r.dedup.entries) {n : Nat} (hn : n < 8) (hlen : relays.length ≤ n) :
    relayChain relays (F.withHops n).toBytes = some (F.withHops (n - relays.length)).toBytes := by
  -- the first relay leaves the frame with a hop less for the rest of the chain
  induction relays generalizing n with
  | nil => rfl
  | cons r rest ih =>
    obtain ⟨⟨hchan, hid, hnew⟩, hrest⟩ := List.forall_mem_cons.mp hrelays
    have hlen' : rest.length + 1 ≤ n := hlen
    -- the relay is not the sender and has a hop left
    have hfwd : r.forwardOf (F.withHops n) = some (F.withHops (n - 1)) := by
      rw [MeshNode.forwardOf_eq_some_iff, MeshFrame.fwd_withHops _ (by omega)]
      refine ⟨⟨ofNat_ne_zero (by omega) (by omega), ?_⟩, rfl⟩
      rw [(buildFrame_eq_some_iff.mp hF).2]
      exact hid.symm
    rw [relayChain, processRxFrame_sent hF hcodec hchan hnew hn, forward?, hfwd]
    have hsub : n - (rest.length + 1) = n - 1 - rest.length := by omega
    rw [List.length_cons, hsub]
    exact ih hrest (by omega) (by omega)

/-- End-to-end delivery: every relay of a chain of at most three hands the frame on,
    and the receiver gets the message that was sent. -/
theorem delivery_over_relays (A B : MeshNode) (random toNode : UInt32) (data : Data)
    (relays : List MeshNode) (hAB : A.channel = B.channel)
    (hsize : (Prost.encodeData data).length ≤ maxPayload)
    (hcodec : Prost.decodeData (Prost.encodeData data) = .ok data)
    (hlen : relays.length ≤ 3)
    (hrelays : ∀ r ∈ relays, r.channel = A.channel ∧ r.nodeId ≠ A.nodeId ∧
      (A.nodeId, random) ∉ r.dedup.entries)
    (hnew : (A.nodeId, random) ∉ B.dedup.entries) :
    ∃ F, A.buildFrame random toNode data = some F ∧
      ∃ raw, relayChain relays F.toBytes = some raw ∧
        ∃ fwd, (B.processRxFrame raw).1 =
            .ok (if toNode = B.nodeId ∨ toNode = broadcast then
                some { fromNode := A.nodeId, toNode, data,
                       hopLimit := UInt8.ofNat (3 - relays.length),
                       selfOrigin := A.nodeId == B.nodeId }
              else none, fwd) ∧
          (fwd.isSome ↔ relays.length < 3 ∧ A.nodeId ≠ B.nodeId) := by
  obtain ⟨F, hF⟩ : ∃ F, A.buildFrame random toNode data = some F :=
    ⟨_, buildFrame_eq_some_iff.mpr ⟨hsize, rfl⟩⟩
  have hhops : F = F.withHops 3 := by
    rw [(buildFrame_eq_some_iff.mp hF).2]
    rfl
  refine ⟨F, hF, (F.withHops (3 - relays.length)).toBytes, ?_,
    B.forwardOf (F.withHops (3 - relays.length)),
    processRxFrame_sent hF hcodec hAB.symm hnew (by omega), ?_⟩
  · rw [hhops]
    exact relayChain_sent hF hcodec relays hrelays (by omega) hlen
  · rw [MeshNode.forwardOf_isSome_iff, (buildFrame_eq_some_iff.mp hF).2]
    -- the last hop is spent by the third relay
    have hzero : UInt8.ofNat (3 - relays.length) ≠ 0 ↔ relays.length < 3 := by
      constructor
      · intro h
        by_contra hge
        exact h (by rw [show 3 - relays.length = 0 by omega]; rfl)
      · intro h
        exact ofNat_ne_zero (by omega) (by omega)
    exact and_congr_left' hzero

end

/-- The text "hi" from node 1 through nodes 2, 3 and 4 to node 9. -/
theorem delivery_over_relays_sample :
    ∃ F, @MeshNode.buildFrame Samples.shortProst Samples.blockAes (Samples.node 1) 7 broadcast
        (@MeshNode.textData Samples.shortProst "hi") = some F ∧
      ∃ raw, @relayChain Samples.shortProst Samples.blockAes
          [Samples.node 2, Samples.node 3, Samples.node 4] F.toBytes = some raw ∧
        ∃ fwd, (@MeshNode.processRxFrame Samples.shortProst Samples.blockAes (Samples.node 9)
            raw).1 =
          .ok (some (@MeshMessage.mk Samples.shortProst 1 broadcast
            (@MeshNode.textData Samples.shortProst "hi") 0 false), fwd) := by
  obtain ⟨F, hF, raw, hraw, fwd, hrx, -⟩ := @delivery_over_relays Samples.shortProst
    Samples.blockAes (Samples.node 1) (Samples.node 9) 7 broadcast
    (@MeshNode.textData Samples.shortProst "hi")
    [Samples.node 2, Samples.node 3, Samples.node 4] rfl (by decide) (by rfl) (by decide)
    (by decide) (by decide)
  exact ⟨F, hF, raw, hraw, fwd, hrx⟩

end Mesh
