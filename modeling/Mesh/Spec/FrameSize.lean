import Mesh.Spec.AppCorrect

/-!
# Frames that fit the radio

A frame that a node builds has a body of at most `maxPayload` bytes. The codec does not
look at the length, so one that it relays is as long as the input it came in.

## Key results

- `MeshFrame.fits_iff`: the bound on the body is one on the bytes
- `MeshNode.transmitted_frames_fit_iff`: when everything handed to the transmitter fits
- `MeshNode.long_frame_is_relayed`: a frame of 254 bytes
-/

namespace Mesh

namespace MeshFrame

/-- The body is no longer than `MeshFrame` documents. -/
def Fits (self : MeshFrame) : Prop := self.payload.length ≤ maxPayload

/-- A frame is its header and its payload. -/
@[simp] theorem length_toBytes (self : MeshFrame) :
    self.toBytes.length = headerLen + self.payload.length := by
  rw [toBytes, List.length_append, MeshHeader.length_encode]

/-- 253 bytes are the header and the longest body. -/
theorem fits_iff (self : MeshFrame) : self.Fits ↔ self.toBytes.length ≤ 253 := by
  rw [length_toBytes, Fits]
  simp only [headerLen, maxPayload]
  omega

/-- A received frame is as long as the input. -/
theorem fits_of_fromBytes_iff {raw : List UInt8} {frame : MeshFrame}
    (h : fromBytes raw = some frame) : frame.Fits ↔ raw.length ≤ 253 := by
  have hlong : ¬ raw.length < headerLen := by
    intro hlt
    rw [(fromBytes_eq_none_iff raw).mpr hlt] at h
    cases h
  obtain ⟨-, hpayload⟩ := fromBytes_eq_some_iff.mp h
  rw [Fits, hpayload, List.length_drop]
  simp only [headerLen, maxPayload] at hlong ⊢
  omega

/-- A relay changes no length. -/
theorem fits_fwd_iff (self : MeshFrame) : self.fwd.Fits ↔ self.Fits := Iff.rfl

end MeshFrame

namespace MeshNode

section

variable [Prost] [Aes256]

/-- What a node builds fits. -/
theorem fits_of_buildFrame {node : MeshNode} {random toNode : UInt32} {data : Data}
    {f : MeshFrame} (h : node.buildFrame random toNode data = some f) : f.Fits := by
  obtain ⟨hlen, rfl⟩ := buildFrame_eq_some_iff.mp h
  show (node.crypto.encrypt random node.nodeId (Prost.encodeData data)).length ≤ maxPayload
  rw [MeshCrypto.length_encrypt]
  exact hlen

/-- What a node relays fits exactly if the input did. -/
theorem fits_of_forward?_iff {node : MeshNode} {raw : List UInt8} {fwd : MeshFrame}
    (h : forward? (node.processRxFrame raw).1 = some fwd) : fwd.Fits ↔ raw.length ≤ 253 := by
  obtain ⟨frame, hchecked, -, rfl⟩ := relayable_of_forward? h
  rw [MeshFrame.fits_fwd_iff]
  exact MeshFrame.fits_of_fromBytes_iff (ChannelConfig.checked_eq_some_iff.mp hchecked).1

/-- Every frame a node builds fits the radio. Every frame it relays does exactly as long as no
    input of more than 253 bytes holds a frame that should be relayed and is not lost to a
    body that does not decode. -/
theorem transmitted_frames_fit_iff (node : MeshNode) :
    (∀ random toNode data f, node.buildFrame random toNode data = some f →
      f.payload.length ≤ maxPayload ∧ f.toBytes.length ≤ 253) ∧
    (∀ raw : List UInt8,
      (∀ fwd, forward? (node.processRxFrame raw).1 = some fwd →
        fwd.payload.length ≤ maxPayload ∧ fwd.toBytes.length ≤ 253) ↔
      (raw.length ≤ 253 ∨ ∀ frame, node.channel.checked raw = some frame →
        node.relayable frame → node.undecodable frame)) := by
  have hboth : ∀ f : MeshFrame,
      f.payload.length ≤ maxPayload ∧ f.toBytes.length ≤ 253 ↔ f.Fits := by
    intro f
    rw [← f.fits_iff]
    exact and_self_iff
  simp only [hboth]
  refine ⟨fun random toNode data f h => fits_of_buildFrame h, fun raw => ?_⟩
  constructor
  · intro hfits
    by_cases hlen : raw.length ≤ 253
    · exact .inl hlen
    · refine .inr fun frame hchecked hrel => ?_
      -- otherwise it is relayed, as long as it came
      by_contra hund
      have hfwd := (forward?_eq_some_iff hchecked).mpr ⟨hrel, hund, rfl⟩
      exact hlen ((fits_of_forward?_iff hfwd).mp (hfits _ hfwd))
  · intro h fwd hfwd
    rw [fits_of_forward?_iff hfwd]
    rcases h with hlen | hlost
    · exact hlen
    · obtain ⟨frame, hchecked, hrel, rfl⟩ := relayable_of_forward? hfwd
      have hkept := ((forward?_eq_some_iff hchecked).mp hfwd).2.1
      exact absurd (hlost frame hchecked hrel) hkept

end

open Samples

/-- The text "hi" of node 1 fits. -/
theorem transmitted_frames_fit_iff_sample :
    (hi 3).payload.length ≤ maxPayload ∧ (hi 3).toBytes.length ≤ 253 :=
  (transmitted_frames_fit_iff (node 1)).1 7 broadcast (textData "hi") (hi 3) (by decide +kernel)

/-- A frame of 254 bytes for node 5, heard by node 9: it is relayed, as 254 bytes. -/
theorem long_frame_is_relayed :
    let frame : MeshFrame :=
      { header := { (hi 3).header with toNode := 5 }, payload := List.replicate 238 0 }
    frame.toBytes.length = 254 ∧
      forward? ((node 9).processRxFrame frame.toBytes).1 = some frame.fwd ∧
      frame.fwd.payload.length = 238 ∧ frame.fwd.toBytes.length = 254 := by
  intro frame
  have hlen : frame.payload.length = 238 := List.length_replicate
  have hbytes : ∀ f : MeshFrame, f.payload.length = 238 → f.toBytes.length = 254 := by
    intro f hf
    rw [f.length_toBytes, hf]
    rfl
  have hrange : frame.InRange := ⟨by decide, by decide⟩
  have hchecked : (node 9).channel.checked frame.toBytes = some frame :=
    ChannelConfig.checked_toBytes hrange (by decide)
  have hrel : (node 9).relayable frame := ⟨by decide, by decide, by decide⟩
  -- its body is not looked at
  have hund : ¬ (node 9).undecodable frame := fun h => absurd h.1 (by decide)
  exact ⟨hbytes frame hlen, (forward?_eq_some_iff hchecked).mpr ⟨hrel, hund, rfl⟩, hlen,
    hbytes frame.fwd hlen⟩

end MeshNode

end Mesh
