import Mesh.Spec.PacketCorrect
import Mesh.Spec.Samples

/-!
# What the router decides

`route` either finds the key in the cache and drops the packet with the cache
unchanged, or inserts the key; then it relays exactly when a hop is left and
delivers exactly when the packet is addressed here. The frame to relay differs
from the received one in its hop limit alone.

`frames_survive_the_air` collects what the codec and the three sources of frames
promise together.
-/

namespace Mesh

namespace RouteDecision

/-- The frame to re-broadcast, if any. -/
def forward? : RouteDecision → Option MeshFrame
  | forward frame => some frame
  | deliverAndForward _ frame => some frame
  | deliver _ => none
  | drop => none

/-- The decision that delivers and relays as told. -/
def of : Option (List UInt8) → Option MeshFrame → RouteDecision
  | some plaintext, some frame => deliverAndForward plaintext frame
  | some plaintext, none => deliver plaintext
  | none, some frame => forward frame
  | none, none => drop

/-- The decision forwards the frame it was told to. -/
@[simp] theorem forward?_of (p : Option (List UInt8)) (f : Option MeshFrame) :
    (of p f).forward? = f := by
  cases p <;> cases f <;> rfl

end RouteDecision

variable {frame : MeshFrame} {nodeId : UInt32} {plaintext : List UInt8} {dedup : DedupCache}

/-- A packet seen before is dropped and the cache left alone. -/
theorem route_of_seen (h : frame.header.key ∈ dedup.entries) :
    route frame nodeId plaintext dedup = (.drop, dedup) := by
  rw [route, DedupCache.checkAndInsert_of_mem h]
  rfl

/-- A new packet is delivered if it is for this node and relayed if it has a hop left. -/
theorem route_of_new (h : frame.header.key ∉ dedup.entries) :
    route frame nodeId plaintext dedup =
      (.of (if frame.header.forUs nodeId then some plaintext else none)
        (if frame.header.hopLimit = 0 then none else some frame.fwd),
      (dedup.checkAndInsert frame.header.fromNode frame.header.id).2) := by
  have hnew : (dedup.checkAndInsert frame.header.fromNode frame.header.id).1 = false := by
    rw [DedupCache.checkAndInsert_fst]
    exact decide_eq_false h
  simp only [route, hnew]
  -- the four branches of a new packet
  by_cases hhop : frame.header.hopLimit = 0 <;> by_cases hus : frame.header.forUs nodeId <;>
    simp [hhop, hus, RouteDecision.of]

/-- The only frame `route` hands back is the received one with one hop less. -/
theorem forward?_route {fwd : MeshFrame}
    (h : (route frame nodeId plaintext dedup).1.forward? = some fwd) :
    frame.header.hopLimit ≠ 0 ∧ fwd = frame.fwd := by
  by_cases hkey : frame.header.key ∈ dedup.entries
  · rw [route_of_seen hkey] at h
    exact nomatch h
  · rw [route_of_new hkey, RouteDecision.forward?_of] at h
    split at h
    · -- no hop left
      exact nomatch h
    · rename_i hhop
      exact ⟨hhop, (Option.some.inj h).symm⟩

/-! ## Hop arithmetic -/

/-- A hop less, as a number. -/
theorem toNat_sub_one {x : UInt8} (h : x ≠ 0) : (x - 1).toNat = x.toNat - 1 := by
  have hpos : 1 ≤ x := by
    rw [UInt8.le_iff_toNat_le]
    have : x.toNat ≠ 0 := fun h0 => h (UInt8.toNat_inj.mp h0)
    change 1 ≤ x.toNat
    omega
  -- no borrow
  rw [UInt8.toNat_sub_of_le _ _ hpos]
  rfl

/-- Relaying keeps the hop fields in range. -/
theorem MeshFrame.inRange_fwd (h : frame.InRange) (hhop : frame.header.hopLimit ≠ 0) :
    frame.fwd.InRange := by
  have hlt := UInt8.lt_iff_toNat_lt.mp h.1
  have hfwd : frame.header.hopLimit - 1 < 8 := by
    rw [UInt8.lt_iff_toNat_lt, toNat_sub_one hhop]
    omega
  exact ⟨hfwd, h.2⟩

/-- The frame with `n` hops left. -/
def MeshFrame.withHops (frame : MeshFrame) (n : Nat) : MeshFrame :=
  { frame with header := { frame.header with hopLimit := UInt8.ofNat n } }

/-- Relaying counts the hops down. -/
theorem MeshFrame.fwd_withHops (frame : MeshFrame) {n : Nat} (hn : 0 < n) :
    (frame.withHops n).fwd = frame.withHops (n - 1) := by
  have hsub : UInt8.ofNat n - 1 = UInt8.ofNat (n - 1) := by
    rw [UInt8.ofNat_sub hn]
    rfl
  simp only [fwd, withHops, hsub]

/-- On air, only the low three bits of byte 12 tell the hops left. -/
theorem MeshFrame.toBytes_withHops (frame : MeshFrame) {n : Nat} (hn : n < 8) :
    (frame.withHops n).toBytes =
      frame.toBytes.set 12 ((frame.toBytes.getD 12 0 &&& 0xF8) ||| UInt8.ofNat n) := by
  rw [toBytes, withHops, MeshHeader.encode, frame.header.flags_with_hopLimit hn]
  rfl

/-- A positive number of a byte is a byte that is not zero. -/
theorem ofNat_ne_zero {n : Nat} (hpos : 0 < n) (hlt : n < 256) : UInt8.ofNat n ≠ 0 := by
  intro h
  have h' := congrArg UInt8.toNat h
  rw [UInt8.toNat_ofNat_of_lt' hlt] at h'
  exact absurd h' (by change n ≠ 0; omega)

/-- A hop limit of three bits keeps a frame in range. -/
theorem MeshFrame.inRange_withHops {n : Nat} (hs : frame.header.hopStart < 8) (hn : n < 8) :
    (frame.withHops n).InRange := by
  have hlt : UInt8.ofNat n < 8 := by
    rw [UInt8.lt_iff_toNat_lt, UInt8.toNat_ofNat_of_lt' (show n < 256 by omega)]
    exact hn
  exact ⟨hlt, hs⟩

/-! ## Frames a node puts on the air -/

section

variable [Prost] [Aes256]

/-- What `buildFrame` returns, and when. -/
theorem buildFrame_eq_some_iff {node : MeshNode} {random toNode : UInt32} {data : Data}
    {f : MeshFrame} :
    node.buildFrame random toNode data = some f ↔
      (Prost.encodeData data).length ≤ maxPayload ∧
      f = { header := {
              toNode, fromNode := node.nodeId, id := random, hopLimit := 3, hopStart := 3,
              wantAck := false, viaMqtt := false, channelHash := node.channel.channelHash }
            payload := node.crypto.encrypt random node.nodeId (Prost.encodeData data) } := by
  simp only [MeshNode.buildFrame, MeshNode.nodeId]
  split
  · -- too long
    rename_i h
    constructor
    · exact nofun
    · rintro ⟨h', -⟩
      omega
  · rename_i h
    rw [Option.some.injEq, eq_comm (b := f)]
    exact ⟨fun hf => ⟨by omega, hf⟩, And.right⟩

/-- What a node builds is in range. -/
theorem inRange_of_buildFrame {node : MeshNode} {random toNode : UInt32} {data : Data}
    {f : MeshFrame} (h : node.buildFrame random toNode data = some f) : f.InRange := by
  rw [(buildFrame_eq_some_iff.mp h).2]
  exact ⟨(by decide : (3 : UInt8) < 8), (by decide : (3 : UInt8) < 8)⟩

/-- The codec in both directions, and which frames survive it unchanged: those that
    `buildFrame` and `fromBytes` return, and those `route` returns for such a frame. -/
theorem frames_survive_the_air :
    (∀ raw, MeshFrame.fromBytes raw = none ↔ raw.length < headerLen) ∧
    (∀ raw f, MeshFrame.fromBytes raw = some f → f.toBytes = (raw.set 14 0).set 15 0) ∧
    (∀ f : MeshFrame, MeshFrame.fromBytes f.toBytes = some { f with header := { f.header with
      hopLimit := f.header.hopLimit % 8, hopStart := f.header.hopStart % 8 } }) ∧
    (∀ f : MeshFrame, f.header.hopLimit < 8 → f.header.hopStart < 8 →
      MeshFrame.fromBytes f.toBytes = some f) ∧
    (∀ (node : MeshNode) random toNode data f,
      node.buildFrame random toNode data = some f →
      f.header.hopLimit < 8 ∧ f.header.hopStart < 8) ∧
    (∀ raw f, MeshFrame.fromBytes raw = some f → f.header.hopLimit < 8 ∧ f.header.hopStart < 8) ∧
    (∀ (frame : MeshFrame) nodeId plaintext dedup fwd,
      frame.header.hopLimit < 8 → frame.header.hopStart < 8 →
      (route frame nodeId plaintext dedup).1.forward? = some fwd →
      fwd.header.hopLimit < 8 ∧ fwd.header.hopStart < 8) := by
  refine ⟨MeshFrame.fromBytes_eq_none_iff, fun raw f => MeshFrame.toBytes_of_fromBytes,
    MeshFrame.fromBytes_toBytes, fun f hl hs => MeshFrame.fromBytes_toBytes_of_inRange ⟨hl, hs⟩,
    fun node random toNode data f => inRange_of_buildFrame,
    fun raw f => MeshFrame.inRange_of_fromBytes, ?_⟩
  -- a relayed frame has one hop less than one that was in range
  intro frame nodeId plaintext dedup fwd hl hs hfwd
  obtain ⟨hhop, rfl⟩ := forward?_route hfwd
  exact MeshFrame.inRange_fwd ⟨hl, hs⟩ hhop

end

/-- A frame with both hop fields in range, relayed: both copies survive the air. -/
theorem frames_survive_the_air_sample :
    MeshFrame.fromBytes (Samples.hi 3).toBytes = some (Samples.hi 3) ∧
      (Samples.hi 2).header.hopLimit < 8 ∧ (Samples.hi 2).header.hopStart < 8 := by
  obtain ⟨-, -, -, hsame, -, -, hroute⟩ :=
    @frames_survive_the_air Samples.shortProst Samples.blockAes
  exact ⟨hsame (Samples.hi 3) (by decide) (by decide),
    hroute (Samples.hi 3) 9 [] DedupCache.new (Samples.hi 2) (by decide) (by decide) (by decide)⟩

/-- `route` checks no hop field: it relays a frame with 200 hops left with 199, which
    do not fit into three bits, so the relayed frame does not survive the air. -/
theorem route_relays_out_of_range :
    (route (Samples.hi 200) 9 [] DedupCache.new).1.forward? = some (Samples.hi 199) ∧
      ¬ ((Samples.hi 199).header.hopLimit < 8 ∧ (Samples.hi 199).header.hopStart < 8) ∧
      MeshFrame.fromBytes (Samples.hi 199).toBytes ≠ some (Samples.hi 199) := by
  decide

end Mesh
