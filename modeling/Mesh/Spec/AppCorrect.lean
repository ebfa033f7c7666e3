import Mesh.Spec.RouterCorrect

/-!
# What a node does with a frame

`processRxFrame` has three outcomes. An input that is not checked (malformed or
on another channel) is refused and changes nothing. A checked one whose key is in
the cache is dropped. A checked new one goes to the cache, is delivered if it is
addressed here, and is relayed as `forwardOf` says unless a delivered body fails
to decode.

## Key results

- `processRxFrame_unchecked`, `processRxFrame_seen`, `processRxFrame_new`: the outcomes
- `processRxFrame_entries`: one call is at most one insertion into the cache
- `relaying_ignores_body_iff`: when relaying depends on the decrypted body
-/

namespace Mesh

namespace ChannelConfig

/-- The channel check. -/
def admits (self : ChannelConfig) (h : MeshHeader) : Prop :=
  h.viaMqtt = true ∨ h.channelHash = self.channelHash

instance (self : ChannelConfig) (h : MeshHeader) : Decidable (self.admits h) :=
  inferInstanceAs (Decidable (_ ∨ _))

/-- The frame of an input that has a full header and passes the channel check. -/
def checked (self : ChannelConfig) (raw : List UInt8) : Option MeshFrame :=
  (MeshFrame.fromBytes raw).filter fun frame => decide (self.admits frame.header)

/-- A frame is checked exactly if its bytes parse and the channel admits its header. -/
theorem checked_eq_some_iff {self : ChannelConfig} {raw : List UInt8} {frame : MeshFrame} :
    self.checked raw = some frame ↔
      MeshFrame.fromBytes raw = some frame ∧ self.admits frame.header := by
  rw [checked, Option.filter_eq_some_iff, decide_eq_true_iff]

/-- A frame in range is checked on the other side of the air. -/
theorem checked_toBytes {self : ChannelConfig} {frame : MeshFrame} (hr : frame.InRange)
    (ha : self.admits frame.header) : self.checked frame.toBytes = some frame :=
  checked_eq_some_iff.mpr ⟨MeshFrame.fromBytes_toBytes_of_inRange hr, ha⟩

end ChannelConfig

section

variable [Prost]

/-- The message a result delivers. -/
def message? : RxResult → Option MeshMessage
  | .ok (msg, _) => msg
  | .error _ => none

/-- The frame a result hands back for relaying. -/
def forward? : RxResult → Option MeshFrame
  | .ok (_, fwd) => fwd
  | .error _ => none

end

namespace MeshNode

/-- The node after its cache took in the key of `h`. -/
def accept (self : MeshNode) (h : MeshHeader) : MeshNode :=
  { self with dedup := (self.dedup.checkAndInsert h.fromNode h.id).2 }

/-- The frame to relay: none at the last hop and none of the node's own. -/
def forwardOf (self : MeshNode) (frame : MeshFrame) : Option MeshFrame :=
  if frame.header.hopLimit = 0 ∨ frame.header.fromNode = self.nodeId then none else some frame.fwd

/-- A frame of another node with hops left is forwarded. -/
theorem forwardOf_isSome_iff {self : MeshNode} {frame : MeshFrame} :
    (self.forwardOf frame).isSome ↔
      frame.header.hopLimit ≠ 0 ∧ frame.header.fromNode ≠ self.nodeId := by
  rw [forwardOf]
  split <;> rename_i h
  · simpa using fun hhop => h.resolve_left hhop
  · simpa using h

/-- What is forwarded is the frame with one hop less. -/
theorem forwardOf_eq_some_iff {self : MeshNode} {frame fwd : MeshFrame} :
    self.forwardOf frame = some fwd ↔
      (frame.header.hopLimit ≠ 0 ∧ frame.header.fromNode ≠ self.nodeId) ∧ frame.fwd = fwd := by
  rw [forwardOf]
  split <;> rename_i h
  · simpa using fun hhop hself => absurd (h.resolve_left hhop) hself
  · simpa using fun _ => not_or.mp h

/-- The code's test for another channel is the negation of `admits`. -/
theorem refused_iff {self : MeshNode} {h : MeshHeader} :
    (!h.viaMqtt && h.channelHash != self.channel.channelHash) = false ↔
      self.channel.admits h := by
  rw [Bool.and_eq_false_iff]
  simp [ChannelConfig.admits]

section

variable [Prost]

/-- The message of a frame with decoded body `data`. -/
def messageOf (self : MeshNode) (frame : MeshFrame) (data : Data) : MeshMessage where
  fromNode := frame.header.fromNode
  toNode := frame.header.toNode
  data := data
  hopLimit := frame.header.hopLimit
  selfOrigin := frame.header.fromNode == self.nodeId

/-- The `User` that a body introduces its sender as: one under the `NODEINFO_APP` port that
    decodes. -/
def introduction (plaintext : List UInt8) : Option User :=
  match Prost.decodeData plaintext with
  | .error _ => none
  | .ok data =>
    if data.portnum = Prost.nodeinfoApp then (Data.decodeUser data).toOption else none

/-- A plaintext introduces a user exactly if it is NodeInfo data that decode to one. -/
theorem introduction_eq_some_iff {plaintext : List UInt8} {user : User} :
    introduction plaintext = some user ↔ ∃ data, Prost.decodeData plaintext = .ok data ∧
      data.portnum = Prost.nodeinfoApp ∧ Data.decodeUser data = .ok user := by
  rw [introduction]
  cases Prost.decodeData plaintext with
  | error e => simp
  | ok data => cases huser : Data.decodeUser data <;> simp [huser, Except.toOption]

/-- The entry of a node under the names of `user`. -/
def infoOf (n : UInt32) (user : User) : NodeInfo :=
  { nodeId := n, shortName := user.shortName, longName := user.longName, lastRssi := none }

/-- The neighbour table once a body of `fromNode` is decoded. -/
def learned (self : MeshNode) (fromNode : UInt32) (plaintext : List UInt8) : NeighbourTable :=
  match introduction plaintext with
  | some user => self.neighbours.update (infoOf fromNode user)
  | none => self.neighbours

/-- Decoding succeeds or fails on the body alone and touches the neighbour table only. -/
theorem decodePayload_eq (self : MeshNode) (toNode fromNode : UInt32) (hopLimit : UInt8)
    (plaintext : List UInt8) :
    self.decodePayload toNode fromNode hopLimit plaintext =
      (match Prost.decodeData plaintext with
        | .error e => .error (.proto e)
        | .ok data => .ok { fromNode, toNode, data, hopLimit, selfOrigin := false },
      { self with neighbours := self.learned fromNode plaintext }) := by
  rw [decodePayload, learned, introduction]
  cases Prost.decodeData plaintext with
  | error e => rfl
  | ok data =>
    by_cases hport : data.portnum = Prost.nodeinfoApp
    · -- a `User` that does not decode is passed over in silence
      cases huser : Data.decodeUser data with
      | error e => simp [hport, huser, Except.toOption]
      | ok user => simp [hport, huser, Except.toOption, infoOf]
    · simp [hport]

/-- Why an input that is not checked is refused. -/
def refusal (raw : List UInt8) : ProcessError :=
  if (MeshFrame.fromBytes raw).isNone then .malformed else .wrongChannel

variable [Aes256]

/-- The decrypted body. -/
def body (self : MeshNode) (frame : MeshFrame) : List UInt8 :=
  self.crypto.decrypt frame.header.id frame.header.fromNode frame.payload

/-! ## The three outcomes -/

variable {self : MeshNode} {raw : List UInt8} {frame : MeshFrame}

/-- A payload that is no frame of the channel is refused and changes nothing. -/
theorem processRxFrame_unchecked (h : self.channel.checked raw = none) :
    self.processRxFrame raw = (.error (refusal raw), self) := by
  rw [processRxFrame, refusal]
  cases hraw : MeshFrame.fromBytes raw with
  | none => rfl
  | some frame =>
    -- a full header, so the channel check is what failed
    have hpass : ¬ self.channel.admits frame.header := by
      intro ha
      rw [ChannelConfig.checked_eq_some_iff.mpr ⟨hraw, ha⟩] at h
      exact nomatch h
    rw [← refused_iff, Bool.not_eq_false] at hpass
    simp [hpass]

/-- A copy of a remembered frame is dropped and changes nothing. -/
theorem processRxFrame_seen (h : self.channel.checked raw = some frame)
    (hseen : frame.header.key ∈ self.dedup.entries) :
    self.processRxFrame raw = (.ok (none, none), self) := by
  obtain ⟨hraw, hpass⟩ := ChannelConfig.checked_eq_some_iff.mp h
  simp only [processRxFrame, hraw, refused_iff.mpr hpass, Bool.false_eq_true, if_false]
  rw [route_of_seen hseen]

/-- A new frame is remembered, may introduce a neighbour, and is delivered or forwarded. -/
theorem processRxFrame_new (h : self.channel.checked raw = some frame)
    (hnew : frame.header.key ∉ self.dedup.entries) :
    self.processRxFrame raw =
      (if frame.header.forUs self.nodeId then
          match Prost.decodeData (self.body frame) with
          | .error e => .error (.proto e)
          | .ok data => .ok (some (self.messageOf frame data), self.forwardOf frame)
        else .ok (none, self.forwardOf frame),
      { self.accept frame.header with
        neighbours :=
          if frame.header.forUs self.nodeId then
            self.learned frame.header.fromNode (self.body frame)
          else self.neighbours }) := by
  obtain ⟨hraw, hpass⟩ := ChannelConfig.checked_eq_some_iff.mp h
  have hdec := (self.accept frame.header).decodePayload_eq frame.header.toNode
    frame.header.fromNode frame.header.hopLimit (self.body frame)
  simp only [accept, body, nodeId, learned] at hdec ⊢
  simp only [processRxFrame, hraw, refused_iff.mpr hpass, Bool.false_eq_true, if_false]
  rw [route_of_new hnew]
  -- the four decisions, by address and by hops left
  by_cases hus : frame.header.forUs self.localNode.nodeId <;>
    by_cases hhop : frame.header.hopLimit = 0
  · simp only [hus, if_true, if_pos hhop, RouteDecision.of, hdec]
    cases Prost.decodeData (self.crypto.decrypt _ _ _) with
    | error e => rfl
    | ok data => simp [messageOf, forwardOf, nodeId, hhop]
  · simp only [hus, if_true, if_neg hhop, RouteDecision.of, hdec]
    cases Prost.decodeData (self.crypto.decrypt _ _ _) with
    | error e => rfl
    | ok data => simp [messageOf, forwardOf, nodeId, hhop]
  · simp [hus, hhop, RouteDecision.of, forwardOf]
  · simp [hus, hhop, RouteDecision.of, forwardOf, nodeId]

/-! ## What one call changes -/

/-- One call is at most one insertion into the cache. -/
theorem processRxFrame_entries (self : MeshNode) (raw : List UInt8) :
    (self.processRxFrame raw).2.dedup.entries =
      match self.channel.checked raw with
      | none => self.dedup.entries
      | some frame => Fifo.insert dedupCapacity frame.header.key self.dedup.entries := by
  cases h : self.channel.checked raw with
  | none =>
    have he := processRxFrame_unchecked h
    rw [he]
  | some frame =>
    by_cases hseen : frame.header.key ∈ self.dedup.entries
    · -- a hit leaves the cache as it is
      rw [processRxFrame_seen h hseen]
      exact (Fifo.insert_of_mem hseen).symm
    · have hnew := processRxFrame_new h hseen
      rw [hnew]
      exact self.dedup.entries_checkAndInsert _ _

/-- The node's identity, cipher and channel stay. -/
theorem processRxFrame_snd (self : MeshNode) (raw : List UInt8) :
    ∃ dedup neighbours, (self.processRxFrame raw).2 = { self with dedup, neighbours } := by
  -- in each of the three outcomes
  cases h : self.channel.checked raw with
  | none =>
    have he := processRxFrame_unchecked h
    exact ⟨self.dedup, self.neighbours, by rw [he]⟩
  | some frame =>
    by_cases hseen : frame.header.key ∈ self.dedup.entries
    · exact ⟨self.dedup, self.neighbours, by rw [processRxFrame_seen h hseen]⟩
    · have hnew := processRxFrame_new h hseen
      exact ⟨_, _, by rw [hnew]; rfl⟩

@[simp] theorem processRxFrame_nodeId (self : MeshNode) (raw : List UInt8) :
    (self.processRxFrame raw).2.nodeId = self.nodeId := by
  obtain ⟨dedup, neighbours, h⟩ := self.processRxFrame_snd raw
  rw [h]
  rfl

@[simp] theorem processRxFrame_channel (self : MeshNode) (raw : List UInt8) :
    (self.processRxFrame raw).2.channel = self.channel := by
  obtain ⟨dedup, neighbours, h⟩ := self.processRxFrame_snd raw
  rw [h]

/-! ## Delivery and relaying -/

/-- The frame is new and `forwardOf` would relay it. -/
def relayable (self : MeshNode) (frame : MeshFrame) : Prop :=
  frame.header.key ∉ self.dedup.entries ∧ frame.header.hopLimit ≠ 0 ∧
    frame.header.fromNode ≠ self.nodeId

/-- The frame is addressed here and its decrypted body is not a `Data`. -/
def undecodable (self : MeshNode) (frame : MeshFrame) : Prop :=
  frame.header.forUs self.nodeId ∧ ∃ e, Prost.decodeData (self.body frame) = .error e

/-- What is forwarded is a relayable frame whose body does not spoil the call. -/
theorem forward?_eq_some_iff {fwd : MeshFrame} (h : self.channel.checked raw = some frame) :
    forward? (self.processRxFrame raw).1 = some fwd ↔
      self.relayable frame ∧ ¬ self.undecodable frame ∧ frame.fwd = fwd := by
  by_cases hseen : frame.header.key ∈ self.dedup.entries
  · rw [processRxFrame_seen h hseen]
    simp [forward?, relayable, hseen]
  · have hnew := processRxFrame_new h hseen
    have hrel : self.relayable frame ↔
        frame.header.hopLimit ≠ 0 ∧ frame.header.fromNode ≠ self.nodeId := by
      simp [relayable, hseen]
    rw [hnew, hrel]
    -- only a frame for this node has its body decoded
    by_cases hus : frame.header.forUs self.nodeId
    · cases hdec : Prost.decodeData (self.body frame) with
      | error e => simp [forward?, undecodable, hus, hdec]
      | ok data => simp [forward?, undecodable, hus, hdec, forwardOf_eq_some_iff]
    · simp [forward?, undecodable, hus, forwardOf_eq_some_iff]

/-- What is delivered is a new frame for this node whose body decodes. -/
theorem message?_eq_some_iff {msg : MeshMessage} (h : self.channel.checked raw = some frame) :
    message? (self.processRxFrame raw).1 = some msg ↔
      frame.header.key ∉ self.dedup.entries ∧ frame.header.forUs self.nodeId ∧
        ∃ data, Prost.decodeData (self.body frame) = .ok data ∧
          self.messageOf frame data = msg := by
  by_cases hseen : frame.header.key ∈ self.dedup.entries
  · rw [processRxFrame_seen h hseen]
    simp [message?, hseen]
  · have hnew := processRxFrame_new h hseen
    rw [hnew]
    by_cases hus : frame.header.forUs self.nodeId
    · cases hdec : Prost.decodeData (self.body frame) with
      | error e => simp [message?, hus]
      | ok data => simp [message?, hus, hseen]
    · simp [message?, hus]

/-- Only a checked frame that should be relayed is handed back. -/
theorem relayable_of_forward? {fwd : MeshFrame}
    (h : forward? (self.processRxFrame raw).1 = some fwd) :
    ∃ frame, self.channel.checked raw = some frame ∧ self.relayable frame ∧ frame.fwd = fwd := by
  cases hraw : self.channel.checked raw with
  | none =>
    have he := processRxFrame_unchecked hraw
    rw [he] at h
    exact nomatch h
  | some frame =>
    obtain ⟨hrel, -, hfwd⟩ := (forward?_eq_some_iff hraw).mp h
    exact ⟨frame, rfl, hrel, hfwd⟩

/-- If the body decodes, delivery and forwarding do not touch each other. -/
theorem processRxFrame_decodable {data : Data} (h : self.channel.checked raw = some frame)
    (hnew : frame.header.key ∉ self.dedup.entries)
    (hdec : Prost.decodeData (self.body frame) = .ok data) :
    (self.processRxFrame raw).1 =
      .ok (if frame.header.forUs self.nodeId then some (self.messageOf frame data) else none,
        self.forwardOf frame) := by
  have hrx := processRxFrame_new h hnew
  rw [hrx, hdec]
  split <;> rfl

/-! ## Relaying and the body -/

/-- A frame is forwarded exactly if it is relayable and its body does not spoil the call. -/
theorem isSome_forward?_iff (h : self.channel.checked raw = some frame) :
    (forward? (self.processRxFrame raw).1).isSome ↔
      self.relayable frame ∧ ¬ self.undecodable frame := by
  rw [Option.isSome_iff_exists]
  simp only [forward?_eq_some_iff h]
  exact ⟨fun ⟨_, hrel, hund, _⟩ => ⟨hrel, hund⟩, fun ⟨hrel, hund⟩ => ⟨_, hrel, hund, rfl⟩⟩

end

/-- The relaying decision is a function of the header, the node's id and its cache
    unless a frame that should be relayed is addressed here and undecodable: the `?`
    on the decoder's result loses the frame. Two runs that agree on those three decide
    alike unless just one of them is in that case. -/
theorem relaying_ignores_body_iff [Prost] [Aes256] :
    (∀ (node : MeshNode) (raw : List UInt8) (frame : MeshFrame),
      MeshFrame.fromBytes raw = some frame → node.channel.admits frame.header →
      (((forward? (node.processRxFrame raw).1).isSome ↔
          frame.header.key ∉ node.dedup.entries ∧ frame.header.hopLimit ≠ 0 ∧
            frame.header.fromNode ≠ node.nodeId) ↔
        ¬ (node.relayable frame ∧ node.undecodable frame))) ∧
    (∀ (node₁ node₂ : MeshNode) (raw₁ raw₂ : List UInt8) (frame₁ frame₂ : MeshFrame),
      MeshFrame.fromBytes raw₁ = some frame₁ → MeshFrame.fromBytes raw₂ = some frame₂ →
      frame₁.header = frame₂.header → node₁.channel.admits frame₁.header →
      node₁.nodeId = node₂.nodeId → node₁.channel.channelHash = node₂.channel.channelHash →
      node₁.dedup = node₂.dedup →
      (((forward? (node₁.processRxFrame raw₁).1).isSome ↔
          (forward? (node₂.processRxFrame raw₂).1).isSome) ↔
        (node₁.relayable frame₁ ∧ node₁.undecodable frame₁ ↔
          node₂.relayable frame₂ ∧ node₂.undecodable frame₂))) := by
  constructor
  · intro node raw frame hraw hpass
    rw [isSome_forward?_iff (ChannelConfig.checked_eq_some_iff.mpr ⟨hraw, hpass⟩)]
    change (_ ↔ node.relayable frame) ↔ _
    tauto
  · intro node₁ node₂ raw₁ raw₂ frame₁ frame₂ hraw₁ hraw₂ hheader hpass₁ hid hhash hdedup
    have hpass₂ : node₂.channel.admits frame₂.header := by
      rwa [ChannelConfig.admits, ← hheader, ← hhash]
    -- whether a frame should be relayed is read off what the two runs share
    have hrel : node₁.relayable frame₁ ↔ node₂.relayable frame₂ := by
      simp only [relayable, hheader, hid, hdedup]
    rw [isSome_forward?_iff (ChannelConfig.checked_eq_some_iff.mpr ⟨hraw₁, hpass₁⟩),
      isSome_forward?_iff (ChannelConfig.checked_eq_some_iff.mpr ⟨hraw₂, hpass₂⟩)]
    tauto

/-- One header over two bodies that decode: node 9 relays both. -/
theorem relaying_ignores_body_iff_sample :
    (@forward? Samples.shortProst (@processRxFrame Samples.shortProst Samples.blockAes
      (Samples.node 9) (Samples.hi 3).toBytes).1).isSome ∧
    (@forward? Samples.shortProst (@processRxFrame Samples.shortProst Samples.blockAes
      (Samples.node 9) Samples.ho.toBytes).1).isSome := by
  obtain ⟨hone, htwo⟩ := @relaying_ignores_body_iff Samples.shortProst Samples.blockAes
  -- the sample codec decodes both bodies
  have hhi : ¬ @undecodable Samples.shortProst Samples.blockAes (Samples.node 9)
      (Samples.hi 3) := by
    rintro ⟨-, e, he⟩
    exact nomatch he
  have hho : ¬ @undecodable Samples.shortProst Samples.blockAes (Samples.node 9) Samples.ho := by
    rintro ⟨-, e, he⟩
    exact nomatch he
  have hsome := ((hone (Samples.node 9) (Samples.hi 3).toBytes (Samples.hi 3) (by decide)
    (by decide)).mpr (fun h => hhi h.2)).mpr (by decide)
  have hsame := (htwo (Samples.node 9) (Samples.node 9) (Samples.hi 3).toBytes Samples.ho.toBytes
    (Samples.hi 3) Samples.ho (by decide) (by decide) rfl (by decide) rfl rfl rfl).mpr
    ⟨fun h => absurd h.2 hhi, fun h => absurd h.2 hho⟩
  exact ⟨hsome, hsame.mp hsome⟩

/-- A broadcast whose body decrypts to the one byte zero, which no `Data` starts with. -/
theorem undecodable_body_is_not_relayed :
    MeshFrame.fromBytes Samples.garbled.toBytes = some Samples.garbled ∧
      (Samples.node 9).channel.admits Samples.garbled.header ∧
      Samples.garbled.header.key ∉ (Samples.node 9).dedup.entries ∧
      Samples.garbled.header.hopLimit ≠ 0 ∧
      Samples.garbled.header.fromNode ≠ (Samples.node 9).nodeId ∧
      @forward? Samples.shortProst (@processRxFrame Samples.shortProst Samples.blockAes
        (Samples.node 9) Samples.garbled.toBytes).1 = none ∧
      Samples.garbled.header = (Samples.hi 3).header ∧
      @forward? Samples.shortProst (@processRxFrame Samples.shortProst Samples.blockAes
        (Samples.node 9) (Samples.hi 3).toBytes).1 = some (Samples.hi 2) := by
  decide +kernel

end MeshNode

end Mesh
