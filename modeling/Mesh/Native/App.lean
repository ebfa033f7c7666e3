import Mesh.Native.Crypto
import Mesh.Native.Node
import Mesh.Native.Proto
import Mesh.Native.Router

/-!
# The node (`app.rs`)

`MeshNode` ties identity, cipher, dedup cache and neighbour table together.
`processRxFrame` and `decodePayload` take `&mut self`, so they return the node
next to their result. `rand::random` is an argument of whatever draws from it.
-/

namespace Mesh

/-- Identifies a channel (name and PSK). -/
structure ChannelConfig where
  name : String
  psk : Vector UInt8 32
deriving DecidableEq

namespace ChannelConfig

/-- The built-in public channel. -/
def default : ChannelConfig := { name := "LongFast", psk := MeshCrypto.publicPsk }

/-- The name's bytes summed modulo 256, XORed with the last PSK byte. -/
def channelHash (self : ChannelConfig) : UInt8 :=
  let nameHash := self.name.asBytes.foldl (fun a b => a + b) 0
  nameHash ^^^ self.psk[31]

end ChannelConfig

/-- The top-level node. Every constructor keys the cipher with the channel's PSK
    and nothing rekeys it; `crypto_psk` records that. -/
structure MeshNode where
  localNode : LocalNode
  crypto : MeshCrypto
  channel : ChannelConfig
  dedup : DedupCache
  neighbours : NeighbourTable
  crypto_psk : crypto.psk = channel.psk

section

variable [Prost]

/-- An application-layer message received from the mesh. -/
structure MeshMessage where
  fromNode : UInt32
  toNode : UInt32
  data : Data
  /-- Hops remaining when received. -/
  hopLimit : UInt8
  /-- The packet originated from this node. -/
  selfOrigin : Bool

/-- Why a received payload was not processed. -/
inductive ProcessError
  /-- Raw bytes too short to contain a valid header. -/
  | malformed
  /-- The frame's `channel_hash` does not match this node's channel. -/
  | wrongChannel
  /-- Protobuf decoding failed. -/
  | proto (e : Prost.DecodeError)

namespace ProcessError

/-- The text of the error. -/
def toString : ProcessError → String
  | malformed => "malformed frame"
  | wrongChannel => "wrong channel"
  | proto e => "proto decode: " ++ Prost.showError e

end ProcessError

/-- A delivered message and a frame to relay, or the reason for refusing. -/
abbrev RxResult : Type := Except ProcessError (Option MeshMessage × Option MeshFrame)

end

namespace MeshNode

/-- The node every constructor builds around an identity. -/
def ofLocal (channel : ChannelConfig) (localNode : LocalNode) : MeshNode where
  localNode := localNode
  crypto := { psk := channel.psk }
  channel := channel
  dedup := DedupCache.new
  neighbours := NeighbourTable.default
  crypto_psk := rfl

/-- A node with a random id and the default names. -/
def new (random : UInt32) (channel : ChannelConfig) : MeshNode :=
  ofLocal channel (LocalNode.new random "mesh" "Meshtastic-rs node")

/-- A node with a random id and explicit names. -/
def withIdentity (random : UInt32) (channel : ChannelConfig) (shortName longName : String) :
    MeshNode :=
  ofLocal channel (LocalNode.new random shortName longName)

/-- A node with a specific id. -/
def withId (channel : ChannelConfig) (nodeId : UInt32) (shortName longName : String) :
    MeshNode :=
  ofLocal channel (LocalNode.withId nodeId shortName longName)

def nodeId (self : MeshNode) : UInt32 := self.localNode.nodeId

variable [Prost] [Aes256]

/-! ## TX helpers -/

/-- Encode a `Data` protobuf, encrypt it, and return a frame ready for the LoRa TX
    pipeline. `random` is the packet id drawn for it. -/
def buildFrame (self : MeshNode) (random : UInt32) (toNode : UInt32) (data : Data) :
    Option MeshFrame :=
  let plaintext := Prost.encodeData data
  if plaintext.length > maxPayload then none
  else
    let header : MeshHeader := {
      toNode
      fromNode := self.localNode.nodeId
      id := random
      hopLimit := 3
      hopStart := 3
      wantAck := false
      viaMqtt := false
      channelHash := self.channel.channelHash }
    let ciphertext := self.crypto.encrypt random self.localNode.nodeId plaintext
    some { header, payload := ciphertext }

/-- The `Data` of a text message. -/
def textData (text : String) : Data :=
  { portnum := Prost.textMessageApp, payload := text.asBytes, rest := Prost.dataDefault }

/-- Build a `TEXT_MESSAGE_APP` frame. -/
def buildTextFrame (self : MeshNode) (random : UInt32) (toNode : UInt32) (text : String) :
    Option MeshFrame :=
  self.buildFrame random toNode (textData text)

/-- Build a `NODEINFO_APP` beacon frame. -/
def buildNodeinfoFrame (self : MeshNode) (random : UInt32) : Option MeshFrame :=
  let user : User := {
    id := "!" ++ self.localNode.nodeId.toHex8
    longName := self.localNode.longName
    shortName := self.localNode.shortName
    rest := Prost.userDefault }
  self.buildFrame random broadcast user.encodeToData

/-! ## RX path -/

/-- Decode a delivered body, and update the neighbour table on `NODEINFO_APP`. -/
def decodePayload (self : MeshNode) (toNode fromNode : UInt32) (hopLimit : UInt8)
    (plaintext : List UInt8) : Except ProcessError MeshMessage × MeshNode :=
  match Prost.decodeData plaintext with
  | .error e => (.error (.proto e), self)
  | .ok data =>
    let self :=
      -- a `User` that does not decode is passed over, and the message delivered all the same
      if data.portnum = Prost.nodeinfoApp then
        match Data.decodeUser data with
        | .ok user => { self with
            neighbours := self.neighbours.update {
              nodeId := fromNode, shortName := user.shortName, longName := user.longName,
              lastRssi := none } }
        | .error _ => self
      else self
    (.ok { fromNode, toNode, data, hopLimit, selfOrigin := false }, self)

/-- Process a raw LoRa frame received from the PHY pipeline. -/
def processRxFrame (self : MeshNode) (raw : List UInt8) : RxResult × MeshNode :=
  match MeshFrame.fromBytes raw with
  | none => (.error .malformed, self)
  | some frame =>
    let h := frame.header
    -- MQTT-relayed packets carry no channel hash, so they skip the check
    if !h.viaMqtt && h.channelHash != self.channel.channelHash then
      (.error .wrongChannel, self)
    else
      -- the body is decrypted whether or not it is addressed here
      let plaintext := self.crypto.decrypt h.id h.fromNode frame.payload
      let isSelf := h.fromNode == self.localNode.nodeId
      let (decision, dedup) := route frame self.localNode.nodeId plaintext self.dedup
      let self := { self with dedup }
      match decision with
      | .drop => (.ok (none, none), self)
      | .forward fwd => (.ok (none, if isSelf then none else some fwd), self)
      | .deliver plaintext =>
        match self.decodePayload h.toNode h.fromNode h.hopLimit plaintext with
        -- the early return of `?`: nothing is handed back
        | (.error e, self) => (.error e, self)
        | (.ok msg, self) => (.ok (some { msg with selfOrigin := isSelf }, none), self)
      | .deliverAndForward plaintext fwd =>
        match self.decodePayload h.toNode h.fromNode h.hopLimit plaintext with
        | (.error e, self) => (.error e, self)
        | (.ok msg, self) =>
          (.ok (some { msg with selfOrigin := isSelf }, if isSelf then none else some fwd), self)

end MeshNode

end Mesh
