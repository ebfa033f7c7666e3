import Mesh.ForStd.Bytes

/-!
# Over-the-air packet framing (`mac/packet.rs`)

A frame is a 16-byte plaintext header followed by the encrypted body. The
header holds three little-endian words, one flags byte, the channel hash and
two reserved zero bytes.
-/

namespace Mesh

def headerLen : Nat := 16

/-- 253 bytes LoRa maximum less the 16-byte header. -/
def maxPayload : Nat := 237

def broadcast : UInt32 := 0xFFFFFFFF

/-- Decoded over-the-air header. `toNode` and `fromNode` are the fields `to` and
    `from`, which are keywords here. -/
structure MeshHeader where
  toNode : UInt32
  fromNode : UInt32
  id : UInt32
  hopLimit : UInt8
  wantAck : Bool
  viaMqtt : Bool
  hopStart : UInt8
  channelHash : UInt8
deriving DecidableEq

namespace MeshHeader

/-- Byte 12: `hop_limit[2:0] | want_ack[3] | via_mqtt[4] | hop_start[7:5]`. -/
def flags (self : MeshHeader) : UInt8 :=
  (self.hopLimit &&& (0x07 : UInt8))
    ||| (if self.wantAck then 0x08 else 0)
    ||| (if self.viaMqtt then 0x10 else 0)
    ||| (self.hopStart &&& (0x07 : UInt8)) <<< (5 : UInt8)

/-- Serialise into a 16-byte on-air header. -/
def encode (self : MeshHeader) : List UInt8 :=
  self.toNode.toLeBytes ++ self.fromNode.toLeBytes ++ self.id.toLeBytes ++
    -- the last two bytes are reserved
    [self.flags, self.channelHash, 0x00, 0x00]

/-- Deserialise from a 16-byte on-air header. -/
def decode (buf : List UInt8) : Option MeshHeader :=
  if buf.length < headerLen then none
  else
    let flags := buf.getD 12 0
    some {
      toNode := UInt32.ofLeBytes (buf.extract 0 4)
      fromNode := UInt32.ofLeBytes (buf.extract 4 8)
      id := UInt32.ofLeBytes (buf.extract 8 12)
      hopLimit := flags &&& 0x07
      wantAck := flags &&& 0x08 != 0
      viaMqtt := flags &&& 0x10 != 0
      hopStart := (flags >>> 5) &&& 0x07
      channelHash := buf.getD 13 0 }

end MeshHeader

/-- A complete over-the-air frame: header and encrypted body. -/
structure MeshFrame where
  header : MeshHeader
  payload : List UInt8
deriving DecidableEq

namespace MeshFrame

/-- Encode to raw bytes ready for the LoRa TX pipeline. -/
def toBytes (self : MeshFrame) : List UInt8 := self.header.encode ++ self.payload

/-- Decode from raw bytes received from the LoRa RX pipeline. -/
def fromBytes (raw : List UInt8) : Option MeshFrame := do
  let header ← MeshHeader.decode raw
  some { header, payload := raw.drop headerLen }

end MeshFrame

end Mesh
