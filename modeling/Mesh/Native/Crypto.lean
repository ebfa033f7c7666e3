import Mesh.ForStd.Ctr

/-!
# Payload encryption (`mac/crypto.rs`)

AES-256 in CTR mode with a 128-bit big-endian counter that starts at a nonce
built from the packet header. The block cipher is the `aes` crate's and enters
as the class `Aes256`; the counter mode around it is `ForStd.Ctr`.
-/

namespace Mesh

/-- The `aes` crate: one block under a 256-bit key. A block is the big-endian
    number its 16 bytes spell. -/
class Aes256 where
  encryptBlock : Vector UInt8 32 → BitVec (8 * 16) → BitVec (8 * 16)

/-- Holds a channel PSK. -/
structure MeshCrypto where
  psk : Vector UInt8 32
deriving DecidableEq

namespace MeshCrypto

/-- The public channel PSK: `0x01` padded to 32 bytes. -/
def publicPsk : Vector UInt8 32 := (Vector.replicate 32 0).set 0 0x01

/-- `[packet_id LE, 0×4, from_node LE, 0×4]`. -/
def nonce (packetId fromNode : UInt32) : List UInt8 :=
  packetId.toLeBytes ++ [0, 0, 0, 0] ++ fromNode.toLeBytes ++ [0, 0, 0, 0]

/-- The block the cipher's counter starts at: `Ctr128BE` reads the nonce as one
    big-endian number. -/
def initialBlock (packetId fromNode : UInt32) : BitVec (8 * 16) :=
  Ctr.ofBytes 16 (nonce packetId fromNode)

section

variable [Aes256]

/-- XOR with the key stream of AES-256 in counter mode. -/
def applyKeystream (self : MeshCrypto) (packetId fromNode : UInt32) (buf : List UInt8) :
    List UInt8 :=
  Ctr.applyKeystream (Aes256.encryptBlock self.psk) (initialBlock packetId fromNode) buf

/-- CTR mode under the nonce of this packet id and sender. -/
def encrypt (self : MeshCrypto) (packetId fromNode : UInt32) (plaintext : List UInt8) :
    List UInt8 :=
  self.applyKeystream packetId fromNode plaintext

/-- CTR mode: the same operation as `encrypt`. -/
def decrypt (self : MeshCrypto) (packetId fromNode : UInt32) (ciphertext : List UInt8) :
    List UInt8 :=
  self.encrypt packetId fromNode ciphertext

/-- What is encrypted is decrypted under the same packet id and sender. -/
@[simp] theorem decrypt_encrypt (self : MeshCrypto) (packetId fromNode : UInt32)
    (plaintext : List UInt8) :
    self.decrypt packetId fromNode (self.encrypt packetId fromNode plaintext) = plaintext :=
  Ctr.applyKeystream_applyKeystream _ _ _

/-- Encryption keeps the length. -/
@[simp] theorem length_encrypt (self : MeshCrypto) (packetId fromNode : UInt32)
    (plaintext : List UInt8) :
    (self.encrypt packetId fromNode plaintext).length = plaintext.length :=
  Ctr.length_applyKeystream _ _ _

end

end MeshCrypto

end Mesh
