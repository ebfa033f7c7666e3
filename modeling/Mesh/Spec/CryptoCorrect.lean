import Mesh.Native.Crypto

/-!
# No counter block is used twice

A packet of `len` bytes consumes the counter blocks `consumedBlocks` and no
others (`encrypt_congr`). The nonce keeps its last four bytes zero and the
counter runs in them, so up to `2 ^ 32` blocks no carry reaches the sender's id
and packets with different `(id, from)` stay apart.
-/

namespace Mesh

namespace MeshCrypto

/-- The counter blocks that encrypting `len` bytes feeds to the cipher. -/
def consumedBlocks (packetId fromNode : UInt32) (len : Nat) : List (BitVec (8 * 16)) :=
  Ctr.usedBlocks (initialBlock packetId fromNode) len

/-- Block `i` is the nonce read as a big-endian number, plus `i` modulo `2 ^ 128`. -/
theorem consumedBlocks_eq (packetId fromNode : UInt32) (len : Nat) :
    consumedBlocks packetId fromNode len =
      (List.range ((len + 15) / 16)).map fun i =>
        BitVec.ofNat 128 (Bytes.beNat (nonce packetId fromNode) + i) := by
  refine List.map_congr_left fun i _ => ?_
  simp [Ctr.counterBlock, initialBlock, Ctr.ofBytes, BitVec.ofNat_add]

/-- Two ciphers that agree on the consumed blocks encrypt the packet alike. -/
theorem encrypt_congr (aes aes' : Aes256) (self : MeshCrypto) (packetId fromNode : UInt32)
    (plaintext : List UInt8)
    (h : ∀ b ∈ consumedBlocks packetId fromNode plaintext.length,
      aes.encryptBlock self.psk b = aes'.encryptBlock self.psk b) :
    @encrypt aes self packetId fromNode plaintext =
      @encrypt aes' self packetId fromNode plaintext :=
  Ctr.applyKeystream_congr (by decide) h

/-! ## The layout of the initial block -/

/-- The big-endian value of the nonce: both words byte-swapped, 32 zero bits after each. -/
theorem beNat_nonce (packetId fromNode : UInt32) :
    Bytes.beNat (nonce packetId fromNode) =
      Bytes.beNat packetId.toLeBytes * 2 ^ 96 + Bytes.beNat fromNode.toLeBytes * 2 ^ 32 := by
  have hzero : Bytes.beNat [0, 0, 0, 0] = 0 := rfl
  simp only [nonce, Bytes.beNat_append, hzero, UInt32.length_toLeBytes, List.length_cons,
    List.length_nil]
  ring

/-- The first counter block is the nonce. -/
theorem toNat_initialBlock (packetId fromNode : UInt32) :
    (initialBlock packetId fromNode).toNat = Bytes.beNat (nonce packetId fromNode) := by
  have hlt := Bytes.beNat_lt (nonce packetId fromNode)
  have hwidth : 256 ^ (nonce packetId fromNode).length = 2 ^ (8 * 16) := by
    simp [nonce]
  rw [hwidth] at hlt
  rw [initialBlock, Ctr.ofBytes, BitVec.toNat_ofNat, Nat.mod_eq_of_lt hlt]

/-- The counter's 32 bits start at zero. -/
theorem initialBlock_aligned (packetId fromNode : UInt32) :
    (initialBlock packetId fromNode).toNat % 2 ^ 32 = 0 := by
  rw [toNat_initialBlock, beNat_nonce]
  omega

/-- Different packets start at different blocks. -/
theorem initialBlock_inj {packetId fromNode packetId' fromNode' : UInt32}
    (h : initialBlock packetId fromNode = initialBlock packetId' fromNode') :
    packetId = packetId' ∧ fromNode = fromNode' := by
  have hbe := congrArg BitVec.toNat h
  rw [toNat_initialBlock, toNat_initialBlock, beNat_nonce, beNat_nonce] at hbe
  have hword : ∀ v : UInt32, Bytes.beNat v.toLeBytes < 2 ^ 32 := by
    intro v
    have hlt := Bytes.beNat_lt v.toLeBytes
    rwa [UInt32.length_toLeBytes, show 256 ^ 4 = 2 ^ 32 by decide] at hlt
  -- the sender's word cannot spill over into the id's
  have hfrom := hword fromNode
  have hfrom' := hword fromNode'
  exact ⟨UInt32.toLeBytes_inj (Bytes.beNat_inj rfl (by omega)),
    UInt32.toLeBytes_inj (Bytes.beNat_inj rfl (by omega))⟩

/-! ## Disjointness -/

/-- Up to `2 ^ 32` blocks, the counter blocks of one packet are pairwise distinct and
    those of packets that differ in id or sender are disjoint; and they are all that encrypting
    it asks of the cipher. -/
theorem consumedBlocks_never_shared (packetId fromNode packetId' fromNode' : UInt32)
    (len len' : Nat) (hlen : len ≤ 16 * 2 ^ 32) (hlen' : len' ≤ 16 * 2 ^ 32) :
    (consumedBlocks packetId fromNode len).Nodup ∧
      ((packetId, fromNode) ≠ (packetId', fromNode') →
        (consumedBlocks packetId fromNode len).Disjoint
          (consumedBlocks packetId' fromNode' len')) ∧
      ∀ (aes aes' : Aes256) (self : MeshCrypto) (plaintext : List UInt8),
        plaintext.length = len →
        (∀ b ∈ consumedBlocks packetId fromNode len,
          aes.encryptBlock self.psk b = aes'.encryptBlock self.psk b) →
        @encrypt aes self packetId fromNode plaintext =
          @encrypt aes' self packetId fromNode plaintext := by
  refine ⟨Ctr.nodup_usedBlocks (s := 32) (by decide) (initialBlock_aligned _ _) (by omega), ?_,
    fun aes aes' self plaintext hlength hagree => ?_⟩
  swap
  · subst hlength
    exact encrypt_congr aes aes' self packetId fromNode plaintext hagree
  -- a common block would mean a common start, so the same id and sender
  intro hne
  refine Ctr.disjoint_usedBlocks (s := 32) (by decide) (initialBlock_aligned _ _)
    (initialBlock_aligned _ _) ?_ (by omega) (by omega)
  intro h
  obtain ⟨rfl, rfl⟩ := initialBlock_inj h
  exact hne rfl

/-- Two full-size packets of one sender, with ids whose first bytes are adjacent. -/
theorem consumedBlocks_never_shared_sample :
    (consumedBlocks 1 5 237).Nodup ∧
      (consumedBlocks 1 5 237).Disjoint (consumedBlocks 2 5 237) := by
  have h := consumedBlocks_never_shared 1 5 2 5 237 237 (by decide) (by decide)
  exact ⟨h.1, h.2.1 (by decide)⟩

end MeshCrypto

end Mesh
