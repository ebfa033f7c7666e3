import Mathlib.Data.List.Nodup
import Mesh.ForStd.Bytes

/-!
# Counter mode with a big-endian counter

The keystream of a block cipher `E` in counter mode. A block of `m` bytes is the
big-endian number it spells, as a `BitVec (8 * m)`; the `i`-th counter block is
the initial block plus `i`, wrapping at the block size.

* `applyKeystream_applyKeystream`: applying the keystream twice is the identity.
* `applyKeystream_congr`: only `usedBlocks` of the cipher are read.
* `counterBlock_inj`: counter blocks of aligned initial blocks never meet.
-/

namespace Ctr

variable {m : Nat}

/-- The initial counter block spelled by `m` bytes. -/
def ofBytes (m : Nat) (bs : List UInt8) : BitVec (8 * m) := BitVec.ofNat (8 * m) (Bytes.beNat bs)

/-- Block `i` of the counter sequence that starts at `iv`. -/
def counterBlock (iv : BitVec (8 * m)) (i : Nat) : BitVec (8 * m) :=
  iv + BitVec.ofNat (8 * m) i

/-- Byte `k` of a block, the most significant byte first. -/
def blockByte (b : BitVec (8 * m)) (k : Nat) : UInt8 :=
  UInt8.ofNat (b.toNat >>> (8 * (m - 1 - k)))

/-- Byte `n` of the keystream. -/
def keystreamByte (E : BitVec (8 * m) → BitVec (8 * m)) (iv : BitVec (8 * m)) (n : Nat) : UInt8 :=
  blockByte (E (counterBlock iv (n / m))) (n % m)

/-- XOR the keystream into a buffer. -/
def applyKeystream (E : BitVec (8 * m) → BitVec (8 * m)) (iv : BitVec (8 * m))
    (buf : List UInt8) : List UInt8 :=
  buf.mapIdx fun n b => b ^^^ keystreamByte E iv n

/-- The counter blocks a buffer of `len` bytes consumes. -/
def usedBlocks (iv : BitVec (8 * m)) (len : Nat) : List (BitVec (8 * m)) :=
  (List.range ((len + (m - 1)) / m)).map (counterBlock iv)

/-- Counter mode keeps the length. -/
@[simp] theorem length_applyKeystream (E : BitVec (8 * m) → BitVec (8 * m))
    (iv : BitVec (8 * m)) (buf : List UInt8) :
    (applyKeystream E iv buf).length = buf.length := by
  simp [applyKeystream]

/-- Decryption is encryption: the keystream cancels itself. -/
@[simp] theorem applyKeystream_applyKeystream (E : BitVec (8 * m) → BitVec (8 * m))
    (iv : BitVec (8 * m)) (buf : List UInt8) :
    applyKeystream E iv (applyKeystream E iv buf) = buf := by
  apply List.ext_getElem (by simp)
  intro n h₁ h₂
  simp only [applyKeystream, List.getElem_mapIdx]
  rw [UInt8.xor_assoc, UInt8.xor_self, UInt8.xor_zero]

/-- A buffer is enciphered with the blocks of `usedBlocks` and no others. -/
theorem applyKeystream_congr {E E' : BitVec (8 * m) → BitVec (8 * m)} {iv : BitVec (8 * m)}
    {buf : List UInt8} (hm : 0 < m) (h : ∀ b ∈ usedBlocks iv buf.length, E b = E' b) :
    applyKeystream E iv buf = applyKeystream E' iv buf := by
  apply List.ext_getElem (by simp)
  intro n h₁ h₂
  have hn : n < buf.length := by simpa using h₁
  have hblock : n / m < (buf.length + (m - 1)) / m := by
    rw [Nat.div_lt_iff_lt_mul hm]
    have hmod := Nat.div_add_mod (buf.length + (m - 1)) m
    have hlt := Nat.mod_lt (buf.length + (m - 1)) hm
    rw [Nat.mul_comm] at hmod
    omega
  have hmem : counterBlock iv (n / m) ∈ usedBlocks iv buf.length :=
    List.mem_map.mpr ⟨n / m, List.mem_range.mpr hblock, rfl⟩
  simp only [applyKeystream, List.getElem_mapIdx, keystreamByte, h _ hmem]

/-- Two initial blocks whose low `s` bits are zero, advanced by less than `2 ^ s`,
    reach the same counter block only from the same start by the same advance. -/
theorem counterBlock_inj {s : Nat} (hs : s ≤ 8 * m) {iv iv' : BitVec (8 * m)}
    (hiv : iv.toNat % 2 ^ s = 0) (hiv' : iv'.toNat % 2 ^ s = 0) {i j : Nat}
    (hi : i < 2 ^ s) (hj : j < 2 ^ s) (h : counterBlock iv i = counterBlock iv' j) :
    iv = iv' ∧ i = j := by
  have hpow : 2 ^ s ∣ 2 ^ (8 * m) := Nat.pow_dvd_pow 2 hs
  -- no carry leaves the low `s` bits, so the sum does not wrap either
  have hnowrap : ∀ (v : BitVec (8 * m)) (n : Nat), v.toNat % 2 ^ s = 0 → n < 2 ^ s →
      (counterBlock v n).toNat = v.toNat + n := by
    intro v n hv hn
    have hlt : v.toNat < 2 ^ (8 * m) := v.isLt
    obtain ⟨c, hc⟩ := hpow
    obtain ⟨d, hd⟩ := Nat.dvd_of_mod_eq_zero hv
    have hdc : d < c := by
      rw [hd, hc] at hlt
      exact Nat.lt_of_mul_lt_mul_left hlt
    have hle : 2 ^ s * (d + 1) ≤ 2 ^ s * c := Nat.mul_le_mul_left _ hdc
    have hsum : v.toNat + n < 2 ^ (8 * m) := by
      rw [hc, hd]; rw [Nat.mul_add] at hle; omega
    have hn' : n < 2 ^ (8 * m) := by omega
    rw [counterBlock, BitVec.toNat_add, BitVec.toNat_ofNat, Nat.mod_eq_of_lt hn',
      Nat.mod_eq_of_lt hsum]
  have hsum : iv.toNat + i = iv'.toNat + j := by
    rw [← hnowrap iv i hiv hi, ← hnowrap iv' j hiv' hj, h]
  have hij : i = j := by
    have hmod := congrArg (· % 2 ^ s) hsum
    simpa [Nat.add_mod, hiv, hiv', Nat.mod_eq_of_lt hi, Nat.mod_eq_of_lt hj] using hmod
  exact ⟨BitVec.eq_of_toNat_eq (by omega), hij⟩

/-- The blocks one buffer consumes are pairwise distinct. -/
theorem nodup_usedBlocks {s : Nat} (hs : s ≤ 8 * m) {iv : BitVec (8 * m)}
    (hiv : iv.toNat % 2 ^ s = 0) {len : Nat} (hlen : (len + (m - 1)) / m ≤ 2 ^ s) :
    (usedBlocks iv len).Nodup := by
  refine List.Nodup.map_on ?_ List.nodup_range
  intro i hi j hj hij
  rw [List.mem_range] at hi hj
  exact (counterBlock_inj hs hiv hiv (by omega) (by omega) hij).2

/-- Buffers enciphered from different aligned initial blocks share no counter block. -/
theorem disjoint_usedBlocks {s : Nat} (hs : s ≤ 8 * m) {iv iv' : BitVec (8 * m)}
    (hiv : iv.toNat % 2 ^ s = 0) (hiv' : iv'.toNat % 2 ^ s = 0) (hne : iv ≠ iv')
    {len len' : Nat} (hlen : (len + (m - 1)) / m ≤ 2 ^ s)
    (hlen' : (len' + (m - 1)) / m ≤ 2 ^ s) :
    (usedBlocks iv len).Disjoint (usedBlocks iv' len') := by
  intro b hb hb'
  obtain ⟨i, hi, rfl⟩ := List.mem_map.mp hb
  obtain ⟨j, hj, hij⟩ := List.mem_map.mp hb'
  rw [List.mem_range] at hi hj
  exact hne (counterBlock_inj hs hiv hiv' (by omega) (by omega) hij.symm).1

end Ctr
