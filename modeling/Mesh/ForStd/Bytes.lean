import Mathlib.Data.Nat.Bits
import Mathlib.Tactic.Ring

/-!
# Byte strings read as numbers

Little- and big-endian values of byte lists, and the four-byte little-endian
form of a `UInt32`. Byte strings are `List UInt8`; the value of a byte string is
a `Nat`, so no width enters until a word is built from it.
-/

namespace Bytes

/-- The value of a byte string, least significant byte first. -/
def leNat (bs : List UInt8) : Nat :=
  bs.foldr (fun b acc => b.toNat + 256 * acc) 0

/-- The value of a byte string, most significant byte first. -/
def beNat (bs : List UInt8) : Nat :=
  bs.foldl (fun acc b => 256 * acc + b.toNat) 0

@[simp] theorem leNat_nil : leNat [] = 0 := rfl

/-- `leNat` with the lowest byte apart. -/
@[simp] theorem leNat_cons (b : UInt8) (bs : List UInt8) :
    leNat (b :: bs) = b.toNat + 256 * leNat bs := rfl

/-- A byte string of length `n` has a value below `256 ^ n`. -/
theorem leNat_lt (bs : List UInt8) : leNat bs < 256 ^ bs.length := by
  induction bs with
  | nil => simp
  | cons b bs ih =>
    have hb : b.toNat < 256 := b.toNat_lt
    simp only [leNat_cons, List.length_cons, Nat.pow_succ]
    omega

/-- Reading from the other end is reading the reversed string. -/
theorem beNat_eq_leNat_reverse (bs : List UInt8) : beNat bs = leNat bs.reverse := by
  simp only [beNat, leNat, List.foldr_reverse]
  congr 1
  funext acc b
  exact Nat.add_comm _ _

/-- A number of `n` bytes is below `256 ^ n`. -/
theorem beNat_lt (bs : List UInt8) : beNat bs < 256 ^ bs.length := by
  have h := leNat_lt bs.reverse
  rwa [List.length_reverse, ← beNat_eq_leNat_reverse] at h

/-- The fold behind `beNat` started at `n` shifts `n` past the string. -/
private theorem foldl_be_init (n : Nat) (bs : List UInt8) :
    bs.foldl (fun acc b => 256 * acc + b.toNat) n = n * 256 ^ bs.length + beNat bs := by
  induction bs generalizing n with
  | nil => simp [beNat]
  | cons b bs ih =>
    have hb : beNat (b :: bs) = b.toNat * 256 ^ bs.length + beNat bs := by
      rw [← ih b.toNat]; simp [beNat]
    rw [List.foldl_cons, ih, hb, List.length_cons, Nat.pow_succ]
    ring

/-- A number whose high bytes are `xs` and whose low bytes are `ys`. -/
theorem beNat_append (xs ys : List UInt8) :
    beNat (xs ++ ys) = beNat xs * 256 ^ ys.length + beNat ys := by
  conv_lhs => rw [beNat, List.foldl_append]
  exact foldl_be_init _ _

/-- Equal values of equally long strings have equal bytes. -/
theorem leNat_inj {xs ys : List UInt8} (hlen : xs.length = ys.length)
    (h : leNat xs = leNat ys) : xs = ys := by
  induction xs generalizing ys with
  | nil => exact (List.length_eq_zero_iff.mp hlen.symm).symm
  | cons x xs ih =>
    cases ys with
    | nil => simp at hlen
    | cons y ys =>
      simp only [leNat_cons] at h
      have hx : x.toNat < 256 := x.toNat_lt
      have hy : y.toNat < 256 := y.toNat_lt
      have hhead : x = y := UInt8.toNat_inj.mp (by omega)
      have htail : xs = ys := ih (by simpa using hlen) (by omega)
      rw [hhead, htail]

/-- Byte strings of one length are told apart by their numbers. -/
theorem beNat_inj {xs ys : List UInt8} (hlen : xs.length = ys.length)
    (h : beNat xs = beNat ys) : xs = ys := by
  rw [beNat_eq_leNat_reverse, beNat_eq_leNat_reverse] at h
  exact List.reverse_inj.mp (leNat_inj (by simpa using hlen) h)

end Bytes

namespace UInt32

/-- The four little-endian bytes of a word. -/
def toLeBytes (v : UInt32) : List UInt8 :=
  [v.toUInt8, (v >>> 8).toUInt8, (v >>> 16).toUInt8, (v >>> 24).toUInt8]

/-- The word whose little-endian bytes are given. -/
def ofLeBytes (bs : List UInt8) : UInt32 := UInt32.ofNat (Bytes.leNat bs)

@[simp] theorem length_toLeBytes (v : UInt32) : v.toLeBytes.length = 4 := rfl

/-- The little-endian bytes of a word have its value. -/
theorem leNat_toLeBytes (v : UInt32) : Bytes.leNat v.toLeBytes = v.toNat := by
  have hv : v.toNat < 2 ^ 32 := v.toNat_lt
  simp [toLeBytes, Nat.shiftRight_eq_div_pow]
  omega

/-- A word is read back from its bytes. -/
@[simp] theorem ofLeBytes_toLeBytes (v : UInt32) : ofLeBytes v.toLeBytes = v := by
  rw [ofLeBytes, leNat_toLeBytes, UInt32.ofNat_toNat]

/-- Four bytes survive being read as a word and written back. -/
theorem toLeBytes_ofLeBytes {bs : List UInt8} (h : bs.length = 4) :
    (ofLeBytes bs).toLeBytes = bs := by
  have hlt : Bytes.leNat bs < 2 ^ 32 := by
    have := Bytes.leNat_lt bs
    rwa [h] at this
  apply Bytes.leNat_inj (by simp [h])
  rw [leNat_toLeBytes, ofLeBytes, UInt32.toNat_ofNat', Nat.mod_eq_of_lt hlt]

/-- Words with the same little-endian bytes are equal. -/
theorem toLeBytes_inj {v w : UInt32} (h : v.toLeBytes = w.toLeBytes) : v = w := by
  rw [← ofLeBytes_toLeBytes v, h, ofLeBytes_toLeBytes]

end UInt32

/-- The UTF-8 bytes of a string. -/
def String.asBytes (s : String) : List UInt8 := s.toUTF8.data.toList

/-- The text comes back from its bytes. -/
theorem String.fromUTF8?_asBytes (s : String) : String.fromUTF8? ⟨s.asBytes.toArray⟩ = some s := by
  have hbytes : (⟨s.asBytes.toArray⟩ : ByteArray) = s.toByteArray := by
    simp [String.asBytes]
  rw [hbytes, String.fromUTF8?, dif_pos s.isValidUTF8]
  rfl

/-- A word in lower-case hexadecimal, padded with zeros to eight digits. -/
def UInt32.toHex8 (v : UInt32) : String :=
  let digits := Nat.toDigits 16 v.toNat
  String.ofList (List.replicate (8 - digits.length) '0' ++ digits)
