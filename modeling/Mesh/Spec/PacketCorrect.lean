import Mesh.Native.App

/-!
# The over-the-air codec round trips

Both directions of `MeshFrame.toBytes` and `MeshFrame.fromBytes`. Decoding loses
the two reserved bytes, encoding loses the hop fields' high bits
(`MeshFrame.normal`), and nothing else is lost.
-/

namespace Mesh

/-! ## The flags byte -/

/-- To check a property of a byte it is enough to check the numbers below 256. -/
private theorem forall_of_lt_256 {P : UInt8 → Prop} (h : ∀ n < 256, P (UInt8.ofNat n)) :
    ∀ x, P x :=
  fun x => UInt8.ofNat_toNat (x := x) ▸ h x.toNat x.toNat_lt

/-- The low three bits of a byte are its value modulo 8. -/
theorem and_seven_eq_mod : ∀ x : UInt8, x &&& 7 = x % 8 := by
  apply forall_of_lt_256
  decide +kernel

theorem and_seven_lt (x : UInt8) : x &&& 7 < 8 := by
  rw [and_seven_eq_mod, UInt8.lt_iff_toNat_lt, UInt8.toNat_mod]
  exact Nat.mod_lt _ (by decide)

/-- A number below eight has three bits. -/
theorem and_seven_of_lt {x : UInt8} (h : x < 8) : x &&& 7 = x := by
  rw [and_seven_eq_mod]
  apply UInt8.toNat_inj.mp
  rw [UInt8.lt_iff_toNat_lt] at h
  rw [UInt8.toNat_mod]
  exact Nat.mod_eq_of_lt h

/-- The four fields of a flags byte do not overlap. -/
private theorem unpack_flags : ∀ l < 8, ∀ s < 8, ∀ a m : Bool, ∀ f : UInt8,
    f = UInt8.ofNat l ||| (if a then 0x08 else 0) ||| (if m then 0x10 else 0)
      ||| UInt8.ofNat s <<< (5 : UInt8) →
    f &&& 7 = UInt8.ofNat l ∧ (f &&& 8 != 0) = a ∧ (f &&& 0x10 != 0) = m ∧
      f >>> 5 &&& 7 = UInt8.ofNat s := by
  simp only [forall_eq]
  decide

/-- Replacing the hop limit leaves the other five bits alone. -/
private theorem repack_flags : ∀ l < 8, ∀ n < 8, ∀ s < 8, ∀ a m : Bool,
    UInt8.ofNat n ||| (if a then 0x08 else 0) ||| (if m then 0x10 else 0)
        ||| UInt8.ofNat s <<< (5 : UInt8) =
      ((UInt8.ofNat l ||| (if a then 0x08 else 0) ||| (if m then 0x10 else 0)
        ||| UInt8.ofNat s <<< (5 : UInt8)) &&& 0xF8) ||| UInt8.ofNat n := by
  decide +kernel

/-- The four fields of a flags byte cover it. -/
private theorem pack_flags : ∀ f : UInt8,
    (f &&& (7 : UInt8) &&& (7 : UInt8)) ||| (if f &&& (8 : UInt8) != 0 then 0x08 else 0)
      ||| (if f &&& (0x10 : UInt8) != 0 then 0x10 else 0)
      ||| (f >>> (5 : UInt8) &&& (7 : UInt8) &&& (7 : UInt8)) <<< (5 : UInt8) = f := by
  apply forall_of_lt_256
  decide +kernel

namespace MeshHeader

/-- The header with its hop fields reduced to the three bits they have on air. -/
def normal (h : MeshHeader) : MeshHeader :=
  { h with hopLimit := h.hopLimit % 8, hopStart := h.hopStart % 8 }

/-- Both hop fields fit into three bits. -/
def InRange (h : MeshHeader) : Prop := h.hopLimit < 8 ∧ h.hopStart < 8

instance (h : MeshHeader) : Decidable h.InRange := inferInstanceAs (Decidable (_ ∧ _))

/-- A header in range is its own normal form. -/
theorem normal_eq_self {h : MeshHeader} (hr : h.InRange) : h.normal = h := by
  obtain ⟨hl, hs⟩ := hr
  have hl' : h.hopLimit % 8 = h.hopLimit := by rw [← and_seven_eq_mod, and_seven_of_lt hl]
  have hs' : h.hopStart % 8 = h.hopStart := by rw [← and_seven_eq_mod, and_seven_of_lt hs]
  rw [normal, hl', hs']

/-- Reading the flags byte gives the four fields back, the hop fields modulo 8. -/
theorem flags_fields (h : MeshHeader) :
    h.flags &&& 7 = h.hopLimit % 8 ∧ (h.flags &&& 8 != 0) = h.wantAck ∧
      (h.flags &&& 0x10 != 0) = h.viaMqtt ∧ h.flags >>> 5 &&& 7 = h.hopStart % 8 := by
  have hlow : ∀ x : UInt8, UInt8.ofNat (x.toNat % 8) = x % 8 := by
    apply forall_of_lt_256
    decide +kernel
  -- `flags` masks both hop fields before it packs them
  have hkey := unpack_flags (h.hopLimit.toNat % 8) (Nat.mod_lt _ (by decide))
    (h.hopStart.toNat % 8) (Nat.mod_lt _ (by decide)) h.wantAck h.viaMqtt h.flags
  simp only [hlow, ← and_seven_eq_mod] at hkey ⊢
  exact hkey rfl

/-- Setting the hop limit writes the low three bits of the flags byte. -/
theorem flags_with_hopLimit (h : MeshHeader) {n : Nat} (hn : n < 8) :
    { h with hopLimit := UInt8.ofNat n }.flags = (h.flags &&& 0xF8) ||| UInt8.ofNat n := by
  have hlow : ∀ x : UInt8, UInt8.ofNat (x.toNat % 8) = x &&& 7 := by
    apply forall_of_lt_256
    decide +kernel
  have hkeep : UInt8.ofNat n &&& 7 = UInt8.ofNat n := by
    rw [← hlow, UInt8.toNat_ofNat_of_lt' (show n < 256 by omega), Nat.mod_eq_of_lt hn]
  have hkey := repack_flags (h.hopLimit.toNat % 8) (Nat.mod_lt _ (by decide)) n hn
    (h.hopStart.toNat % 8) (Nat.mod_lt _ (by decide)) h.wantAck h.viaMqtt
  rw [hlow, hlow] at hkey
  rw [flags, flags, hkeep]
  exact hkey

@[simp] theorem length_encode (h : MeshHeader) : h.encode.length = headerLen := rfl

/-- Only what is too short is no header. -/
theorem decode_eq_none_iff (buf : List UInt8) : decode buf = none ↔ buf.length < headerLen := by
  unfold decode
  split <;> simp_all

/-- Decoding an encoded header, whatever bytes follow it. -/
theorem decode_encode (h : MeshHeader) (rest : List UInt8) :
    decode (h.encode ++ rest) = some h.normal := by
  have hlen : ¬ (h.encode ++ rest).length < headerLen := by simp
  -- the fields sit at fixed offsets, in front of whatever follows
  obtain ⟨h1, h2, h3, h4⟩ := h.flags_fields
  have hto : (h.encode ++ rest).extract 0 4 = h.toNode.toLeBytes := rfl
  have hfrom : (h.encode ++ rest).extract 4 8 = h.fromNode.toLeBytes := rfl
  have hid : (h.encode ++ rest).extract 8 12 = h.id.toLeBytes := rfl
  have hflags : (h.encode ++ rest).getD 12 0 = h.flags := rfl
  have hhash : (h.encode ++ rest).getD 13 0 = h.channelHash := rfl
  simp only [decode, if_neg hlen, hto, hfrom, hid, hflags, hhash, UInt32.ofLeBytes_toLeBytes,
    h1, h2, h3, h4, normal]

/-- A decoded header has both hop fields in range. -/
theorem inRange_of_decode {buf : List UInt8} {h : MeshHeader} (hd : decode buf = some h) :
    h.InRange := by
  unfold decode at hd
  split at hd
  · exact nomatch hd
  · obtain rfl := Option.some.inj hd
    exact ⟨and_seven_lt _, and_seven_lt _⟩

/-- Encoding a decoded header gives its bytes back, the reserved ones zeroed. -/
theorem encode_of_decode {buf : List UInt8} {h : MeshHeader} (hd : decode buf = some h) :
    h.encode = buf.take 14 ++ [0, 0] := by
  unfold decode at hd
  split at hd
  · exact nomatch hd
  · rename_i hlen
    have hlen' : 16 ≤ buf.length := by simp only [headerLen] at hlen; omega
    obtain rfl := Option.some.inj hd
    -- three words and two bytes, cut from the front one after the other
    have hword : ∀ i, i + 4 ≤ 16 →
        (UInt32.ofLeBytes (buf.extract i (i + 4))).toLeBytes = buf.extract i (i + 4) := by
      intro i hi
      apply UInt32.toLeBytes_ofLeBytes
      simp only [List.extract_eq_take_drop, List.length_take, List.length_drop]
      omega
    have hcut : ∀ i, buf.take (i + 4) = buf.take i ++ buf.extract i (i + 4) := by
      intro i
      rw [List.take_add, List.extract_eq_take_drop, Nat.add_sub_cancel_left]
    have hbyte : ∀ i, i < 16 → buf.take (i + 1) = buf.take i ++ [buf.getD i 0] := by
      intro i hi
      have hi' : i < buf.length := by omega
      rw [List.take_add_one, List.getD_eq_getElem?_getD, List.getElem?_eq_getElem hi']
      rfl
    rw [hbyte 13 (by omega), hbyte 12 (by omega), hcut 8, hcut 4, hcut 0]
    simp only [encode, flags, pack_flags, hword 0 (by omega), hword 4 (by omega),
      hword 8 (by omega), List.take_zero, List.nil_append, List.append_assoc, List.cons_append]

end MeshHeader

namespace MeshFrame

/-- The frame with its hop fields reduced to the three bits they have on air. -/
def normal (f : MeshFrame) : MeshFrame := { f with header := f.header.normal }

/-- Both hop fields fit into three bits. -/
def InRange (f : MeshFrame) : Prop := f.header.InRange

/-- Only what is shorter than a header is no frame. -/
theorem fromBytes_eq_none_iff (raw : List UInt8) :
    fromBytes raw = none ↔ raw.length < headerLen := by
  rw [← MeshHeader.decode_eq_none_iff, fromBytes]
  cases MeshHeader.decode raw <;> simp

/-- What `fromBytes` returns, field by field. -/
theorem fromBytes_eq_some_iff {raw : List UInt8} {f : MeshFrame} :
    fromBytes raw = some f ↔
      MeshHeader.decode raw = some f.header ∧ f.payload = raw.drop headerLen := by
  rw [fromBytes]
  cases f
  cases MeshHeader.decode raw <;> simp [eq_comm]

/-- What is parsed is in range. -/
theorem inRange_of_fromBytes {raw : List UInt8} {f : MeshFrame} (h : fromBytes raw = some f) :
    f.InRange :=
  MeshHeader.inRange_of_decode (fromBytes_eq_some_iff.mp h).1

/-- Decoding what was encoded. -/
theorem fromBytes_toBytes (f : MeshFrame) : fromBytes f.toBytes = some f.normal := by
  rw [fromBytes_eq_some_iff]
  refine ⟨f.header.decode_encode f.payload, ?_⟩
  rw [toBytes, List.drop_left' f.header.length_encode]
  rfl

/-- A frame in range is read back. -/
theorem fromBytes_toBytes_of_inRange {f : MeshFrame} (h : f.InRange) :
    fromBytes f.toBytes = some f := by
  rw [fromBytes_toBytes, normal, MeshHeader.normal_eq_self h]

/-- Encoding what was decoded: the bytes themselves, the two reserved ones zeroed. -/
theorem toBytes_of_fromBytes {raw : List UInt8} {f : MeshFrame} (h : fromBytes raw = some f) :
    f.toBytes = (raw.set 14 0).set 15 0 := by
  obtain ⟨hdec, hpay⟩ := fromBytes_eq_some_iff.mp h
  have hlen : 16 ≤ raw.length := by
    have hne : MeshHeader.decode raw ≠ none := by simp [hdec]
    rw [Ne, MeshHeader.decode_eq_none_iff, headerLen] at hne
    omega
  rw [toBytes, MeshHeader.encode_of_decode hdec, hpay, headerLen]
  -- byte by byte: before 14, the two reserved ones, and from 16 on
  apply List.ext_getElem (by simp; omega)
  intro i h₁ h₂
  simp only [List.getElem_set, List.getElem_append, List.length_append, List.length_take,
    List.length_cons, List.length_nil, List.getElem_take, List.getElem_drop]
  grind

end MeshFrame

end Mesh
