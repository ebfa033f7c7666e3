import Mathlib.Tactic.FieldSimp
import Mathlib.Tactic.Linarith
import Mathlib.Tactic.Positivity
import Mesh.Native.DutyCycle

/-!
# Airtime

A packet's airtime is a number of symbols times the length of one. A larger
spreading factor packs more bits into a symbol and doubles its length: the data
then takes fewer blocks of symbols, but not fewer than half of them, but for one
block, and the symbols every packet has make up for that one.

## Key results

- `dataBlocks_le_succ`: what one step of the spreading factor can save
- `timeOnAir_laws`: how the airtime depends on each argument, and the documented
  formula as a lower bound
-/

namespace Mesh

namespace DutyCycle

/-- Blocks of data symbols; one block is `crF + 4` symbols. -/
def dataBlocks (sf payloadLen : Nat) : ℤ :=
  ⌈max (8 * (payloadLen : ℚ) - 4 * (sf : ℚ) + 28 + 16) 0 / (4 * (sf : ℚ))⌉

/-- A payload takes no negative number of blocks. -/
theorem dataBlocks_nonneg (sf payloadLen : Nat) : 0 ≤ dataBlocks sf payloadLen := by
  apply Int.ceil_nonneg
  positivity

/-- A longer payload takes no fewer blocks. -/
theorem dataBlocks_mono (sf : Nat) {shorter longer : Nat} (h : shorter ≤ longer) :
    dataBlocks sf shorter ≤ dataBlocks sf longer := by
  have hle : (shorter : ℚ) ≤ longer := by exact_mod_cast h
  apply Int.ceil_mono
  gcongr

/-- One more bit to the symbol saves at most half of the blocks, but for one. -/
theorem dataBlocks_le_succ {sf : Nat} (hsf : 0 < sf) (payloadLen : Nat) :
    dataBlocks sf payloadLen ≤ 2 * dataBlocks (sf + 1) payloadLen + 1 := by
  have hone : (1 : ℚ) ≤ sf := by exact_mod_cast hsf
  have hpos : (0 : ℚ) < sf := by linarith
  let bits : ℚ := max (8 * (payloadLen : ℚ) - 4 * (sf : ℚ) + 28 + 16) 0
  let fewer : ℚ := max (8 * (payloadLen : ℚ) - 4 * ((sf + 1 : Nat) : ℚ) + 28 + 16) 0
  have hfewer : 0 ≤ fewer := le_max_right _ _
  have hbits : bits ≤ fewer + 4 := by
    have hleft := le_max_left (8 * (payloadLen : ℚ) - 4 * ((sf + 1 : Nat) : ℚ) + 28 + 16) 0
    push_cast at hleft
    exact max_le (by simp only [fewer]; push_cast; linarith) (by linarith)
  -- four bits less are to be sent, and a symbol carries at most twice as many as before
  have hquot : bits / (4 * sf) ≤ 2 * (fewer / (4 * ((sf + 1 : Nat) : ℚ))) + 1 :=
    calc bits / (4 * sf) ≤ (fewer + 4) / (4 * sf) := by gcongr
      _ = 2 * (fewer / (4 * (2 * sf))) + 1 / sf := by field_simp
      _ ≤ 2 * (fewer / (4 * ((sf + 1 : Nat) : ℚ))) + 1 := by
        have hdouble : ((sf + 1 : Nat) : ℚ) ≤ 2 * sf := by push_cast; linarith
        have hinv : 1 / (sf : ℚ) ≤ 1 := by rw [div_le_one hpos]; exact hone
        gcongr
  -- rounding up adds less than one block
  have hup : (dataBlocks sf payloadLen : ℚ) < bits / (4 * sf) + 1 := Int.ceil_lt_add_one _
  have hdown : fewer / (4 * ((sf + 1 : Nat) : ℚ)) ≤ dataBlocks (sf + 1) payloadLen :=
    Int.le_ceil _
  have hlt : (dataBlocks sf payloadLen : ℚ) < 2 * dataBlocks (sf + 1) payloadLen + 2 := by
    linarith
  have hint : dataBlocks sf payloadLen < 2 * dataBlocks (sf + 1) payloadLen + 2 := by
    exact_mod_cast hlt
  omega

/-- Symbols of a packet. -/
def symbols (sf cr payloadLen preamble : Nat) : ℚ :=
  preamble + 4.25 + 8 + dataBlocks sf payloadLen * cr

/-- Every packet has symbols, if only those of its preamble. -/
theorem symbols_pos (sf cr payloadLen preamble : Nat) : 0 < symbols sf cr payloadLen preamble := by
  have hblocks : (0 : ℚ) ≤ dataBlocks sf payloadLen := by
    exact_mod_cast dataBlocks_nonneg sf payloadLen
  unfold symbols
  positivity

/-- A packet keeps more than half of its symbols when a symbol carries one more bit. -/
theorem symbols_lt_succ {sf cr : Nat} (hsf : 0 < sf) (hcr : cr ≤ 8) (payloadLen preamble : Nat) :
    symbols sf cr payloadLen preamble < 2 * symbols (sf + 1) cr payloadLen preamble := by
  have hblocks : (dataBlocks sf payloadLen : ℚ) ≤ 2 * dataBlocks (sf + 1) payloadLen + 1 := by
    exact_mod_cast dataBlocks_le_succ hsf payloadLen
  have hcr' : (cr : ℚ) ≤ 8 := by exact_mod_cast hcr
  have hpreamble : (0 : ℚ) ≤ preamble := by positivity
  -- the one block more is at most 8 symbols, which the preamble and its 12.25 cover
  have hdata : (dataBlocks sf payloadLen : ℚ) * cr ≤
      (2 * dataBlocks (sf + 1) payloadLen + 1) * cr := by gcongr
  unfold symbols
  linarith

/-- More of anything takes no fewer symbols. -/
theorem symbols_mono (sf : Nat) {cr cr' shorter longer preamble preamble' : Nat}
    (hcr : cr ≤ cr') (hlen : shorter ≤ longer) (hpreamble : preamble ≤ preamble') :
    symbols sf cr shorter preamble ≤ symbols sf cr' longer preamble' := by
  have hblocks : (dataBlocks sf shorter : ℚ) ≤ dataBlocks sf longer := by
    exact_mod_cast dataBlocks_mono sf hlen
  have hnonneg : (0 : ℚ) ≤ dataBlocks sf longer := by
    exact_mod_cast dataBlocks_nonneg sf longer
  unfold symbols
  gcongr

/-! ## The code's computation -/

/-- The chips of a symbol, up to spreading factor 12. -/
theorem toNat_shiftLeft_one {sf : UInt8} (h : sf ≤ 12) :
    ((1 : UInt32) <<< sf.toUInt32).toNat = 2 ^ sf.toNat := by
  have hsf : sf.toNat ≤ 12 := UInt8.le_iff_toNat_le.mp h
  have hlt : 2 ^ sf.toNat < 2 ^ 32 := Nat.pow_lt_pow_right (by decide) (by omega)
  rw [UInt32.toNat_shiftLeft, UInt8.toNat_toUInt32, Nat.mod_eq_of_lt (by omega : sf.toNat < 32),
    UInt32.toNat_one, Nat.one_shiftLeft, Nat.mod_eq_of_lt hlt]

/-- The coding rate without its offset. -/
theorem toNat_sub_four {cr : UInt8} (h : 5 ≤ cr) : (cr - 4).toNat + 4 = cr.toNat := by
  have hcr : 5 ≤ cr.toNat := UInt8.le_iff_toNat_le.mp h
  have hfour : (4 : UInt8) ≤ cr := UInt8.le_iff_toNat_le.mpr (by show 4 ≤ _; omega)
  rw [UInt8.toNat_sub_of_le _ _ hfour]
  show cr.toNat - 4 + 4 = _
  omega

variable {sf cr : UInt8} {bwHz : ℚ}

/-- The code computes the symbols times their duration. -/
theorem timeOnAir_eq (hsf : sf ≤ 12) (hcr : 5 ≤ cr) (payloadLen : Nat) (preamble : UInt16) :
    timeOnAir sf bwHz cr payloadLen preamble =
      symbols sf.toNat cr.toNat payloadLen preamble.toNat * (2 ^ sf.toNat / bwHz) := by
  have hblock : ((cr - 4).toNat : ℚ) + 4 = cr.toNat := by exact_mod_cast toNat_sub_four hcr
  unfold timeOnAir
  simp only [toNat_shiftLeft_one hsf, hblock]
  push_cast
  rfl

/-- More coding, payload or preamble takes no less time. -/
theorem timeOnAir_mono {cr' : UInt8} {shorter longer : Nat} {preamble preamble' : UInt16}
    (hbw : 0 < bwHz) (hsf : sf ≤ 12) (hcr : 5 ≤ cr) (hcr' : cr ≤ cr') (hlen : shorter ≤ longer)
    (hpreamble : preamble ≤ preamble') :
    timeOnAir sf bwHz cr shorter preamble ≤ timeOnAir sf bwHz cr' longer preamble' := by
  rw [timeOnAir_eq hsf hcr, timeOnAir_eq hsf (UInt8.le_trans hcr hcr')]
  have hsymbols := symbols_mono sf.toNat (UInt8.le_iff_toNat_le.mp hcr') hlen
    (UInt16.le_iff_toNat_le.mp hpreamble)
  gcongr

/-- Twice the length for each of more than half as many symbols. -/
theorem timeOnAir_lt_succ (hbw : 0 < bwHz) (hsf : 7 ≤ sf) (hlast : sf < 12) (hcr : 5 ≤ cr)
    (hcr' : cr ≤ 8) (payloadLen : Nat) (preamble : UInt16) :
    timeOnAir sf bwHz cr payloadLen preamble <
      timeOnAir (sf + 1) bwHz cr payloadLen preamble := by
  have hpos : 7 ≤ sf.toNat := UInt8.le_iff_toNat_le.mp hsf
  have hlt : sf.toNat < 12 := UInt8.lt_iff_toNat_lt.mp hlast
  have hnext : (sf + 1).toNat = sf.toNat + 1 := by
    rw [UInt8.toNat_add]
    show (sf.toNat + 1) % 256 = _
    omega
  have hsf' : sf + 1 ≤ 12 := by
    rw [UInt8.le_iff_toNat_le, hnext]
    exact hlt
  -- in symbols: there are fewer with `sf + 1`, but each takes twice as long
  rw [timeOnAir_eq (UInt8.le_of_lt hlast) hcr, timeOnAir_eq hsf' hcr, hnext]
  have hpos' : 0 < sf.toNat := by omega
  have hsymbols := symbols_lt_succ hpos' (UInt8.le_iff_toNat_le.mp hcr') payloadLen
    preamble.toNat
  calc symbols sf.toNat cr.toNat payloadLen preamble.toNat * (2 ^ sf.toNat / bwHz)
      < 2 * symbols (sf.toNat + 1) cr.toNat payloadLen preamble.toNat *
        (2 ^ sf.toNat / bwHz) := by gcongr
    _ = symbols (sf.toNat + 1) cr.toNat payloadLen preamble.toNat *
        (2 ^ (sf.toNat + 1) / bwHz) := by ring

/-- More bandwidth takes no more time. -/
theorem timeOnAir_antitone {wider : ℚ} (hbw : 0 < bwHz) (hwider : bwHz ≤ wider) (hsf : sf ≤ 12)
    (hcr : 5 ≤ cr) (payloadLen : Nat) (preamble : UInt16) :
    timeOnAir sf wider cr payloadLen preamble ≤ timeOnAir sf bwHz cr payloadLen preamble := by
  rw [timeOnAir_eq hsf hcr, timeOnAir_eq hsf hcr]
  have hsymbols := symbols_pos sf.toNat cr.toNat payloadLen preamble.toNat
  gcongr

/-! ## The documented formula -/

/-- Blocks of data symbols in the formula at the head of the source file, under its names. -/
def documentedBlocks (SF PL CRC LDRO : Nat) : ℤ :=
  ⌈(8 * (PL : ℚ) - 4 * SF + 28 + 16 * CRC) / (4 * SF * (1 + LDRO))⌉

/-- The formula at the head of the source file. -/
def documentedTimeOnAir (SF : Nat) (BW_hz : ℚ) (CR PL preamble CRC LDRO : Nat) : ℚ :=
  let t_sym := 2 ^ SF / BW_hz
  let n_sym : ℚ := preamble + 4.25 + documentedBlocks SF PL CRC LDRO * (CR + 4)
  n_sym * t_sym

/-- The code's quotient is clamped and leaves out the low data rate optimisation. -/
theorem documentedBlocks_le {sf : Nat} (hsf : 0 < sf) (payloadLen LDRO : Nat) :
    documentedBlocks sf payloadLen 1 LDRO ≤ dataBlocks sf payloadLen := by
  have hpos : (0 : ℚ) < sf := by exact_mod_cast hsf
  let bits : ℚ := 8 * (payloadLen : ℚ) - 4 * (sf : ℚ) + 28 + 16
  have hcrc : 8 * (payloadLen : ℚ) - 4 * sf + 28 + 16 * ((1 : Nat) : ℚ) = bits := by
    simp only [bits]
    norm_num
  -- LDRO only widens the denominator
  have hoptimised : 4 * (sf : ℚ) ≤ 4 * sf * (1 + LDRO) := by
    have hnonneg : (0 : ℚ) ≤ LDRO := by positivity
    nlinarith
  rw [documentedBlocks, hcrc]
  apply Int.ceil_mono
  -- the code takes the maximum with zero before it divides
  calc bits / (4 * sf * (1 + LDRO)) ≤ max bits 0 / (4 * sf * (1 + LDRO)) := by
        gcongr
        exact le_max_left _ _
    _ ≤ max bits 0 / (4 * sf) := by gcongr

/-- The code never goes below the documented formula. -/
theorem documented_le_timeOnAir (hbw : 0 < bwHz) (hsf : 7 ≤ sf) (hsf' : sf ≤ 12) (hcr : 5 ≤ cr)
    (payloadLen : Nat) (preamble : UInt16) (LDRO : Nat) :
    documentedTimeOnAir sf.toNat bwHz (cr - 4).toNat payloadLen preamble.toNat 1 LDRO ≤
      timeOnAir sf bwHz cr payloadLen preamble := by
  have hpos : 7 ≤ sf.toNat := UInt8.le_iff_toNat_le.mp hsf
  have hblock : ((cr - 4).toNat : ℚ) + 4 = cr.toNat := by exact_mod_cast toNat_sub_four hcr
  have hblocks : (documentedBlocks sf.toNat payloadLen 1 LDRO : ℚ) ≤
      dataBlocks sf.toNat payloadLen := by
    exact_mod_cast documentedBlocks_le (by omega) payloadLen LDRO
  have hdata : (documentedBlocks sf.toNat payloadLen 1 LDRO : ℚ) * cr.toNat ≤
      dataBlocks sf.toNat payloadLen * cr.toNat := by gcongr
  rw [timeOnAir_eq hsf' hcr, documentedTimeOnAir, hblock]
  apply mul_le_mul_of_nonneg_right
  · -- the code counts eight symbols more
    unfold symbols
    linarith
  · positivity

/-! ## All arguments -/

/-- The airtime does not fall when the payload, the preamble or the coding rate grows, rises
    with every step of the spreading factor, does not rise with the bandwidth, and is at least
    the documented one with or without the low data rate optimisation. -/
theorem timeOnAir_laws (hbw : 0 < bwHz) (hsf : 7 ≤ sf ∧ sf ≤ 12) (hcr : 5 ≤ cr ∧ cr ≤ 8)
    (payloadLen : Nat) (preamble : UInt16) :
    (∀ longer, payloadLen ≤ longer → timeOnAir sf bwHz cr payloadLen preamble ≤
        timeOnAir sf bwHz cr longer preamble) ∧
      (∀ preamble', preamble ≤ preamble' → timeOnAir sf bwHz cr payloadLen preamble ≤
        timeOnAir sf bwHz cr payloadLen preamble') ∧
      (∀ cr', cr ≤ cr' → cr' ≤ 8 → timeOnAir sf bwHz cr payloadLen preamble ≤
        timeOnAir sf bwHz cr' payloadLen preamble) ∧
      (sf < 12 → timeOnAir sf bwHz cr payloadLen preamble <
        timeOnAir (sf + 1) bwHz cr payloadLen preamble) ∧
      (∀ wider, bwHz ≤ wider → timeOnAir sf wider cr payloadLen preamble ≤
        timeOnAir sf bwHz cr payloadLen preamble) ∧
      ∀ LDRO, LDRO = 0 ∨ LDRO = 1 →
        documentedTimeOnAir sf.toNat bwHz (cr - 4).toNat payloadLen preamble.toNat 1 LDRO ≤
          timeOnAir sf bwHz cr payloadLen preamble := by
  obtain ⟨hsf, hsf'⟩ := hsf
  obtain ⟨hcr, hcr'⟩ := hcr
  have hself : cr ≤ cr := UInt8.le_refl cr
  have hpreamble : preamble ≤ preamble := UInt16.le_refl preamble
  refine ⟨fun longer h => ?_, fun preamble' h => ?_, fun cr' h _ => ?_, fun hlast => ?_,
    fun wider h => ?_, fun LDRO _ => ?_⟩
  · exact timeOnAir_mono hbw hsf' hcr hself h hpreamble
  · exact timeOnAir_mono hbw hsf' hcr hself le_rfl h
  · exact timeOnAir_mono hbw hsf' hcr h le_rfl hpreamble
  · exact timeOnAir_lt_succ hbw hsf hlast hcr hcr' payloadLen preamble
  · exact timeOnAir_antitone hbw h hsf' hcr payloadLen preamble
  · exact documented_le_timeOnAir hbw hsf hsf' hcr payloadLen preamble LDRO

/-- Twenty bytes at 125 kHz take longer with a spreading factor of 8 than of 7. -/
theorem timeOnAir_laws_sample :
    timeOnAir 7 125000 5 20 8 < timeOnAir 8 125000 5 20 8 := by
  have hlaws := @timeOnAir_laws 7 5 125000 (by norm_num) (by decide)
    (by decide) 20 8
  exact hlaws.2.2.2.1 (by decide)

end DutyCycle

end Mesh
