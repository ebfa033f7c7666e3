import Mesh.ForStd.Ieee

/-!
# Modem presets and regions (`presets.rs`)
-/

namespace Mesh

open Ieee (F32 F64 Arith)

/-- LoRa modem configuration preset. -/
structure ModemPreset where
  name : String
  sf : UInt8
  /-- Bandwidth in kHz. -/
  bwKhz : F32
  /-- Coding rate denominator. -/
  crDenom : UInt8
  syncWord : UInt8
  preambleLen : UInt16
deriving DecidableEq

/-- All modem presets, ordered from fastest to slowest. -/
def presets : List ModemPreset := [
  { name := "ShortTurbo",   sf := 7,  bwKhz := 500.0, crDenom := 5, syncWord := 0x2B, preambleLen := 16 },
  { name := "ShortFast",    sf := 7,  bwKhz := 250.0, crDenom := 5, syncWord := 0x2B, preambleLen := 16 },
  { name := "ShortSlow",    sf := 8,  bwKhz := 250.0, crDenom := 5, syncWord := 0x2B, preambleLen := 16 },
  { name := "MediumFast",   sf := 9,  bwKhz := 250.0, crDenom := 5, syncWord := 0x2B, preambleLen := 16 },
  { name := "MediumSlow",   sf := 10, bwKhz := 250.0, crDenom := 5, syncWord := 0x2B, preambleLen := 16 },
  { name := "LongFast",     sf := 11, bwKhz := 250.0, crDenom := 5, syncWord := 0x2B, preambleLen := 16 },
  { name := "LongModerate", sf := 11, bwKhz := 125.0, crDenom := 8, syncWord := 0x2B, preambleLen := 16 },
  { name := "LongSlow",     sf := 12, bwKhz := 125.0, crDenom := 8, syncWord := 0x2B, preambleLen := 16 },
  { name := "VeryLongSlow", sf := 12, bwKhz := 62.5,  crDenom := 8, syncWord := 0x2B, preambleLen := 16 }]

/-- Regional frequency plan, frequencies in MHz. -/
structure Region where
  name : String
  freqStart : F64
  freqEnd : F64
  /-- Maximum TX power (dBm). -/
  txPower : UInt8
  /-- Duty cycle limit (percent, 0 = no limit). -/
  dutyCycle : UInt8
deriving DecidableEq

/-- All supported regions. -/
def regions : List Region := [
  { name := "US",     freqStart := 902.0, freqEnd := 928.0,  txPower := 30, dutyCycle := 0 },
  { name := "EU_868", freqStart := 869.4, freqEnd := 869.65, txPower := 27, dutyCycle := 10 },
  { name := "EU_433", freqStart := 433.0, freqEnd := 434.0,  txPower := 12, dutyCycle := 10 },
  { name := "CN",     freqStart := 470.0, freqEnd := 510.0,  txPower := 19, dutyCycle := 0 },
  { name := "JP",     freqStart := 920.8, freqEnd := 927.8,  txPower := 16, dutyCycle := 0 },
  { name := "ANZ",    freqStart := 915.0, freqEnd := 928.0,  txPower := 30, dutyCycle := 0 },
  { name := "KR",     freqStart := 920.0, freqEnd := 923.0,  txPower := 14, dutyCycle := 0 },
  { name := "TH",     freqStart := 920.0, freqEnd := 925.0,  txPower := 16, dutyCycle := 0 },
  { name := "IN",     freqStart := 865.0, freqEnd := 867.0,  txPower := 30, dutyCycle := 0 },
  { name := "NZ_865", freqStart := 864.0, freqEnd := 868.0,  txPower := 36, dutyCycle := 0 },
  { name := "TW",     freqStart := 920.0, freqEnd := 925.0,  txPower := 27, dutyCycle := 0 },
  { name := "RU",     freqStart := 868.7, freqEnd := 869.2,  txPower := 20, dutyCycle := 0 },
  { name := "UA",     freqStart := 868.0, freqEnd := 868.6,  txPower := 14, dutyCycle := 1 },
  { name := "MY_433", freqStart := 433.0, freqEnd := 435.0,  txPower := 20, dutyCycle := 0 },
  { name := "MY_919", freqStart := 919.0, freqEnd := 924.0,  txPower := 27, dutyCycle := 0 },
  { name := "SG_923", freqStart := 920.0, freqEnd := 925.0,  txPower := 20, dutyCycle := 0 }]

/-- The preset a node starts with (LongFast). -/
def defaultPreset : ModemPreset := presets[5]

/-- Index of the default region (TW). -/
def defaultRegionIdx : Nat := 10

theorem defaultRegionIdx_lt : defaultRegionIdx < regions.length := by decide

def defaultRegion : Region := regions[defaultRegionIdx]

/-- Default channel 0 centre frequency for a given bandwidth (MHz). -/
def Region.channelFreq [Arith] (self : Region) (bwKhz : F32) : F64 :=
  Arith.add self.freqStart (Arith.div (Arith.widen bwKhz) 2000.0)

end Mesh
