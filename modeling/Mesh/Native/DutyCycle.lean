import Mathlib.Data.Rat.Floor
import Mesh.ForStd.Ieee

/-!
# Duty-cycle tracker (`mac/duty_cycle.rs`)

`Duration` and `Instant` are those of `std::time`, in nanoseconds; a `Duration`
has at most `u64::MAX` seconds, and arithmetic that leaves its range panics. An
`Instant` counts from the earliest one the clock can represent. The clock is an
input of every operation that reads it. `timeOnAir` is the one function here over
exact numbers in place of `f64`.
-/

namespace Mesh

open Ieee (F64 Arith)

/-- A length of time in nanoseconds, as many as fit. -/
structure Duration where
  nanos : Nat
  lt : nanos < 2 ^ 64 * 1000000000
deriving DecidableEq

namespace Duration

/-- `none` on overflow. -/
def ofNanos? (nanos : Nat) : Option Duration :=
  if h : nanos < 2 ^ 64 * 1000000000 then some ⟨nanos, h⟩ else none

/-- A duration that can be represented has these nanoseconds. -/
theorem nanos_of_ofNanos? {nanos : Nat} {d : Duration} (h : ofNanos? nanos = some d) :
    d.nanos = nanos := by
  unfold ofNanos? at h
  split at h
  · exact congrArg Duration.nanos (Option.some.inj h).symm
  · exact nomatch h

/-- Whole seconds. -/
def fromSecs (secs : UInt64) : Duration where
  nanos := secs.toNat * 1000000000
  lt := Nat.mul_lt_mul_of_pos_right secs.toNat_lt (by decide)

/-- The sum, if it can be represented. -/
def checkedAdd (self rhs : Duration) : Option Duration := ofNanos? (self.nanos + rhs.nanos)

/-- `Iterator::sum`. -/
def sum (ds : List Duration) : Option Duration := ofNanos? (ds.map nanos).sum

/-- Rounded to the nearest nanosecond, ties to even; `none` on a negative number, on one out
    of range and on NaN. -/
def fromSecsF64 (secs : F64) : Option Duration :=
  if secs.position < 0 then none else ofNanos? (secs.roundMul 1000000000)

end Duration

/-- A reading of the clock, in nanoseconds since its earliest. -/
structure Instant where
  nanos : Nat
deriving DecidableEq

/-- The instant so much earlier, if there is one. -/
def Instant.checkedSub (self : Instant) (d : Duration) : Option Instant :=
  if d.nanos ≤ self.nanos then some ⟨self.nanos - d.nanos⟩ else none

def window : Duration := .fromSecs 3600

/-- `WINDOW.as_secs_f64()`. -/
def windowSecs : F64 := 3600.0

/-- Duty-cycle budget and airtime ledger. -/
structure DutyCycle where
  limitFraction : F64
  log : List (Instant × Duration)

namespace DutyCycle

/-- A ledger without entries. -/
def new (limitFraction : F64) : DutyCycle := { limitFraction, log := [] }

/-- The clock is read twice: `fallback` is the argument of `unwrap_or`. -/
def evictStale (self : DutyCycle) (now fallback : Instant) : DutyCycle :=
  -- no instant lies an hour back before the clock has run for one
  let cutoff := (now.checkedSub window).getD fallback
  { self with log := self.log.dropWhile fun e => decide (e.1.nanos < cutoff.nanos) }

/-- `none` where the conversion of the limit panics. -/
def budget [Arith] (self : DutyCycle) : Option Duration :=
  Duration.fromSecsF64 (Arith.mul windowSecs self.limitFraction)

/-- Whether `tAir` can be sent without exceeding the budget; `none` on a panic. -/
def canSend [Arith] (self : DutyCycle) (now fallback : Instant) (tAir : Duration) :
    Option (Bool × DutyCycle) := do
  let self := self.evictStale now fallback
  -- `sum`, `from_secs_f64` and `+` panic out of range
  let used ← Duration.sum (self.log.map Prod.snd)
  let budget ← self.budget
  let total ← used.checkedAdd tAir
  return (decide (total.nanos ≤ budget.nanos), self)

/-- Record a completed transmission. -/
def recordTx (self : DutyCycle) (now : Instant) (tAir : Duration) : DutyCycle :=
  { self with log := self.log ++ [(now, tAir)] }

/-- On-air seconds of a packet, in exact arithmetic: the source works in `f64` and rounds the
    result to a `Duration`. -/
def timeOnAir (sf : UInt8) (bwHz : ℚ) (cr : UInt8) (payloadLen : Nat) (preamble : UInt16) : ℚ :=
  let n := (1 : UInt32) <<< sf.toUInt32
  let tSym := (n.toNat : ℚ) / bwHz
  let pl := (payloadLen : ℚ)
  let sfF := (sf.toNat : ℚ)
  let crF := ((cr - 4).toNat : ℚ) -- 1..4
  let inner := max (8 * pl - 4 * sfF + 28 + 16) 0
  let nData := (⌈inner / (4 * sfF)⌉ : ℚ) * (crF + 4)
  let nSym := (preamble.toNat : ℚ) + 4.25 + 8 + nData
  nSym * tSym

end DutyCycle

end Mesh
