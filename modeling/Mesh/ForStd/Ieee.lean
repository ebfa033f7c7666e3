import Mathlib.Algebra.Ring.Nat
import Mathlib.Data.Nat.Log

/-!
# Binary floating point as bit patterns

`F32` and `F64` are the IEEE 754 interchange words. Classification, equality and
order are computed from the bits; decimal literals round to nearest, ties to
even. Arithmetic and formatting enter as the class `Arith`, so that what is
proved holds for every arithmetic.
-/

namespace Ieee

/-- The word of a format with `p` significand bits, least exponent `-emin` and
    infinity `inf`, nearest to the rational `n / d`. -/
def nearest (p emin inf n d : Nat) : Nat :=
  if n = 0 then 0
  else
    -- scale by `2 ^ emin`, so that the unit in the last place is `2 ^ q` with `0 ≤ q`
    let n := n * 2 ^ emin
    let q := Nat.log2 (n / d) - (p - 1)
    let d := d * 2 ^ q
    let m := n / d
    let m := if 2 * (n % d) > d || (2 * (n % d) == d && m % 2 == 1) then m + 1 else m
    min inf (q * 2 ^ (p - 1) + m)

/-- `n / d` rounded to the nearest integer, ties to even. -/
def roundDiv (n d : Nat) : Nat :=
  let m := n / d
  if 2 * (n % d) > d || (2 * (n % d) == d && m % 2 == 1) then m + 1 else m

/-- Single precision, Rust's `f32`. -/
structure F32 where
  bits : UInt32
deriving DecidableEq

/-- Double precision, Rust's `f64`. -/
structure F64 where
  bits : UInt64
deriving DecidableEq

namespace F32

instance : OfScientific F32 where
  ofScientific m neg e :=
    ⟨UInt32.ofNat (if neg then nearest 24 149 0x7F800000 m (10 ^ e)
      else nearest 24 149 0x7F800000 (m * 10 ^ e) 1)⟩

instance : Neg F32 := ⟨fun x => ⟨x.bits ^^^ 0x80000000⟩⟩

def isFinite (x : F32) : Bool := x.bits &&& 0x7F800000 != 0x7F800000

example : (-20.0 : F32).bits = 0xC1A00000 := by decide

end F32

namespace F64

instance : OfScientific F64 where
  ofScientific m neg e :=
    ⟨UInt64.ofNat (if neg then nearest 53 1074 0x7FF0000000000000 m (10 ^ e)
      else nearest 53 1074 0x7FF0000000000000 (m * 10 ^ e) 1)⟩

/-- The NaN that `NAN` is. -/
def nan : F64 := ⟨0x7FF8000000000000⟩

def isFinite (x : F64) : Bool := x.bits &&& 0x7FF0000000000000 != 0x7FF0000000000000

def isNan (x : F64) : Bool := x.bits &&& 0x7FFFFFFFFFFFFFFF > 0x7FF0000000000000

/-- The absolute value clears the sign. -/
def abs (x : F64) : F64 := ⟨x.bits &&& 0x7FFFFFFFFFFFFFFF⟩

/-- Position on the number line; both zeros lie at `0`. -/
def position (x : F64) : Int :=
  if x.bits ≥ 0x8000000000000000 then -(x.abs.bits.toNat : Int) else x.bits.toNat

/-- Rust's `==`: false on NaN, true on zeros of either sign. -/
def feq (x y : F64) : Bool := !x.isNan && !y.isNan && x.position == y.position

/-- Rust's `<`: false on NaN. -/
def flt (x y : F64) : Bool := !x.isNan && !y.isNan && decide (x.position < y.position)

/-- The magnitude of `k * x` as the nearest integer, ties to even; a word that is not
    finite counts as one of the next exponent. -/
def roundMul (x : F64) (k : Nat) : Nat :=
  let fraction := (x.bits &&& 0xFFFFFFFFFFFFF).toNat
  let exponent := ((x.bits >>> 52) &&& 0x7FF).toNat
  -- subnormals have no implicit leading bit and share the least exponent
  let significand := if exponent = 0 then fraction else fraction + 2 ^ 52
  let exponent := max exponent 1
  if exponent ≥ 1075 then significand * k * 2 ^ (exponent - 1075)
  else roundDiv (significand * k) (2 ^ (1075 - exponent))

example : (869.4 : F64).bits = 0x408B2B3333333333 := by decide +kernel

end F64

/-- Rounding arithmetic, casts and formatting. -/
class Arith where
  div32 : F32 → F32 → F32
  /-- `f32::powf`. -/
  powf : F32 → F32 → F32
  add : F64 → F64 → F64
  mul : F64 → F64 → F64
  div : F64 → F64 → F64
  /-- `u64 as f64`. -/
  ofU64 : UInt64 → F64
  /-- `f32 as f64`. -/
  widen : F32 → F64
  /-- `f64 as f32`. -/
  narrow : F64 → F32
  /-- `{:+.0}`. -/
  showSigned : F64 → String

end Ieee
