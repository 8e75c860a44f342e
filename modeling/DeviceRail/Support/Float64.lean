import Mathlib.Data.Nat.Basic

/-!
# Binary64 values

A 64-bit binary floating-point value is its bit pattern.  Only the
classification and the comparisons that validation code performs are defined:
being a number, being finite, being at most zero, and the IEEE equality, under
which no NaN equals itself and the two zeros are equal.
-/

/-- The bit pattern of an IEEE 754 binary64 value. -/
structure Float64 where
  bits : BitVec 64
deriving Repr

namespace Float64

variable (x : Float64)

/-- The biased exponent field. -/
def exponent : ℕ := (x.bits.extractLsb' 52 11).toNat

/-- The fraction field. -/
def fraction : ℕ := (x.bits.extractLsb' 0 52).toNat

/-- The sign bit. -/
def isNegative : Bool := x.bits.msb

def isFinite : Bool := x.exponent != 2047

def isNan : Bool := x.exponent == 2047 && x.fraction != 0

/-- Positive or negative zero. -/
def isZero : Bool := x.exponent == 0 && x.fraction == 0

/-- The comparison `x <= 0.0`. -/
def leZero : Bool := !x.isNan && (x.isNegative || x.isZero)

/-- The comparison `x >= 0.0`. -/
def geZero : Bool := !x.isNan && (!x.isNegative || x.isZero)

/-- IEEE equality. -/
def ieeeEq (x y : Float64) : Bool :=
  !x.isNan && !y.isNan && (x.bits == y.bits || (x.isZero && y.isZero))

instance : BEq Float64 := ⟨ieeeEq⟩

/-- The value `1.0`. -/
def one : Float64 := ⟨0x3FF0000000000000⟩

/-- Positive infinity. -/
def infinity : Float64 := ⟨0x7FF0000000000000⟩

theorem isNan_eq_false_of_isFinite {x : Float64} (h : x.isFinite = true) :
    x.isNan = false := by
  simp only [isFinite, bne_iff_ne, ne_eq] at h
  simp [isNan, h]

theorem beq_self_of_isFinite {x : Float64} (h : x.isFinite = true) :
    (x == x) = true := by
  change ieeeEq x x = true
  simp [ieeeEq, isNan_eq_false_of_isFinite h]

example : infinity.isFinite = false := by decide

end Float64
