/-!
# Finite binary fractions of sixty-four bits

A `Double` is a finite number of the 64-bit binary format, kept by its bits, so that it has decidable
equality and zero keeps its sign.  Its absolute value is `mantissa * 2 ^ exponent`.
-/

namespace ClaimCheck

/-- A finite number of the 64-bit binary floating-point format. -/
structure Double where
  bits : UInt64
  finite : (bits.toNat >>> 52) % 2048 ≠ 2047
deriving DecidableEq

namespace Double

/-- The number that a floating-point value is, unless it is infinite or no number. -/
def ofFloat? (x : Float) : Option Double :=
  if h : (x.toBits.toNat >>> 52) % 2048 ≠ 2047 then some ⟨x.toBits, h⟩ else none

/-- The floating-point value of a number. -/
def toFloat (x : Double) : Float := Float.ofBits x.bits

/-- Positive zero. -/
def zero : Double := ⟨0, by decide⟩

/-- Negative zero. -/
def negativeZero : Double := ⟨0x8000000000000000, by decide⟩

/-- Whether the sign bit is set, as it is for negative zero. -/
def isNegative (x : Double) : Bool := x.bits.toNat ≥ 0x8000000000000000

/-- The exponent as it stands in the bits. -/
def biasedExponent (x : Double) : Nat := (x.bits.toNat >>> 52) % 2048

/-- The fraction as it stands in the bits. -/
def fraction (x : Double) : Nat := x.bits.toNat % 0x10000000000000

/-- The whole number whose multiple by a power of two is the absolute value. -/
def mantissa (x : Double) : Nat :=
  if x.biasedExponent = 0 then x.fraction else x.fraction + 0x10000000000000

/-- The power of two that goes with the mantissa. -/
def exponent (x : Double) : Int :=
  (if x.biasedExponent = 0 then 1 else x.biasedExponent : Nat) - 1075

/-- Whether the number below is nearer than the number above. -/
def hasNearLower (x : Double) : Bool := x.fraction == 0 && x.biasedExponent > 1

end Double

end ClaimCheck
