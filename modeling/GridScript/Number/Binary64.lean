import GridScript.Text.Basic

/-!
# Double precision numbers

A double is its 64 bits: a sign, eleven bits of exponent and fifty-two bits of
fraction.  All arithmetic on doubles here is exact arithmetic on natural
numbers, so nothing depends on the floating point unit of the machine.
-/

namespace GridScript

/-- A double precision number, as its bit pattern. -/
structure Binary64 where
  bits : UInt64
  deriving DecidableEq, Repr, Inhabited

/-- Rounds the quotient `num / den` to the nearest natural number, a half to the
even one. -/
def roundHalfEven (num den : Nat) : Nat :=
  let quotient := num / den
  let twice := 2 * (num % den)
  if den < twice || (twice == den && quotient % 2 == 1) then quotient + 1
  else quotient

/-- Numerator and denominator of `num / den * base ^ exponent`. -/
def scaleRatio (base num den : Nat) (exponent : Int) : Nat × Nat :=
  (num * Nat.pow base exponent.toNat, den * Nat.pow base (-exponent).toNat)

/-- The exponent of the power of ten at or below the positive quotient `num /
den`. -/
def decimalExponent (num den : Nat) : Int :=
  let guess : Int :=
    ((decimalDigits num).length : Int) - (decimalDigits den).length
  let scaled := scaleRatio 10 num den (-guess)
  if scaled.1 < scaled.2 then guess - 1 else guess

namespace Binary64

/-- The highest of the sixty-four bits, which is the sign. -/
def signBit : Nat := 0x8000000000000000

/-- The bit in front of the fifty-two bits of the fraction; normal numbers have
it. -/
def leadingBit : Nat := 0x10000000000000

/-- The bits below the sign of an infinite number. -/
def infinityBits : Nat := 0x7FF0000000000000

/-- The bits without the sign. -/
def magnitudeBits (d : Binary64) : Nat := d.bits.toNat % signBit

def isNegative (d : Binary64) : Bool := signBit ≤ d.bits.toNat

def isNaN (d : Binary64) : Bool := infinityBits < d.magnitudeBits

def isInfinite (d : Binary64) : Bool := d.magnitudeBits == infinityBits

def isZero (d : Binary64) : Bool := d.magnitudeBits == 0

/-- The double with the given sign and the given lower bits. -/
def ofParts (negative : Bool) (magnitude : Nat) : Binary64 :=
  ⟨UInt64.ofNat (magnitude % signBit + if negative then signBit else 0)⟩

def zero : Binary64 := ⟨0⟩

/-- The bit pattern that stands for all that are not a number. -/
def nan : Binary64 := ofParts false (infinityBits + 0x8000000000000)

/-- A finite double has the magnitude `significand * 2 ^ exponent`. -/
def significand (d : Binary64) : Nat :=
  let fraction := d.magnitudeBits % leadingBit
  if d.magnitudeBits < leadingBit then fraction else fraction + leadingBit

/-- A finite double has the magnitude `significand * 2 ^ exponent`. -/
def exponent (d : Binary64) : Int :=
  if d.magnitudeBits < leadingBit then -1074
  else ((d.magnitudeBits / leadingBit : Nat) : Int) - 1075

/-- Numerator and denominator of the magnitude of a finite double. -/
def magnitudeRatio (d : Binary64) : Nat × Nat :=
  scaleRatio 2 d.significand 1 d.exponent

/-- The exponent of the unit in the last place of the double nearest to `num /
den`: fifty-three bits are kept, fewer below the least normal number. -/
def unitExponent (num den : Nat) : Int :=
  let guess : Int := (Nat.log2 num : Int) - Nat.log2 den - 52
  let scaled := scaleRatio 2 num den (-guess)
  let exact := if scaled.1 < scaled.2 * leadingBit then guess - 1 else guess
  max exact (-1074)

/-- The lower bits of the double nearest to `num / den`, a half to the even one.
The bits of increasing doubles increase, so a significand that rounds up to the
next power of two carries into the exponent. -/
def nearestBits (num den : Nat) : Nat :=
  if num = 0 then 0
  else
    let unit := unitExponent num den
    let scaled := scaleRatio 2 num den (-unit)
    min infinityBits
      ((unit + 1074).toNat * leadingBit + roundHalfEven scaled.1 scaled.2)

/-- The double nearest to `coefficient * 10 ^ exponent` with the given sign.
Far outside the range of doubles the answer is known without computing the power
of ten. -/
def ofDecimal (negative : Bool) (coefficient : Nat) (exponent : Int) :
    Binary64 :=
  let size : Int := (decimalDigits coefficient).length + exponent
  if coefficient = 0 || size < -400 then ofParts negative 0
  else if 400 < size then ofParts negative infinityBits
  else
    let ratio := scaleRatio 10 coefficient 1 exponent
    ofParts negative (nearestBits ratio.1 ratio.2)

/-- The double nearest to an integer. -/
def ofInt (i : Int) : Binary64 :=
  ofParts (decide (i < 0)) (nearestBits i.natAbs 1)

/-- Whether the number is zero or below; what is not a number is not. -/
def isAtMostZero (d : Binary64) : Bool :=
  !d.isNaN && (d.isNegative || d.isZero)

end Binary64

end GridScript
