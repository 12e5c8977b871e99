import Postmortem.Number.Word

/-!
# Binary floating-point numbers

The 64-bit format of percentages, as its bits. A finite number is `scaled / 2 ^ 1074` for an
integer `scaled`, and numbers are compared by these integers. Operations give the number nearest
to the exact result, and of two nearest ones the one with an even significand.
-/

namespace Postmortem

/-- A number in the 64-bit binary format: sign bit, eleven exponent bits, 52 fraction bits. -/
structure Binary64 where
  bits : UInt64
deriving DecidableEq, Repr, Inhabited

namespace Binary64

/-- The bits without the sign. -/
def magnitude (x : Binary64) : Nat := x.bits.toNat % 2 ^ 63

/-- Whether the sign bit is set. -/
def isNegative (x : Binary64) : Bool := decide (2 ^ 63 ≤ x.bits.toNat)

/-- The magnitude of the infinities; those above it are no numbers. -/
def infiniteMagnitude : Nat := 2047 * 2 ^ 52

/-- Whether the bits stand for no number. -/
def isNaN (x : Binary64) : Bool := decide (infiniteMagnitude < x.magnitude)

/-- Whether the bits stand for a finite number. -/
def isFinite (x : Binary64) : Bool := decide (x.magnitude < infiniteMagnitude)

/-- The number with a sign and a magnitude. -/
def make (negative : Bool) (magnitude : Nat) : Binary64 :=
  ⟨UInt64.ofNat (magnitude + if negative then 2 ^ 63 else 0)⟩

/-- No number. -/
def nan : Binary64 := make false (infiniteMagnitude + 2 ^ 51)

/-- An infinity. -/
def infinity (negative : Bool) : Binary64 := make negative infiniteMagnitude

/-- Significand and exponent of a finite magnitude: the value is `significand * 2 ^ exponent`
with the exponent counted from `-1074`. -/
def parts (x : Binary64) : Nat × Nat :=
  let e := x.magnitude / 2 ^ 52
  let fraction := x.magnitude % 2 ^ 52
  if e = 0 then (fraction, 0) else (2 ^ 52 + fraction, e - 1)

/-- The absolute value times `2 ^ 1074`. -/
def scaledAbs (x : Binary64) : Nat := x.parts.1 <<< x.parts.2

/-- The place of a number in the order of numbers: the infinities are outermost, and both zeros
have one place. -/
def rank (x : Binary64) : Int := if x.isNegative then -(x.magnitude : Int) else x.magnitude

/-- Comparison of numbers; it fails if one side is no number. -/
def le (x y : Binary64) : Bool := !x.isNaN && !y.isNaN && decide (x.rank ≤ y.rank)

/-- The quotient rounded to the nearest integer, a tie to the even one. -/
def roundDiv (num den : Nat) : Nat :=
  let q := num / den
  let r := num % den
  if 2 * r < den then q
  else if den < 2 * r then q + 1
  else if q % 2 = 0 then q else q + 1

/-- The number nearest to `num / den * 2 ^ -1074`, for a positive denominator. -/
def roundScaled (negative : Bool) (num den : Nat) : Binary64 :=
  -- the exponent that leaves 53 bits of the quotient, or the least one
  let e := (num / den).log2 - 52
  let m := roundDiv num (den <<< e)
  let (m, e) := if m = 2 ^ 53 then (2 ^ 52, e + 1) else (m, e)
  if 2046 ≤ e then infinity negative
  else if m < 2 ^ 52 then make negative m
  else make negative ((e + 1) * 2 ^ 52 + (m - 2 ^ 52))

/-- The number nearest to a quotient of naturals. -/
def ofRatio (negative : Bool) (num den : Nat) : Binary64 :=
  roundScaled negative (num * 2 ^ 1074) den

/-- The number nearest to an integer. -/
def ofInt (n : Int) : Binary64 := ofRatio (n < 0) n.natAbs 1

/-- The nearest number to a product of finite numbers. -/
def mul (x y : Binary64) : Binary64 :=
  roundScaled (x.isNegative != y.isNegative) (x.scaledAbs * y.scaledAbs) (2 ^ 1074)

/-- The nearest number to a quotient of finite numbers, whose divisor is not zero. -/
def div (x y : Binary64) : Binary64 :=
  roundScaled (x.isNegative != y.isNegative) (x.scaledAbs * 2 ^ 1074) y.scaledAbs

end Binary64

end Postmortem
