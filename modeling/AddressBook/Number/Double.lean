namespace AddressBook

/-- The number `significand * 2 ^ exponent` or the negative of it; zero has a sign as well. -/
structure Double where
  negative : Bool
  significand : Nat
  exponent : Int
  deriving DecidableEq, Repr

namespace Double

/-- The least exponent: numbers whose significand has fewer than 53 bits have no other one. -/
def minExponent : Int := -1074

def maxExponent : Int := 971

/-- The integer nearest to a fraction, the even one of two that are equally near. -/
def nearestEven (numerator denominator : Nat) : Nat :=
  let quotient := numerator / denominator
  let twice := 2 * (numerator % denominator)
  if twice < denominator then quotient
  else if denominator < twice then quotient + 1
  else quotient + quotient % 2

def scaled (base : Nat) (fraction : Nat × Nat) (power : Int) : Nat × Nat :=
  (fraction.1 * Nat.pow base power.toNat, fraction.2 * Nat.pow base (-power).toNat)

/-- The greatest power of two that is not above a positive fraction. -/
def binaryLog (fraction : Nat × Nat) : Int :=
  let guess : Int := (fraction.1.log2 : Int) - (fraction.2.log2 : Int)
  let (numerator, denominator) := scaled 2 fraction (-guess)
  if numerator < denominator then guess - 1 else guess

/-- The number with the given sign that is nearest to a fraction, as if there were no greatest
one. -/
def round (negative : Bool) (fraction : Nat × Nat) : Double :=
  if fraction.1 = 0 then ⟨negative, 0, minExponent⟩
  else
    let exponent := max minExponent (binaryLog fraction - 52)
    let (numerator, denominator) := scaled 2 fraction (-exponent)
    let significand := nearestEven numerator denominator
    if significand = 9007199254740992 then ⟨negative, 4503599627370496, exponent + 1⟩
    else ⟨negative, significand, exponent⟩

/-- The number nearest to a fraction, unless it is beyond the greatest one. -/
def nearest? (negative : Bool) (fraction : Nat × Nat) : Option Double :=
  let rounded := round negative fraction
  if maxExponent < rounded.exponent then none else some rounded

/-- The number nearest to `digits * 10 ^ power`. What is far beyond the greatest and the least
number is recognised by its size, so that a huge power costs nothing. -/
def ofDecimal? (negative : Bool) (digits : Nat) (power : Int) : Option Double :=
  let bits : Int := digits.log2
  if digits = 0 ∨ bits / 3 + power < -400 then some ⟨negative, 0, minExponent⟩
  else if 400 < bits * 3 / 10 + power then none
  else nearest? negative (scaled 10 (digits, 1) power)

def magnitude (d : Double) : Nat × Nat := scaled 2 (d.significand, 1) d.exponent

def truncate (d : Double) : Int :=
  let whole : Int := d.magnitude.1 / d.magnitude.2
  if d.negative then -whole else whole

def floor (d : Double) : Int :=
  let numerator : Int := if d.negative then -(d.magnitude.1 : Int) else d.magnitude.1
  numerator / (d.magnitude.2 : Int)

def isZero (d : Double) : Bool := d.significand == 0

def isInteger (d : Double) : Bool := d.magnitude.1 % d.magnitude.2 == 0

end Double
end AddressBook
