import AddressBook.Number.Double

namespace AddressBook

structure Wide where
  significand : Nat
  exponent : Int
  deriving DecidableEq, Repr

namespace Wide

/-- The number nearest to a positive fraction, the even one of two that are equally near. -/
def round (fraction : Nat × Nat) : Wide :=
  let exponent := Double.binaryLog fraction - 63
  let (numerator, denominator) := Double.scaled 2 fraction (-exponent)
  ⟨Double.nearestEven numerator denominator, exponent⟩

/-- A positive integer, which is kept exactly below `2 ^ 64`. -/
def ofNat (n : Nat) : Wide := round (n, 1)

def magnitude (w : Wide) : Nat × Nat := Double.scaled 2 (w.significand, 1) w.exponent

def mul (a b : Wide) : Wide :=
  round (Double.scaled 2 (a.significand * b.significand, 1) (a.exponent + b.exponent))

def div (a b : Wide) : Wide :=
  round (Double.scaled 2 (a.significand, b.significand) (a.exponent - b.exponent))

/-- The product of a number and a power of a factor, by squaring the factor. -/
def mulPower (product factor : Wide) (n : Nat) : Wide :=
  let product := if n % 2 = 1 then product.mul factor else product
  if n < 2 then product else mulPower product (factor.mul factor) (n / 2)
termination_by n
decreasing_by omega

/-- A power of ten, rounded at each of the steps by which it is worked out. -/
def powerOfTen (n : Nat) : Wide := mulPower (ofNat 1) (ofNat 10) n

end Wide
end AddressBook
