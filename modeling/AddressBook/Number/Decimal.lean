import AddressBook.Number.Double

namespace AddressBook.Double

def belowPower (fraction : Nat × Nat) (power : Int) : Bool :=
  let (numerator, denominator) := scaled 10 fraction (-power)
  numerator < denominator

/-- The greatest power of ten that is not above a positive fraction. Its distance from the power of
two times the logarithm of two is at most one. -/
def decimalLog (fraction : Nat × Nat) : Int :=
  let guess := binaryLog fraction * 30103 / 100000
  if belowPower fraction guess then guess - 1
  else if belowPower fraction (guess + 1) then guess
  else guess + 1

/-- The first `count` digits of a fraction that starts at the given power of ten, as an integer, the
digits after them being dropped. -/
def leadingDigits (fraction : Nat × Nat) (power : Int) (count : Nat) : Nat :=
  let (numerator, denominator) := scaled 10 fraction (count - 1 - power)
  numerator / denominator

/-- Of the decimals with `count` digits next to a number, the nearer one of those that read back as
the number. -/
def readBack? (d : Double) (power : Int) (count : Nat) : Option (Nat × Int) :=
  let unit := power - count + 1
  let low := leadingDigits d.magnitude power count
  let reads (digits : Nat) : Bool := ofDecimal? d.negative digits unit == some d
  let (numerator, denominator) := scaled 10 d.magnitude (-unit)
  let nearer := nearestEven numerator denominator
  if reads nearer then some (nearer, unit)
  else if reads low then some (low, unit)
  else if reads (low + 1) then some (low + 1, unit)
  else none

/-- The shortest decimal, as digits and a power of ten, that reads back as a number. Seventeen
digits are always enough. A number just below a power of ten is rounded up to it, and so may get one
digit too many, a zero. -/
def shortest (d : Double) : Nat × Int :=
  if d.isZero then (0, 0)
  else
    let power := decimalLog d.magnitude
    let (digits, unit) :=
      ((List.range 17).findSome? fun k => readBack? d power (k + 1)).getD (0, 0)
    if digits % 10 = 0 then (digits / 10, unit + 1) else (digits, unit)

def withPoint (digits : List Char) (places : Nat) (alwaysPoint : Bool) : List Char :=
  let padded := List.replicate (places + 1 - digits.length) '0' ++ digits
  let whole := padded.take (padded.length - places)
  let fraction := padded.drop (padded.length - places)
  whole ++ if fraction.isEmpty && !alwaysPoint then [] else '.' :: fraction

def fixedChars (d : Double) (places : Nat) (alwaysPoint : Bool) : List Char :=
  let (numerator, denominator) := scaled 10 d.magnitude places
  withPoint (Nat.toDigits 10 (nearestEven numerator denominator)) places alwaysPoint

/-- The number rounded to so many digits behind the first one, and the power of ten of the first
one. -/
def roundedDigits (d : Double) (places : Nat) : List Char × Int :=
  if d.isZero then (List.replicate (places + 1) '0', 0)
  else
    let power := decimalLog d.magnitude
    let (numerator, denominator) := scaled 10 d.magnitude (places - power)
    let digits := Nat.toDigits 10 (nearestEven numerator denominator)
    if places + 1 < digits.length then (digits.take (places + 1), power + 1) else (digits, power)

def powerChars (power : Int) : List Char :=
  let digits := Nat.toDigits 10 power.natAbs
  (if power < 0 then '-' else '+') :: (if digits.length < 2 then '0' :: digits else digits)

def exponentialChars (digits : List Char) (power : Int) (alwaysPoint : Bool) : List Char :=
  withPoint digits (digits.length - 1) alwaysPoint ++ 'e' :: powerChars power

def scientificChars (d : Double) (places : Nat) (alwaysPoint : Bool) : List Char :=
  let (digits, power) := roundedDigits d places
  exponentialChars digits power alwaysPoint

/-- Digits without the zeros at their end; the first digit stays. -/
def withoutEndZeros (digits : List Char) : List Char :=
  digits.take 1 ++ ((digits.drop 1).reverse.dropWhile (· == '0')).reverse

/-- The number rounded to so many digits, positional if its power of ten is at least -4 and below
their number. Zeros at the end are left out unless `keepZeros`. -/
def generalChars (d : Double) (count : Nat) (keepZeros : Bool) : List Char :=
  let count := max count 1
  let (digits, power) := roundedDigits d (count - 1)
  let digits := if keepZeros then digits else withoutEndZeros digits
  if power < -4 ∨ (count : Int) ≤ power then exponentialChars digits power keepZeros
  else if power < 0 then
    withPoint digits (digits.length + power.natAbs - 1) keepZeros
  else
    let whole := power.toNat + 1
    withPoint (digits ++ List.replicate (whole - digits.length) '0') (digits.length - whole)
      keepZeros

end AddressBook.Double
