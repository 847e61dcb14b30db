import AddressBook.Number.Wide
import AddressBook.Text.Digit

namespace AddressBook.Table

/-- A decimal numeral: its sign, its digits before and behind the point, by how many powers of ten
it is moved, and whether it is written as an integer. -/
structure Numeral where
  negative : Bool
  whole : List Char
  fraction : List Char
  power : Int
  isPlain : Bool

namespace Numeral

/-- The size of a power, which does not grow any more once it has five digits. -/
def powerSize (digits : List Char) : Nat :=
  digits.foldl (fun n c => if n < 10000 then 10 * n + (c.toNat - 48) else 10000) 0

def takePower? (text : List Char) : Option (Int × List Char) :=
  match text with
  | e :: rest =>
    if e == 'e' || e == 'E' then
      let (negative, rest) := Text.splitSign rest
      let digits := rest.takeWhile Char.isDigit
      if digits.isEmpty then none
      else some (Text.signed negative (powerSize digits), rest.drop digits.length)
    else some (0, text)
  | [] => some (0, [])

def isGap (c : Char) : Bool := c == ' ' || (9 ≤ c.toNat && c.toNat ≤ 13)

def ofChars? (text : List Char) : Option Numeral :=
  let (negative, rest) := Text.splitSign (text.dropWhile isGap)
  let whole := rest.takeWhile Char.isDigit
  let afterWhole := rest.drop whole.length
  let fraction := match afterWhole with
    | '.' :: more => some (more.takeWhile Char.isDigit)
    | _ => none
  let afterFraction := afterWhole.drop ((fraction.map fun f => f.length + 1).getD 0)
  match whole ++ fraction.getD [], takePower? afterFraction with
  | _ :: _, some (power, rest) =>
    if rest.all isGap then
      some ⟨negative, whole, fraction.getD [], power,
        fraction.isNone && afterFraction.all isGap⟩
    else none
  | _, _ => none

def integer (n : Numeral) : Int := Text.signed n.negative (Text.asciiValue n.whole)

/-- From this size on a number takes no more digits. -/
def fullSize : Nat := 922337203685477579

/-- A number with the digits appended for which it has room, and how many are left over. -/
def appendDigits (n : Nat) : List Char → Nat × Nat
  | [] => (n, 0)
  | c :: rest =>
    if fullSize ≤ n then (n, rest.length + 1) else appendDigits (10 * n + (c.toNat - 48)) rest

/-- A number times ten to a power, as far as there is room, and the power that is left. -/
def grow (n : Nat) : Nat → Nat × Nat
  | 0 => (n, 0)
  | power + 1 => if fullSize < n then (n, power + 1) else grow (10 * n) power

/-- A number divided by ten to a power, as far as there is no remainder, and the power that is
left. -/
def shrink (n : Nat) : Nat → Nat × Nat
  | 0 => (n, 0)
  | power + 1 => if n % 10 = 0 then shrink (n / 10) power else (n, power + 1)

def greatestPower : Double := Double.round false (Nat.pow 10 308, 1)

def product? (negative : Bool) (n power : Nat) : Option Double :=
  let moved (power : Nat) : Option Double :=
    Double.nearest? negative ((Wide.ofNat n).mul (Wide.powerOfTen power)).magnitude
  if power ≤ 307 then moved power
  else if power < 342 then
    (moved (power - 308)).bind fun near =>
      Double.nearest? negative
        (near.magnitude.1 * greatestPower.magnitude.1, near.magnitude.2 * greatestPower.magnitude.2)
  else none

def quotient (negative : Bool) (n power : Nat) : Double :=
  let moved (power : Nat) : Double :=
    Double.round negative ((Wide.ofNat n).div (Wide.powerOfTen power)).magnitude
  if power ≤ 307 then moved power
  else if power < 342 then
    let near := moved (power - 308)
    Double.round negative
      (near.magnitude.1 * greatestPower.magnitude.2, near.magnitude.2 * greatestPower.magnitude.1)
  else Double.round negative (0, 1)

def double? (n : Numeral) : Option Double :=
  let (whole, left) := appendDigits 0 n.whole
  let (digits, unused) := appendDigits whole n.fraction
  let power : Int := n.power + left - (n.fraction.length - unused : Nat)
  if digits = 0 then some (Double.round n.negative (0, 1))
  else if 0 ≤ power then
    let (digits, power) := grow digits power.toNat
    product? n.negative digits power
  else
    let (digits, power) := shrink digits power.natAbs
    some (quotient n.negative digits power)

end Numeral
end AddressBook.Table
