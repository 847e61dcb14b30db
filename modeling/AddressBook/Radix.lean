namespace AddressBook.Radix

/-- The digits of a number in front of those already found, most significant first. -/
def digitsOnto (base n : Nat) (lower : List Nat) : List Nat :=
  if 2 ≤ base ∧ 0 < n then digitsOnto base (n / base) (n % base :: lower) else lower
termination_by n
decreasing_by rename_i h; exact Nat.div_lt_self h.2 h.1

/-- The digits of a number, most significant first; zero has none. -/
def digits (base n : Nat) : List Nat := digitsOnto base n []

def value (base : Nat) (digits : List Nat) : Nat :=
  digits.foldl (fun high digit => base * high + digit) 0

/-- The lowest `count` digits of a number, least significant first. -/
def lowest (base : Nat) : Nat → Nat → List Nat
  | 0, _ => []
  | count + 1, n => n % base :: lowest base count (n / base)

theorem length_lowest (base count n : Nat) : (lowest base count n).length = count := by
  induction count generalizing n with
  | zero => rfl
  | succ count ih => simp [lowest, ih]

theorem value_digitsOnto {base : Nat} (h : 2 ≤ base) (n : Nat) (lower : List Nat) :
    value base (digitsOnto base n lower) =
      lower.foldl (fun high digit => base * high + digit) n := by
  induction n using Nat.strongRecOn generalizing lower with
  | ind n ih =>
    rw [digitsOnto]
    split
    next positive =>
      rw [ih (n / base) (Nat.div_lt_self positive.2 h), List.foldl_cons, Nat.div_add_mod]
    next done =>
      have zero : n = 0 := by omega
      rw [value, zero]

theorem value_digits {base : Nat} (h : 2 ≤ base) (n : Nat) : value base (digits base n) = n :=
  value_digitsOnto h n []

end AddressBook.Radix
