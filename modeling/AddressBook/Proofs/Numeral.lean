import AddressBook.Radix
import Mathlib.Data.List.Induction

namespace AddressBook.Radix

/-- Digits below the base, the first of which is not zero. -/
structure IsNumeral (base : Nat) (ds : List Nat) : Prop where
  small : ∀ d ∈ ds, d < base
  lead : ds.head? ≠ some 0

theorem digitsOnto_eq_append (base n : Nat) (lower : List Nat) :
    digitsOnto base n lower = digits base n ++ lower := by
  induction n using Nat.strongRecOn generalizing lower with
  | ind n ih =>
    by_cases positive : 2 ≤ base ∧ 0 < n
    · have below := Nat.div_lt_self positive.2 positive.1
      rw [digits, digitsOnto, if_pos positive, ih _ below, digitsOnto, if_pos positive,
        ih _ below [n % base], List.append_assoc, List.singleton_append]
    · rw [digits, digitsOnto, if_neg positive, digitsOnto, if_neg positive, List.nil_append]

@[simp] theorem digits_zero (base : Nat) : digits base 0 = [] := by
  unfold digits
  rw [digitsOnto, if_neg (by omega)]

/-- The last digit of a number, and the digits of what is left of it. -/
theorem digits_of_pos {base n : Nat} (h : 2 ≤ base) (positive : 0 < n) :
    digits base n = digits base (n / base) ++ [n % base] := by
  rw [digits, digitsOnto, if_pos ⟨h, positive⟩, digitsOnto_eq_append]

theorem value_append_singleton (base : Nat) (ds : List Nat) (d : Nat) :
    value base (ds ++ [d]) = base * value base ds + d := by
  simp [value, List.foldl_append]

theorem isNumeral_digits {base : Nat} (h : 2 ≤ base) (n : Nat) : IsNumeral base (digits base n) := by
  induction n using Nat.strongRecOn with
  | ind n ih =>
    rcases Nat.eq_zero_or_pos n with rfl | positive
    · rw [digits_zero]
      exact ⟨by simp, by simp⟩
    · have previous := ih _ (Nat.div_lt_self positive h)
      have last : n % base < base := Nat.mod_lt n (by omega)
      rw [digits_of_pos h positive]
      refine ⟨?_, ?_⟩
      · intro d member
        rcases List.mem_append.mp member with old | new
        · exact previous.small d old
        · rw [List.mem_singleton.mp new]
          exact last
      · cases quotient : digits base (n / base) with
        | nil =>
          have none : n / base = 0 := by
            rw [← value_digits h (n / base), quotient]
            rfl
          have whole := Nat.mod_add_div n base
          rw [none, Nat.mul_zero, Nat.add_zero] at whole
          simp only [whole, List.nil_append, List.head?_cons, ne_eq, Option.some.injEq]
          omega
        | cons d ds => simpa [quotient] using previous.lead

theorem IsNumeral.init {base d : Nat} {ds : List Nat} (numeral : IsNumeral base (ds ++ [d])) :
    IsNumeral base ds := by
  refine ⟨fun x member => numeral.small x (List.mem_append_left _ member), ?_⟩
  intro zero
  apply numeral.lead
  rw [List.head?_append, zero, Option.some_or]

theorem IsNumeral.value_pos {base : Nat} {ds : List Nat} (h : 2 ≤ base)
    (numeral : IsNumeral base ds) (nonempty : ds ≠ []) : 0 < value base ds := by
  induction ds using List.reverseRecOn with
  | nil => exact absurd rfl nonempty
  | append_singleton ds d ih =>
    rw [value_append_singleton]
    by_cases empty : ds = []
    · subst empty
      have lead : d ≠ 0 := by simpa using numeral.lead
      omega
    · have positive := ih numeral.init empty
      have grown := Nat.mul_pos (by omega : 0 < base) positive
      omega

/-- A numeral is the numeral of what it spells. -/
theorem IsNumeral.digits_value {base : Nat} {ds : List Nat} (h : 2 ≤ base)
    (numeral : IsNumeral base ds) : digits base (value base ds) = ds := by
  induction ds using List.reverseRecOn with
  | nil => exact digits_zero base
  | append_singleton ds d ih =>
    have positive := numeral.value_pos h (by simp)
    have small : d < base := numeral.small d (by simp)
    rw [digits_of_pos h positive, value_append_singleton, Nat.mul_add_div (by omega),
      Nat.div_eq_of_lt small, Nat.add_zero, ih numeral.init, Nat.mul_add_mod,
      Nat.mod_eq_of_lt small]

end AddressBook.Radix
