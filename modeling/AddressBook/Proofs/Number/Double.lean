import AddressBook.Number.Double
import Mathlib.Algebra.Order.Field.Power
import Mathlib.Algebra.Order.Floor.Ring
import Mathlib.Data.Rat.Floor
import Mathlib.Tactic.NormNum
import Mathlib.Tactic.Positivity
import Mathlib.Tactic.Ring

namespace AddressBook.Double

variable {n n' d : Nat}

theorem scaled_div (n d : Nat) (power : Int) :
    ((scaled 2 (n, d) power).1 : ℚ) / (scaled 2 (n, d) power).2 = (n : ℚ) / d * 2 ^ power := by
  have parts : (2 : ℚ) ^ power = 2 ^ power.toNat / 2 ^ (-power).toNat := by
    conv_lhs => rw [← Int.toNat_sub_toNat_neg power]
    rw [zpow_sub₀ two_ne_zero, zpow_natCast, zpow_natCast]
  simp only [scaled, Nat.pow_eq, parts]
  push_cast
  rw [div_mul_div_comm]

theorem scaled_snd_pos (positive : 0 < d) (power : Int) : 0 < (scaled 2 (n, d) power).2 :=
  Nat.mul_pos positive (Nat.pow_pos two_pos)

def size (x : Double) : ℚ := x.significand * 2 ^ x.exponent

theorem size_nonneg (x : Double) : 0 ≤ x.size := by
  unfold size
  positivity

theorem floor_eq (x : Double) : x.floor = ⌊if x.negative then -x.size else x.size⌋ := by
  have whole : x.size = (x.magnitude.1 : ℚ) / x.magnitude.2 := by
    rw [magnitude, scaled_div, Nat.cast_one, div_one, size]
  unfold floor
  rw [whole]
  cases x.negative with
  | false => exact (Rat.floor_natCast_div_natCast _ _).symm
  | true =>
    have negated := Rat.floor_intCast_div_natCast (-(x.magnitude.1 : Int)) x.magnitude.2
    rw [Int.cast_neg, Int.cast_natCast, neg_div] at negated
    exact negated.symm

/-- The nearest integer is one of the two that are next to a fraction. -/
theorem nearestEven_eq_or (n d : Nat) :
    nearestEven n d = n / d ∧ 2 * (n % d) ≤ d ∨ nearestEven n d = n / d + 1 ∧ d ≤ 2 * (n % d) := by
  unfold nearestEven
  simp only
  split
  next below => exact .inl ⟨rfl, below.le⟩
  next notBelow =>
    split
    next above => exact .inr ⟨rfl, above.le⟩
    next notAbove =>
      rcases Nat.mod_two_eq_zero_or_one (n / d) with even | odd
      · exact .inl ⟨by rw [even, Nat.add_zero], not_lt.mp notAbove⟩
      · exact .inr ⟨by rw [odd], not_lt.mp notBelow⟩

theorem nearestEven_mono (le : n ≤ n') : nearestEven n d ≤ nearestEven n' d := by
  have quotients : n / d ≤ n' / d := Nat.div_le_div_right le
  have whole := Nat.div_add_mod n d
  have whole' := Nat.div_add_mod n' d
  by_contra! less
  rcases nearestEven_eq_or n d with ⟨lower, _⟩ | ⟨lower, atLeastHalf⟩
  · rcases nearestEven_eq_or n' d with ⟨upper, _⟩ | ⟨upper, _⟩ <;> omega
  · rcases nearestEven_eq_or n' d with ⟨upper, atMostHalf⟩ | ⟨upper, _⟩
    · have same : n / d = n' / d := by omega
      rw [same] at whole
      have equal : n = n' := by omega
      rw [equal] at less
      exact lt_irrefl _ less
    · omega

theorem nearestEven_mul (k : Nat) (positive : 0 < d) : nearestEven (k * d) d = k := by
  simp [nearestEven, positive]

/-- A positive fraction lies between two powers of two. -/
theorem binaryLog_bounds (positive : 0 < n) (positive' : 0 < d) :
    (2 : ℚ) ^ binaryLog (n, d) ≤ n / d ∧ (n : ℚ) / d < 2 ^ (binaryLog (n, d) + 1) := by
  have denominator : (0 : ℚ) < d := mod_cast positive'
  have sum (k : Int) : (2 : ℚ) ^ k * 2 ^ d.log2 = 2 ^ (k + d.log2) := by
    rw [← zpow_natCast, zpow_add₀ two_ne_zero]
  have upper : (n : ℚ) / d < 2 ^ ((n.log2 : Int) - d.log2 + 1) := by
    have least : (2 : ℚ) ^ d.log2 ≤ d := mod_cast Nat.log2_self_le positive'.ne'
    have below : (n : ℚ) < 2 ^ (n.log2 + 1) := mod_cast Nat.lt_log2_self
    rw [div_lt_iff₀ denominator]
    calc (n : ℚ) < 2 ^ (n.log2 + 1) := below
      _ = 2 ^ ((n.log2 : Int) - d.log2 + 1) * 2 ^ d.log2 := by
        rw [sum, ← zpow_natCast]
        congr 1
        omega
      _ ≤ 2 ^ ((n.log2 : Int) - d.log2 + 1) * d := by gcongr
  have lower : (2 : ℚ) ^ ((n.log2 : Int) - d.log2 - 1) ≤ n / d := by
    have least : (2 : ℚ) ^ n.log2 ≤ n := mod_cast Nat.log2_self_le positive.ne'
    have below : (d : ℚ) < 2 ^ (d.log2 + 1) := mod_cast Nat.lt_log2_self
    rw [le_div_iff₀ denominator]
    calc (2 : ℚ) ^ ((n.log2 : Int) - d.log2 - 1) * d
        ≤ 2 ^ ((n.log2 : Int) - d.log2 - 1) * 2 ^ (d.log2 + 1) := by gcongr
      _ = 2 ^ n.log2 := by
        rw [pow_succ, ← mul_assoc, sum, ← zpow_add_one₀ two_ne_zero, ← zpow_natCast]
        congr 1
        omega
      _ ≤ n := least
  have scaling : (scaled 2 (n, d) (-((n.log2 : Int) - d.log2))).1 <
      (scaled 2 (n, d) (-((n.log2 : Int) - d.log2))).2 ↔
        (n : ℚ) / d < 2 ^ ((n.log2 : Int) - d.log2) := by
    have scaled := scaled_div n d (-((n.log2 : Int) - d.log2))
    have nonzero : (0 : ℚ) < (Double.scaled 2 (n, d) (-((n.log2 : Int) - d.log2))).2 :=
      mod_cast scaled_snd_pos positive' _
    rw [← Nat.cast_lt (α := ℚ), ← div_lt_one nonzero, scaled, zpow_neg, ← div_eq_mul_inv,
      div_lt_one (by positivity)]
  unfold binaryLog
  simp only [scaling]
  split
  next less => exact ⟨lower, by rwa [sub_add_cancel]⟩
  next notLess => exact ⟨not_lt.mp notLess, upper⟩

theorem binaryLog_mono (positive : 0 < n) (positive' : 0 < d) (le : n ≤ n') :
    binaryLog (n, d) ≤ binaryLog (n', d) := by
  have least := (binaryLog_bounds positive positive').1
  have below := (binaryLog_bounds (positive.trans_le le) positive').2
  have fractions : (n : ℚ) / d ≤ n' / d := by gcongr
  have powers := (zpow_lt_zpow_iff_right₀ (one_lt_two (α := ℚ))).mp
    (least.trans_lt (fractions.trans_lt below))
  omega

/-- The power of two in whose multiples a fraction is rounded. -/
def unit (n d : Nat) : Int := max minExponent (binaryLog (n, d) - 52)

/-- So many units are nearest to a fraction. -/
def units (n d : Nat) : Nat :=
  nearestEven (scaled 2 (n, d) (-unit n d)).1 (scaled 2 (n, d) (-unit n d)).2

theorem negative_round (negative : Bool) (fraction : Nat × Nat) :
    (round negative fraction).negative = negative := by
  unfold round
  split
  next => rfl
  next =>
    simp only
    split <;> rfl

theorem size_round (negative : Bool) (positive : 0 < n) (d : Nat) :
    (round negative (n, d)).size = units n d * 2 ^ unit n d := by
  unfold round
  rw [if_neg (show ¬(n, d).1 = 0 from positive.ne')]
  simp only
  split
  next carry =>
    have next : units n d = 9007199254740992 := carry
    rw [size, next]
    simp only [unit]
    rw [zpow_add_one₀ two_ne_zero]
    push_cast
    ring
  next => rfl

/-- The unit is chosen so that there are no more units than 53 bits can count. -/
theorem units_le (positive : 0 < n) (positive' : 0 < d) : units n d ≤ 2 ^ 53 := by
  have below := (binaryLog_bounds positive positive').2
  have scaling := scaled_div n d (-unit n d)
  have denominator := scaled_snd_pos (n := n) positive' (-unit n d)
  have most : (n : ℚ) / d * 2 ^ (-unit n d) ≤ 2 ^ 53 := by
    have few : binaryLog (n, d) + 1 + -unit n d ≤ 53 := by
      unfold unit
      omega
    calc (n : ℚ) / d * 2 ^ (-unit n d)
        ≤ 2 ^ (binaryLog (n, d) + 1) * 2 ^ (-unit n d) := by gcongr
      _ = 2 ^ (binaryLog (n, d) + 1 + -unit n d) := (zpow_add₀ two_ne_zero _ _).symm
      _ ≤ 2 ^ (53 : Int) := zpow_le_zpow_right₀ one_le_two few
      _ = 2 ^ 53 := rfl
  rw [← scaling, div_le_iff₀ (mod_cast denominator)] at most
  calc units n d ≤ nearestEven (2 ^ 53 * (scaled 2 (n, d) (-unit n d)).2) _ :=
        nearestEven_mono (mod_cast most)
    _ = 2 ^ 53 := nearestEven_mul _ denominator

/-- Where the unit is not the least one, the units reach the power of two below the fraction. -/
theorem le_units (positive : 0 < n) (positive' : 0 < d) (greater : minExponent < unit n d) :
    2 ^ 52 ≤ units n d := by
  have least := (binaryLog_bounds positive positive').1
  have scaling := scaled_div n d (-unit n d)
  have denominator := scaled_snd_pos (n := n) positive' (-unit n d)
  have enough : (2 : ℚ) ^ 52 ≤ (n : ℚ) / d * 2 ^ (-unit n d) := by
    have same : binaryLog (n, d) + -unit n d = 52 := by
      unfold unit at greater ⊢
      omega
    calc (2 : ℚ) ^ 52 = 2 ^ (binaryLog (n, d) + -unit n d) := by
          rw [same]
          rfl
      _ = 2 ^ binaryLog (n, d) * 2 ^ (-unit n d) := zpow_add₀ two_ne_zero _ _
      _ ≤ n / d * 2 ^ (-unit n d) := by gcongr
  rw [← scaling, le_div_iff₀ (mod_cast denominator)] at enough
  calc 2 ^ 52 = nearestEven (2 ^ 52 * (scaled 2 (n, d) (-unit n d)).2) _ :=
        (nearestEven_mul _ denominator).symm
    _ ≤ units n d := nearestEven_mono (mod_cast enough)

theorem size_round_zero (negative : Bool) (d : Nat) : (round negative (0, d)).size = 0 := by
  simp [round, size]

/-- The greater of two fractions is not rounded to less. -/
theorem size_round_mono {negative negative' : Bool} (positive : 0 < d) (le : n ≤ n') :
    (round negative (n, d)).size ≤ (round negative' (n', d)).size := by
  rcases Nat.eq_zero_or_pos n with rfl | some
  · rw [size_round_zero]
    exact size_nonneg _
  have some' := some.trans_le le
  rw [size_round negative some, size_round negative' some']
  have logs := binaryLog_mono some positive le
  rcases (show unit n d ≤ unit n' d by unfold unit; omega).eq_or_lt with same | less
  · have rounded : units n d ≤ units n' d := by
      unfold units
      rw [same]
      exact nearestEven_mono (Nat.mul_le_mul_right _ le)
    rw [same]
    gcongr
  · have most : (units n d : ℚ) ≤ 2 ^ 53 := mod_cast units_le some positive
    have least : (2 : ℚ) ^ 52 ≤ units n' d :=
      mod_cast le_units some' positive ((le_max_left _ _).trans_lt less)
    calc (units n d : ℚ) * 2 ^ unit n d ≤ 2 ^ 53 * 2 ^ unit n d := by gcongr
      _ = 2 ^ 52 * 2 ^ (unit n d + 1) := by
        rw [zpow_add_one₀ two_ne_zero]
        ring
      _ ≤ 2 ^ 52 * 2 ^ unit n' d := by
        gcongr
        · exact one_le_two
        · omega
      _ ≤ units n' d * 2 ^ unit n' d := by gcongr

end AddressBook.Double
