import AddressBook.Moment.UnixTime
import AddressBook.Proofs.Moment.Stamp
import AddressBook.Proofs.Moment.Valid
import AddressBook.Proofs.Number.Double
import Mathlib.Tactic.Linarith
import Mathlib.Tactic.Ring

namespace AddressBook

namespace Double

/-- The nearest integer is no more than half away. -/
theorem nearestEven_bounds (numerator : Nat) {denominator : Nat} (positive : 0 < denominator) :
    2 * (nearestEven numerator denominator * denominator) ≤ 2 * numerator + denominator ∧
      2 * numerator ≤ 2 * (nearestEven numerator denominator * denominator) + denominator := by
  have division := Nat.div_add_mod numerator denominator
  have remainder := Nat.mod_lt numerator positive
  rw [Nat.mul_comm] at division
  rcases nearestEven_eq_or numerator denominator with ⟨nearest, half⟩ | ⟨nearest, half⟩
  · rw [nearest]
    omega
  · rw [nearest, Nat.add_mul, Nat.one_mul]
    omega

/-- Rounding a quotient to half a unit before it is divided further changes the result by one at
most, and only if the next integer is as near to the quotient as that. -/
theorem ediv_eq_or {x d S K : Int} (positive : 0 < d) (scale : 0 < K)
    (below : 2 * (S * d) ≤ 2 * (x * K) + d) (above : 2 * (x * K) ≤ 2 * (S * d) + d) :
    S / K = x / d ∨ S / K = x / d + 1 ∧ (d - x % d) * (2 * K) ≤ d := by
  have remainder := Int.emod_lt_of_pos x positive
  have nonneg := Int.emod_nonneg x positive.ne'
  have whole : x * K = x / d * K * d + x % d * K := by
    conv_lhs => rw [← Int.ediv_mul_add_emod x d]
    ring
  have part : 0 ≤ x % d * K := Int.mul_nonneg nonneg scale.le
  have least : x / d ≤ S / K := by
    rw [Int.le_ediv_iff_mul_le scale]
    by_contra less
    have := Int.mul_le_mul_of_nonneg_right (Int.add_one_le_of_lt (not_le.mp less)) positive.le
    rw [Int.add_mul] at this
    omega
  have reach (units : Int) (far : x / d + units ≤ S / K) : (units * d - x % d) * (2 * K) ≤ d := by
    have := Int.mul_le_mul_of_nonneg_right ((Int.le_ediv_iff_mul_le scale).mp far) positive.le
    have excess : 2 * ((x / d + units) * K * d) =
        2 * (x / d * K * d + x % d * K) + (units * d - x % d) * (2 * K) := by ring
    rw [← whole] at excess
    omega
  have greatest : ¬x / d + 2 ≤ S / K := by
    intro far
    have most := reach 2 far
    have : (2 * d - x % d) * 1 ≤ (2 * d - x % d) * (2 * K) :=
      Int.mul_le_mul_of_nonneg_left (by omega) (by omega)
    omega
  by_cases next : x / d + 1 ≤ S / K
  · exact .inr ⟨by omega, by simpa using reach 1 next⟩
  · exact .inl (by omega)

/-- A power of two up to the greatest one that is not above a fraction is not above it either. -/
theorem two_pow_mul_le_of_le_binaryLog {n d k : Nat} (positive : n ≠ 0)
    (least : (k : Int) ≤ binaryLog (n, d)) : 2 ^ k * d ≤ n := by
  unfold binaryLog at least
  simp only at least
  split at least
  next =>
    have size : k + (d.log2 + 1) ≤ n.log2 := by omega
    calc 2 ^ k * d ≤ 2 ^ k * 2 ^ (d.log2 + 1) := Nat.mul_le_mul_left _ Nat.lt_log2_self.le
      _ = 2 ^ (k + (d.log2 + 1)) := (Nat.pow_add ..).symm
      _ ≤ 2 ^ n.log2 := Nat.pow_le_pow_right two_pos size
      _ ≤ n := Nat.log2_self_le positive
  next notLess =>
    have none : (-((n.log2 : Int) - d.log2)).toNat = 0 := by omega
    simp only [scaled, none, Int.neg_neg, Nat.pow_eq, Nat.pow_zero, Nat.mul_one, not_lt] at notLess
    refine le_trans ?_ notLess
    rw [Nat.mul_comm]
    exact Nat.mul_le_mul_left _ (Nat.pow_le_pow_right two_pos (by omega))

theorem scaled_of_nonneg (n d bits : Nat) : scaled 2 (n, d) bits = (n * 2 ^ bits, d) := by
  have none : (-(bits : Int)).toNat = 0 := by omega
  simp [scaled, none]

/-- A number of an exponent that is not positive has so many bits behind the point. -/
theorem floor_mk (negative : Bool) (significand bits : Nat) :
    floor ⟨negative, significand, -(bits : Int)⟩ =
      (if negative then -(significand : Int) else significand) / 2 ^ bits := by
  have none : (-(bits : Int)).toNat = 0 := by omega
  simp [floor, magnitude, scaled, none]

/-- A fraction that is not too great is rounded in so many bits behind the point. -/
theorem floor_round (negative : Bool) {n d k : Nat} (positive : 0 < d) (below : n < 2 ^ k * d)
    (few : k ≤ 52) : ∃ bits, 53 ≤ bits + k ∧ (round negative (n, d)).floor =
      (if negative then -(nearestEven (n * 2 ^ bits) d : Int) else nearestEven (n * 2 ^ bits) d) /
        2 ^ bits := by
  unfold round
  by_cases zero : n = 0
  · have nearest (bits : Nat) : nearestEven (n * 2 ^ bits) d = 0 := by
      simp [nearestEven, zero, positive]
    exact ⟨1074, by omega, by rw [if_pos zero, nearest]; exact floor_mk negative 0 1074⟩
  rw [if_neg zero]
  obtain ⟨bits, enough, exponent⟩ : ∃ bits : Nat, 53 ≤ bits + 1 + k ∧
      max minExponent (binaryLog (n, d) - 52) = -((bits + 1 : Nat) : Int) := by
    have log : ¬(k : Int) ≤ binaryLog (n, d) :=
      fun least => absurd (two_pow_mul_le_of_le_binaryLog zero least) (not_le.mpr below)
    refine ⟨(-max minExponent (binaryLog (n, d) - 52) - 1).toNat, ?_⟩
    unfold minExponent
    omega
  refine ⟨bits + 1, enough, ?_⟩
  rw [exponent]
  simp only [Int.neg_neg, scaled_of_nonneg]
  split
  next carry =>
    have next : -((bits + 1 : Nat) : Int) + 1 = -(bits : Int) := by omega
    have doubled : ((nearestEven (n * 2 ^ (bits + 1)) d : Nat) : Int) = 4503599627370496 * 2 := by
      rw [carry]
      rfl
    rw [next, floor_mk, doubled, pow_succ, ← Int.neg_mul, ← ite_mul,
      Int.mul_ediv_mul_of_pos_left _ _ two_pos]
    rfl
  next => exact floor_mk negative _ (bits + 1)

end Double

namespace Moment

/-- The seconds of a moment are its instant rounded down, or the next ones. These are then no farther
away than half of the last bit of the quotient, which has so many bits in front of the point. -/
theorem unixSeconds_eq_or {m : Moment} {k : Nat} (near : m.instant.natAbs < 2 ^ k * 1000000)
    (few : k ≤ 52) : m.unixSeconds = m.instant / 1000000 ∨
      m.unixSeconds = m.instant / 1000000 + 1 ∧
        (1000000 - m.instant % 1000000) * 2 ^ (54 - k) ≤ 1000000 := by
  obtain ⟨bits, enough, floor⟩ := Double.floor_round (m.instant < 0) (by decide) near few
  obtain ⟨below, above⟩ := Double.nearestEven_bounds (m.instant.natAbs * 2 ^ bits)
    (show 0 < 1000000 by decide)
  have precise : ((2 ^ (54 - k) : Nat) : Int) ≤ ((2 * 2 ^ bits : Nat) : Int) := by
    rw [← Nat.pow_succ']
    exact Int.ofNat_le.mpr (Nat.pow_le_pow_right two_pos (by omega))
  push_cast at precise
  have late : 0 ≤ 1000000 - m.instant % 1000000 :=
    Int.sub_nonneg_of_le (Int.emod_lt_of_pos m.instant (by decide)).le
  rw [unixSeconds, floor]
  zify at below above
  have rounded (S : Int) (below : 2 * (S * 1000000) ≤ 2 * (m.instant * 2 ^ bits) + 1000000)
      (above : 2 * (m.instant * 2 ^ bits) ≤ 2 * (S * 1000000) + 1000000) :
      S / 2 ^ bits = m.instant / 1000000 ∨ S / 2 ^ bits = m.instant / 1000000 + 1 ∧
        (1000000 - m.instant % 1000000) * 2 ^ (54 - k) ≤ 1000000 := by
    refine (Double.ediv_eq_or (by decide) (by positivity) below above).imp_right ?_
    exact And.imp_right fun most => (Int.mul_le_mul_of_nonneg_left precise late).trans most
  by_cases negative : m.instant < 0
  · rw [abs_of_neg negative] at below above
    rw [if_pos (decide_eq_true negative)]
    exact rounded _ (by linarith) (by linarith)
  · rw [abs_of_nonneg (not_lt.mp negative)] at below above
    rw [if_neg (by simpa using negative)]
    exact rounded _ below above

theorem IsValid.natAbs_unixSeconds_lt {m : Moment} (valid : m.IsValid) :
    m.unixSeconds.natAbs < 10 ^ 12 := by
  have near := valid.natAbs_instant_lt
  have seconds := unixSeconds_eq_or near (by decide)
  omega

/-- The seconds of moments are in the order of their instants. -/
theorem unixSeconds_mono {m other : Moment} (le : m.instant ≤ other.instant) :
    m.unixSeconds ≤ other.unixSeconds := by
  rw [unixSeconds, unixSeconds, Double.floor_eq, Double.floor_eq, Double.negative_round,
    Double.negative_round]
  refine Int.floor_le_floor ?_
  by_cases negative : m.instant < 0
  · have size := Double.size_nonneg (Double.round (m.instant < 0) (m.instant.natAbs, 1000000))
    by_cases negative' : other.instant < 0
    · simp only [negative, negative', decide_true, if_true]
      exact neg_le_neg (Double.size_round_mono (by decide) (by omega))
    · have size' :=
        Double.size_nonneg (Double.round (other.instant < 0) (other.instant.natAbs, 1000000))
      simp only [negative, negative', decide_true, decide_false, if_true, Bool.false_eq_true,
        if_false] at size size' ⊢
      exact (neg_nonpos.mpr size).trans size'
  · have negative' : ¬other.instant < 0 := by omega
    simp only [negative, negative', decide_false, Bool.false_eq_true, if_false]
    exact Double.size_round_mono (by decide) (by omega)

/-- The seconds of a moment are its instant rounded down if it is within so many seconds of the
beginning of 1970, be it before or after. Elsewhere they may also be the next ones, for which only
the last microseconds of a second can count. The offset that a moment is written with does not
matter. The instant counts from the first day of 1970, and is read as the clock of the moment shows
it. -/
theorem seconds_are_the_instant_rounded_down {m : Moment} (valid : m.IsValid) :
    (-(2 ^ 34 * 10 ^ 6) ≤ m.instant → m.instant < 2 ^ 34 * 10 ^ 6 →
      m.unixSeconds = m.instant / 10 ^ 6) ∧
    (m.unixSeconds = m.instant / 10 ^ 6 ∨
      m.unixSeconds = m.instant / 10 ^ 6 + 1 ∧ 999985 ≤ m.instant % 10 ^ 6) ∧
    (∀ other : Moment, other.instant = m.instant → other.unixSeconds = m.unixSeconds) ∧
    DateTime.epochMicros = Calendar.dayNumber ⟨1970, 1, 1⟩ * 86400000000 ∧
    DateTime.ofMicros (m.instant + m.offset.getD 0 + DateTime.epochMicros).toNat = m.clock := by
  have far := unixSeconds_eq_or valid.natAbs_instant_lt (by decide)
  refine ⟨fun least below => ?_, ?_, fun other same => unixSeconds_congr same, rfl, ?_⟩
  · by_cases first : m.instant = -(2 ^ 34 * 10 ^ 6)
    · rw [first] at far ⊢
      omega
    · have close : m.instant.natAbs < 2 ^ 34 * 1000000 := by omega
      have near := unixSeconds_eq_or close (by decide)
      omega
  · omega
  · have shown : (m.instant + m.offset.getD 0 + DateTime.epochMicros).toNat = m.clock.micros := by
      unfold instant
      omega
    rw [shown, DateTime.ofMicros_micros valid.1]

/-- The last microsecond before 1970, on a clock that is two hours ahead. -/
theorem seconds_are_the_instant_rounded_down_beforeEpoch :
    (⟨⟨1970, 1, 1, 1, 59, 59, 999999⟩, some 7200000000⟩ : Moment).IsValid ∧
      (⟨⟨1970, 1, 1, 1, 59, 59, 999999⟩, some 7200000000⟩ : Moment).instant = -1 ∧
      (⟨⟨1970, 1, 1, 1, 59, 59, 999999⟩, some 7200000000⟩ : Moment).unixSeconds = -1 := by
  have valid : (⟨⟨1970, 1, 1, 1, 59, 59, 999999⟩, some 7200000000⟩ : Moment).IsValid :=
    ⟨by decide, by decide⟩
  have instant :
      (⟨⟨1970, 1, 1, 1, 59, 59, 999999⟩, some 7200000000⟩ : Moment).instant = -1 := by
    decide +kernel
  refine ⟨valid, instant, ?_⟩
  rw [(seconds_are_the_instant_rounded_down valid).1 (by omega) (by omega), instant]
  rfl

/-- The last microsecond of all counts for the second that follows. -/
example : (⟨⟨9999, 12, 31, 23, 59, 59, 999999⟩, none⟩ : Moment).unixSeconds = 253402300800 := by
  decide +kernel

end Moment
end AddressBook
