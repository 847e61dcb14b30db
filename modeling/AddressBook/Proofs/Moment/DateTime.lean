import AddressBook.Moment.DateTime
import AddressBook.Proofs.Moment.Calendar
import AddressBook.Proofs.Outcome

namespace AddressBook.DateTime

/-- The parts of a reading, the greatest first. -/
def parts (t : DateTime) : List Nat :=
  [t.year, t.month, t.day, t.hour, t.minute, t.second, t.microsecond]

theorem IsValid.date {t : DateTime} (valid : t.IsValid) : t.date.IsValid := by
  obtain ⟨year, _, month, month', day, day', _⟩ := valid
  exact ⟨year, month, month', day, day'⟩

theorem micros_ofMicros (n : Nat) : (ofMicros n).micros = n := by
  have date := (Calendar.dateOf_spec (n / 1000000 / 86400)).2
  have same : (ofMicros n).date = Calendar.dateOf (n / 1000000 / 86400) := rfl
  unfold micros
  rw [same, date]
  simp only [ofMicros]
  omega

theorem isValid_ofMicros {n : Nat} (before : n < endMicros) : (ofMicros n).IsValid := by
  obtain ⟨valid, number⟩ := Calendar.dateOf_spec (n / 1000000 / 86400)
  have inRange : (Calendar.dateOf (n / 1000000 / 86400)).year ≤ maxYear := by
    by_contra late
    have past : Calendar.daysBeforeYear 9999 + Calendar.daysInYear 9999 ≤
        Calendar.daysBeforeYear (Calendar.dateOf (n / 1000000 / 86400)).year :=
      Calendar.daysBeforeYear_add_daysInYear_le (by decide) (not_le.mp late)
    have total : Calendar.daysBeforeYear 9999 + Calendar.daysInYear 9999 = 3652059 := by decide
    rw [Calendar.dayNumber] at number
    unfold endMicros at before
    omega
  refine ⟨valid.year, inRange, valid.month, valid.month_le, valid.day, valid.day_le, ?_⟩
  simp only [ofMicros]
  omega

/-- Readings are in the order of their microseconds. -/
theorem micros_lt_iff {t u : DateTime} (valid : t.IsValid) (valid' : u.IsValid) :
    t.micros < u.micros ↔ t.parts < u.parts := by
  have earlier : Calendar.dayNumber t.date < Calendar.dayNumber u.date ↔ t.year < u.year ∨
      t.year = u.year ∧ (t.month < u.month ∨ t.month = u.month ∧ t.day < u.day) :=
    valid.date.dayNumber_lt_iff valid'.date
  have later : Calendar.dayNumber u.date < Calendar.dayNumber t.date ↔ u.year < t.year ∨
      u.year = t.year ∧ (u.month < t.month ∨ u.month = t.month ∧ u.day < t.day) :=
    valid'.date.dayNumber_lt_iff valid.date
  obtain ⟨_, _, _, _, _, _, hour, minute, second, microsecond⟩ := valid
  obtain ⟨_, _, _, _, _, _, hour', minute', second', microsecond'⟩ := valid'
  simp only [parts, List.cons_lt_cons_iff, List.not_lt_nil, and_false, or_false]
  unfold micros
  generalize Calendar.dayNumber t.date = n at *
  generalize Calendar.dayNumber u.date = n' at *
  have order : (((n * 24 + t.hour) * 60 + t.minute) * 60 + t.second) * 1000000 + t.microsecond <
      (((n' * 24 + u.hour) * 60 + u.minute) * 60 + u.second) * 1000000 + u.microsecond ↔
      n < n' ∨ n = n' ∧ (t.hour < u.hour ∨ t.hour = u.hour ∧ (t.minute < u.minute ∨
        t.minute = u.minute ∧ (t.second < u.second ∨ t.second = u.second ∧
          t.microsecond < u.microsecond))) := by omega
  rw [order]
  omega

/-- Readings lie in front of the year 10000. -/
theorem micros_lt_endMicros {t : DateTime} (valid : t.IsValid) : t.micros < endMicros := by
  have date := valid.date
  have inMonth := date.dayNumber_lt
  have inYear := Calendar.daysBeforeMonth_add_daysInMonth_le t.year date.month
    (Nat.lt_succ_of_le date.month_le) (Nat.le_refl 13)
  have late : t.year < 10000 := Nat.lt_succ_of_le valid.2.1
  have between := Calendar.daysBeforeYear_add_daysInYear_le date.year late
  have total : Calendar.daysBeforeYear 10000 = 3652059 := by decide
  obtain ⟨_, _, _, _, _, _, hour, minute, second, microsecond⟩ := valid
  rw [Calendar.daysBeforeMonth_last] at inYear
  have same : t.date.year = t.year ∧ t.date.month = t.month := ⟨rfl, rfl⟩
  rw [same.1, same.2] at inMonth
  rw [same.2] at inYear
  rw [same.1] at between
  unfold micros endMicros
  omega

/-- A reading is the one that its microseconds give. -/
theorem ofMicros_micros {t : DateTime} (valid : t.IsValid) : ofMicros t.micros = t := by
  have back := isValid_ofMicros (micros_lt_endMicros valid)
  have same := micros_ofMicros t.micros
  have parts : (ofMicros t.micros).parts = t.parts := by
    refine List.le_antisymm (fun later => ?_) fun earlier => ?_
    · exact absurd ((micros_lt_iff valid back).mpr later) (by omega)
    · exact absurd ((micros_lt_iff back valid).mpr earlier) (by omega)
  rcases given : ofMicros t.micros with ⟨year, month, day, hour, minute, second, microsecond⟩
  rw [given] at parts
  cases t
  cases parts
  rfl

/-- The numbers that make up a reading are in their ranges. -/
theorem isValid_of_create {year month day hour minute second microsecond : Int} {t : DateTime}
    (created : create year month day hour minute second microsecond = .ok t) : t.IsValid := by
  unfold create at created
  obtain ⟨_, _, created⟩ := exists_of_bind_eq_ok created
  repeat' split at created
  all_goals cases created
  simp only [IsValid, minYear, maxYear] at *
  omega

end AddressBook.DateTime
