import AddressBook.Moment.Stamp
import AddressBook.Proofs.Moment.DateTime

namespace AddressBook

namespace Moment

/-- Whether the clock of a moment shows a reading, less than a day from universal time. -/
def IsValid (m : Moment) : Prop :=
  m.clock.IsValid ∧ (m.offset.getD 0).natAbs < 86400000000

theorem natAbs_lt_of_checkOffset {microseconds : Int} (passed : checkOffset microseconds = .ok ()) :
    microseconds.natAbs < 86400000000 := by
  unfold checkOffset at passed
  simp only at passed
  repeat' split at passed
  all_goals cases passed
  omega

theorem isValid_of_create {clock : DateTime} {offset : Option Int} {m : Moment}
    (valid : clock.IsValid) (created : create clock offset = .ok m) : m.IsValid := by
  cases offset with
  | none =>
    cases created
    exact ⟨valid, show (0 : Int).natAbs < 86400000000 by decide⟩
  | some microseconds =>
    simp only [create] at created
    cases passed : checkOffset microseconds with
    | error e =>
      rw [passed] at created
      cases created
    | ok _ =>
      rw [passed] at created
      cases created
      exact ⟨valid, natAbs_lt_of_checkOffset passed⟩

theorem IsValid.natAbs_instant_lt {m : Moment} (valid : m.IsValid) :
    m.instant.natAbs < 2 ^ 38 * 1000000 := by
  obtain ⟨clock, offset⟩ := valid
  have late := DateTime.micros_lt_endMicros clock
  unfold instant DateTime.epochMicros
  unfold DateTime.endMicros at late
  omega

theorem IsValid.lt_instant {m : Moment} (valid : m.IsValid) :
    -(DateTime.epochMicros : Int) - 86400000000 < m.instant := by
  obtain ⟨_, offset⟩ := valid
  unfold instant
  omega

theorem Iso.isValid_of_read? {text : List Char} {m : Moment} (read : read? text = some m) :
    m.IsValid := by
  unfold read? at read
  split at read
  next => cases read
  next =>
    obtain ⟨date, _, read⟩ := Option.bind_eq_some_iff.mp read
    split at read
    all_goals
      obtain ⟨_, _, read⟩ := Option.bind_eq_some_iff.mp read
      obtain ⟨clock, readClock, made⟩ := Option.bind_eq_some_iff.mp read
      exact isValid_of_create (DateTime.isValid_of_create (eq_ok_of_toOption readClock))
        (eq_ok_of_toOption made)

theorem Loose.isValid_of_read {text : List Char} {m : Moment} (read : Loose.read text = .ok (some m)) :
    m.IsValid := by
  unfold Loose.read at read
  split at read
  next => cases read
  next parts offset _ =>
    obtain ⟨_, checked, read⟩ := exists_of_bind_eq_ok read
    obtain ⟨clock, readClock, read⟩ := exists_of_bind_eq_ok read
    cases read
    refine ⟨DateTime.isValid_of_create readClock, ?_⟩
    cases offset with
    | none => exact show (0 : Int).natAbs < 86400000000 by decide
    | some microseconds => exact natAbs_lt_of_checkOffset checked

end Moment

theorem Stamp.isValid_of_read {stamp : Stamp} {m : Moment} (read : stamp.read = .ok (some m)) :
    m.IsValid := by
  unfold Stamp.read at read
  simp only at read
  split at read
  next moment found =>
    have valid := Moment.Iso.isValid_of_read? found
    cases read
    exact valid
  next =>
    cases loose : Moment.Loose.read stamp.shownChars with
    | error e =>
      rw [loose] at read
      cases read
    | ok moment? =>
      rw [loose] at read
      cases moment? with
      | none => cases read
      | some moment =>
        have valid := Moment.Loose.isValid_of_read loose
        cases read
        exact valid

end AddressBook
