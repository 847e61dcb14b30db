import AddressBook.Moment.Stamp
import AddressBook.Moment.UnixTime
import AddressBook.Proofs.Moment.Iso
import Mathlib.Algebra.Order.Ring.Rat
import Mathlib.Data.Sum.Order
import Mathlib.Order.WithBot

namespace AddressBook
namespace Stamp

/-- The place of a stamp: numbers by their size between the infinities, and texts behind them. -/
def rank : Stamp → WithBot (WithTop ℚ) ⊕ₗ String
  | .integer value => toLex (.inl ((value : ℚ) : WithTop ℚ))
  | .real value => toLex (.inl (fraction value : WithTop ℚ))
  | .infinite true => toLex (.inl ⊥)
  | .infinite false => toLex (.inl ⊤)
  | .text value => toLex (.inr value)

theorem isBelow_iff (a b : Stamp) : a.isBelow b = true ↔ a.rank < b.rank := by
  have coe (q r : ℚ) : ((q : WithTop ℚ) : WithBot (WithTop ℚ)) < (r : WithTop ℚ) ↔ q < r := by
    rw [WithBot.coe_lt_coe, WithTop.coe_lt_coe]
  have top (q : ℚ) : ((q : WithTop ℚ) : WithBot (WithTop ℚ)) < ⊤ :=
    WithBot.coe_lt_coe.mpr (WithTop.coe_lt_top q)
  have bot (q : ℚ) : ⊥ < ((q : WithTop ℚ) : WithBot (WithTop ℚ)) := WithBot.bot_lt_coe _
  cases a with
  | text a => cases b with
    | infinite b => cases b <;> simp [isBelow, rank, -Sum.Lex.inl_bot]
    | _ => simp [isBelow, rank]
  | infinite a => cases b with
    | infinite b => cases a <;> cases b <;> simp [isBelow, rank, -Sum.Lex.inl_bot]
    | _ => cases a <;> simp [isBelow, rank, bot, -Sum.Lex.inl_bot]
  | integer a => cases b with
    | infinite b => cases b <;> simp [isBelow, rank, top, -Sum.Lex.inl_bot]
    | _ => simp [isBelow, rank, coe]
  | real a => cases b with
    | infinite b => cases b <;> simp [isBelow, rank, top, -Sum.Lex.inl_bot]
    | _ => simp [isBelow, rank, coe]

theorem isBelow_ofDateTime {t u : DateTime} (valid : t.IsValid) (valid' : u.IsValid) :
    (ofDateTime t).isBelow (ofDateTime u) = true ↔ t.micros < u.micros := by
  rw [ofDateTime, ofDateTime, isBelow, decide_eq_true_iff, String.lt_iff, String.toList_ofList,
    String.toList_ofList, DateTime.isoChars_lt_iff valid.fits valid'.fits,
    DateTime.micros_lt_iff valid valid']

theorem read_ofDateTime {t : DateTime} (valid : t.IsValid) :
    (ofDateTime t).read = .ok (some ⟨t, some 0⟩) := by
  rw [ofDateTime, read, shownChars, String.toList_ofList, Moment.Iso.read?_isoChars valid]
  rfl

end Stamp

namespace Moment

/-- The same moment, read from a clock of universal time. -/
def inUniversalTime (m : Moment) : Moment :=
  ⟨DateTime.ofMicros (m.instant + (DateTime.epochMicros : Int)).toNat, some 0⟩

variable {m other : Moment} {stamp stamp' : Stamp}

/-- A moment has a stamp, that of its universal time, if the years 1 to 9999 contain it. -/
theorem ofMoment?_eq_some_iff : Stamp.ofMoment? m = some stamp ↔
    (0 ≤ m.instant + (DateTime.epochMicros : Int) ∧
      m.instant + (DateTime.epochMicros : Int) < (DateTime.endMicros : Int)) ∧
      stamp = Stamp.ofDateTime m.inUniversalTime.clock := by
  unfold Stamp.ofMoment? universal?
  simp only
  split
  next inRange =>
    refine ⟨fun stamped => ⟨inRange, (Option.some.inj stamped).symm⟩, ?_⟩
    rintro ⟨_, rfl⟩
    rfl
  next outside => exact ⟨nofun, fun ⟨inRange, _⟩ => absurd inRange outside⟩

theorem micros_inUniversalTime (stamped : Stamp.ofMoment? m = some stamp) :
    (m.inUniversalTime.clock.micros : Int) = m.instant + (DateTime.epochMicros : Int) := by
  obtain ⟨inRange, _⟩ := ofMoment?_eq_some_iff.mp stamped
  rw [inUniversalTime, DateTime.micros_ofMicros, Int.toNat_of_nonneg inRange.1]

theorem isValid_inUniversalTime (stamped : Stamp.ofMoment? m = some stamp) :
    m.inUniversalTime.clock.IsValid := by
  obtain ⟨inRange, _⟩ := ofMoment?_eq_some_iff.mp stamped
  exact DateTime.isValid_ofMicros (by omega)

theorem instant_inUniversalTime (stamped : Stamp.ofMoment? m = some stamp) :
    m.inUniversalTime.instant = m.instant := by
  have micros := micros_inUniversalTime stamped
  unfold instant at micros ⊢
  rw [micros]
  simp only [inUniversalTime, Option.getD_some]
  omega

/-- The stamp of a moment is read as the same moment. -/
theorem read_of_ofMoment? (stamped : Stamp.ofMoment? m = some stamp) :
    stamp.read = .ok (some m.inUniversalTime) := by
  obtain ⟨_, rfl⟩ := ofMoment?_eq_some_iff.mp stamped
  exact Stamp.read_ofDateTime (isValid_inUniversalTime stamped)

/-- Stamps of moments are in the order of the moments. -/
theorem isBelow_iff_instant_lt (stamped : Stamp.ofMoment? m = some stamp)
    (stamped' : Stamp.ofMoment? other = some stamp') :
    stamp.isBelow stamp' = true ↔ m.instant < other.instant := by
  have micros := micros_inUniversalTime stamped
  have micros' := micros_inUniversalTime stamped'
  have order := Stamp.isBelow_ofDateTime (isValid_inUniversalTime stamped)
    (isValid_inUniversalTime stamped')
  obtain ⟨_, rfl⟩ := ofMoment?_eq_some_iff.mp stamped
  obtain ⟨_, rfl⟩ := ofMoment?_eq_some_iff.mp stamped'
  rw [order]
  omega

theorem unixSeconds_congr (same : m.instant = other.instant) : m.unixSeconds = other.unixSeconds := by
  rw [unixSeconds, unixSeconds, same]

end Moment
end AddressBook
