import AddressBook.Events
import AddressBook.Proofs.Moment.Stamp
import AddressBook.Proofs.Store.Sound
import Mathlib.Data.Prod.Lex

namespace AddressBook

/-- Whether an event has the greater stamp, or one of the same rank and the greater id. -/
def Event.IsAbove (a b : Event) : Prop :=
  b.stamp.isBelow a.stamp = true ∨ a.stamp.isBelow b.stamp = false ∧ b.id < a.id

namespace Events

/-- The place of an event in the line of all. -/
def place (event : Event) : (WithBot (WithTop ℚ) ⊕ₗ String) ×ₗ ℕ :=
  toLex (event.stamp.rank, event.id)

theorem lt_or_not_lt_and_iff {α : Type*} [LinearOrder α] {x y : α} {p : Prop} :
    x < y ∨ ¬y < x ∧ p ↔ x < y ∨ x = y ∧ p := by
  constructor
  · rintro (less | ⟨notLess, holds⟩)
    · exact Or.inl less
    · exact (lt_or_eq_of_le (not_lt.mp notLess)).imp_right fun same => ⟨same, holds⟩
  · exact Or.imp_right fun ⟨same, holds⟩ => ⟨not_lt.mpr (le_of_eq same), holds⟩

theorem isAbove_iff {a b : Event} : a.IsAbove b ↔ place b < place a := by
  rw [Event.IsAbove, ← Bool.not_eq_true, Stamp.isBelow_iff, Stamp.isBelow_iff, lt_or_not_lt_and_iff,
    place, place, Prod.Lex.toLex_lt_toLex]

theorem isAbove_asymm {a b : Event} (above : a.IsAbove b) : ¬b.IsAbove a := by
  rw [isAbove_iff] at above ⊢
  exact above.asymm

theorem isAbove_trans {a b c : Event} (above : a.IsAbove b) (above' : b.IsAbove c) :
    a.IsAbove c := by
  rw [isAbove_iff] at above above' ⊢
  exact above'.trans above

theorem isNewer_iff {a b : Event} : isNewer a b = true ↔ place b ≤ place a := by
  rw [isNewer, Bool.or_eq_true, Bool.and_eq_true, Bool.not_eq_true', ← Bool.not_eq_true,
    Stamp.isBelow_iff, Stamp.isBelow_iff, decide_eq_true_iff, lt_or_not_lt_and_iff, place, place,
    Prod.Lex.toLex_le_toLex]

/-- Of two events with the stamps of moments the one with the later moment is above the other, and if
they are of one instant, the one with the greater id. -/
theorem isAbove_iff_instant {a b : Event} {m other : Moment}
    (stamped : Stamp.ofMoment? m = some a.stamp) (stamped' : Stamp.ofMoment? other = some b.stamp) :
    a.IsAbove b ↔ other.instant < m.instant ∨ other.instant = m.instant ∧ b.id < a.id := by
  have below := Moment.isBelow_iff_instant_lt stamped' stamped
  have above := Moment.isBelow_iff_instant_lt stamped stamped'
  rw [Event.IsAbove, below, ← Bool.not_eq_true, above]
  omega

variable {s : Store} {account : Bytes}

theorem mem_eventsOf {event : Event} :
    event ∈ s.eventsOf account ↔ event ∈ s.events.rows ∧ event.account = account := by
  rw [Store.eventsOf, List.mem_filter, beq_iff_eq]

/-- The events of an account, the highest first. -/
def sorted (account : Bytes) (s : Store) : List Event := (s.eventsOf account).mergeSort isNewer

theorem perm_sorted : (sorted account s).Perm (s.eventsOf account) := List.mergeSort_perm _ _

theorem mem_sorted {event : Event} :
    event ∈ sorted account s ↔ event ∈ s.events.rows ∧ event.account = account :=
  perm_sorted.mem_iff.trans mem_eventsOf

theorem window_eq_take (account : Bytes) (s : Store) :
    window account s = (sorted account s).take windowSize := rfl

theorem mem_eventsOf_of_mem_window {event : Event} (shown : event ∈ window account s) :
    event ∈ s.eventsOf account := perm_sorted.mem_iff.mp (List.mem_of_mem_take shown)

/-- Of events that there are, some are shown. -/
theorem window_ne_nil (found : s.eventsOf account ≠ []) : window account s ≠ [] := by
  intro none
  rw [window_eq_take, List.take_eq_nil_iff] at none
  have empty := none.resolve_left (by decide)
  exact found (List.perm_nil.mp (empty ▸ perm_sorted.symm))

theorem pairwise_id_ne_sorted (sound : s.Sound) :
    (sorted account s).Pairwise fun a b => a.id ≠ b.id := by
  have ids : (s.eventsOf account).Pairwise fun a b => a.id ≠ b.id :=
    List.Pairwise.filter _ sound.events.unique
  exact (perm_sorted.pairwise_iff fun different => different.symm).mpr ids

/-- No two events are at one place, so each is above those behind it. -/
theorem pairwise_sorted (sound : s.Sound) : (sorted account s).Pairwise Event.IsAbove := by
  have ordered : (sorted account s).Pairwise fun a b => isNewer a b = true := by
    refine List.pairwise_mergeSort ?_ ?_ _
    · intro a b c newer newer'
      exact isNewer_iff.mpr ((isNewer_iff.mp newer').trans (isNewer_iff.mp newer))
    · intro a b
      rw [Bool.or_eq_true, isNewer_iff, isNewer_iff]
      exact le_total _ _
  refine (ordered.and (pairwise_id_ne_sorted sound)).imp ?_
  rintro a b ⟨newer, different⟩
  rw [isAbove_iff]
  refine lt_of_le_of_ne (isNewer_iff.mp newer) fun same => different ?_
  exact (congrArg (fun place => (ofLex place).2) same).symm

/-- The window of an account shows different events of it, each above those behind it, as many as
there are up to its size, and every one that it does not show is below all of these. -/
structure IsWindow (account : Bytes) (s : Store) (shown : List Event) : Prop where
  mem : ∀ event ∈ shown, event ∈ s.events.rows ∧ event.account = account
  nodup : (shown.map Event.id).Nodup
  descending : shown.Pairwise Event.IsAbove
  length : shown.length = min windowSize (s.events.rows.filter (·.account = account)).length
  rest : ∀ event ∈ s.events.rows, event.account = account → event ∉ shown →
    ∀ other ∈ shown, other.IsAbove event

theorem isWindow_window (sound : s.Sound) : IsWindow account s (window account s) := by
  have whole := List.take_append_drop windowSize (sorted account s)
  have pairwise : (sorted account s).Pairwise Event.IsAbove := pairwise_sorted sound
  rw [← whole, List.pairwise_append] at pairwise
  obtain ⟨descending, _, above⟩ := pairwise
  rw [window_eq_take]
  refine ⟨?_, ?_, descending, ?_, ?_⟩
  · intro event member
    exact mem_sorted.mp (List.mem_of_mem_take member)
  · exact List.pairwise_map.mpr ((pairwise_id_ne_sorted sound).sublist (List.take_sublist _ _))
  · have same : s.eventsOf account = s.events.rows.filter (·.account = account) :=
      List.filter_congr fun event _ => by rw [Bool.eq_iff_iff, beq_iff_eq, decide_eq_true_iff]
    rw [List.length_take, perm_sorted.length_eq, same]
  · intro event row own missing other shown
    have member : event ∈ sorted account s := mem_sorted.mpr ⟨row, own⟩
    rw [← whole] at member
    exact above other shown event ((List.mem_append.mp member).resolve_left missing)

end Events
end AddressBook
