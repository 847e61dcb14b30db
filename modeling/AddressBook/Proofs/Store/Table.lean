import AddressBook.Store.Table

namespace AddressBook.Table

/-- Ids ascend, and those not given yet are greater. -/
structure Numbered (id : α → Nat) (t : Table α) : Prop where
  ascending : t.rows.Pairwise fun a b => id a < id b
  given : ∀ row ∈ t.rows, id row < t.nextId

/-- Different rows have different keys. -/
def Unique (key : α → β) (t : Table α) : Prop := t.rows.Pairwise fun a b => key a ≠ key b

/-- Every row refers to a row of another table. -/
def Refers (ref : α → Nat) (t : Table α) (id : β → Nat) (other : Table β) : Prop :=
  ∀ row ∈ t.rows, ∃ target ∈ other.rows, id target = ref row

variable {t : Table α} {other : Table β}

theorem numbered_empty (id : α → Nat) : Numbered id (empty : Table α) :=
  ⟨List.Pairwise.nil, fun _ member => absurd member List.not_mem_nil⟩

theorem unique_empty (key : α → β) : Unique key (empty : Table α) := List.Pairwise.nil

theorem refers_empty (ref : α → Nat) (id : β → Nat) (other : Table β) :
    Refers ref (empty : Table α) id other := fun _ member => absurd member List.not_mem_nil

theorem mem_rows_add {make : Nat → α} {row : α} :
    row ∈ (t.add make).2.rows ↔ row ∈ t.rows ∨ row = make t.nextId := by
  rw [rows_add, List.mem_append, List.mem_singleton]

theorem mem_rows_remove {p : α → Bool} {row : α} :
    row ∈ (t.remove p).2.rows ↔ row ∈ t.rows ∧ p row = false := by
  rw [rows_remove, List.mem_filter, Bool.not_eq_true']

theorem Numbered.add {id : α → Nat} (numbered : Numbered id t) (make : Nat → α)
    (named : id (make t.nextId) = t.nextId) : Numbered id (t.add make).2 := by
  refine ⟨?_, ?_⟩
  · rw [rows_add, List.pairwise_append]
    refine ⟨numbered.ascending, List.pairwise_singleton .., ?_⟩
    intro row member new isNew
    rw [List.mem_singleton.mp isNew, named]
    exact numbered.given row member
  · intro row member
    rw [nextId_add]
    rcases mem_rows_add.mp member with old | rfl
    · have below := numbered.given row old
      omega
    · omega

theorem Numbered.remove {id : α → Nat} (numbered : Numbered id t) (p : α → Bool) :
    Numbered id (t.remove p).2 := by
  refine ⟨?_, ?_⟩
  · rw [rows_remove]
    exact numbered.ascending.filter _
  · intro row member
    exact numbered.given row (mem_rows_remove.mp member).1

theorem Unique.add {key : α → γ} (unique : Unique key t) (make : Nat → α)
    (new : ∀ row ∈ t.rows, key row ≠ key (make t.nextId)) : Unique key (t.add make).2 := by
  unfold Unique
  rw [rows_add, List.pairwise_append]
  refine ⟨unique, List.pairwise_singleton .., ?_⟩
  intro row member added isNew
  rw [List.mem_singleton.mp isNew]
  exact new row member

theorem Unique.remove {key : α → γ} (unique : Unique key t) (p : α → Bool) :
    Unique key (t.remove p).2 := by
  unfold Unique
  rw [rows_remove]
  exact List.Pairwise.filter _ unique

theorem Refers.add {ref : α → Nat} {id : β → Nat} (refers : Refers ref t id other) (make : Nat → α)
    (known : ∃ target ∈ other.rows, id target = ref (make t.nextId)) :
    Refers ref (t.add make).2 id other := by
  intro row member
  rcases mem_rows_add.mp member with old | rfl
  · exact refers row old
  · exact known

theorem Refers.remove {ref : α → Nat} {id : β → Nat} (refers : Refers ref t id other)
    (p : α → Bool) : Refers ref (t.remove p).2 id other := by
  intro row member
  exact refers row (mem_rows_remove.mp member).1

theorem Refers.add_target {ref : α → Nat} {id : β → Nat} (refers : Refers ref t id other)
    (make : Nat → β) : Refers ref t id (other.add make).2 := by
  intro row member
  obtain ⟨target, there, same⟩ := refers row member
  exact ⟨target, mem_rows_add.mpr (Or.inl there), same⟩

/-- When the rows that refer to an id go with it, the others keep what they refer to. -/
theorem Refers.cascade {ref : α → Nat} {id : β → Nat} (refers : Refers ref t id other) (n : Nat) :
    Refers ref (t.remove fun row => ref row == n).2 id (other.remove fun row => id row == n).2 := by
  intro row member
  obtain ⟨old, different⟩ := mem_rows_remove.mp member
  obtain ⟨target, there, same⟩ := refers row old
  exact ⟨target, mem_rows_remove.mpr ⟨there, same ▸ different⟩, same⟩

/-- At most one row has a given key. -/
theorem Unique.length_filter_le {key : α → γ} (unique : Unique key t) {p : α → Bool} {k : γ}
    (keyed : ∀ row, p row = true → key row = k) : (t.rows.filter p).length ≤ 1 := by
  have apart : (t.rows.filter p).Pairwise fun a b => key a ≠ key b := List.Pairwise.filter _ unique
  have all : ∀ row ∈ t.rows.filter p, key row = k := fun row member =>
    keyed row (List.mem_filter.mp member).2
  match rows : t.rows.filter p with
  | [] => exact Nat.zero_le 1
  | [_] => exact Nat.le_refl 1
  | first :: second :: _ =>
    rw [rows] at apart all
    have same := (all first (by simp)).trans (all second (by simp)).symm
    exact absurd same ((List.pairwise_cons.mp apart).1 second (by simp))

theorem Unique.eq_of_key_eq {key : α → γ} (unique : Unique key t) {row other : α}
    (member : row ∈ t.rows) (member' : other ∈ t.rows) (same : key row = key other) :
    row = other := by
  have apart : t.rows.Pairwise fun a b => key a = key b → a = b :=
    unique.imp fun different equal => absurd equal different
  have flipped : t.rows.Pairwise fun a b => key b = key a → b = a :=
    unique.imp fun different equal => absurd equal.symm different
  exact apart.forall_of_forall_of_flip (fun _ _ _ => rfl) flipped member member' same

theorem Unique.find?_eq_some_iff [BEq γ] [LawfulBEq γ] {key : α → γ} (unique : Unique key t) {k : γ}
    {row : α} : t.rows.find? (fun row => key row == k) = some row ↔ row ∈ t.rows ∧ key row = k := by
  have keyed {other : α} (found : t.rows.find? (fun row => key row == k) = some other) :
      other ∈ t.rows ∧ key other = k := by
    have holds := List.find?_some found
    exact ⟨List.mem_of_find?_eq_some found, eq_of_beq holds⟩
  constructor
  · exact keyed
  · rintro ⟨member, same⟩
    cases found : t.rows.find? fun row => key row == k with
    | none => exact absurd (beq_iff_eq.mpr same) (List.find?_eq_none.mp found row member)
    | some other =>
      obtain ⟨member', same'⟩ := keyed found
      rw [unique.eq_of_key_eq member' member (same'.trans same.symm)]

theorem Numbered.unique {id : α → Nat} (numbered : Numbered id t) : Unique id t :=
  numbered.ascending.imp fun below => Nat.ne_of_lt below

end AddressBook.Table
