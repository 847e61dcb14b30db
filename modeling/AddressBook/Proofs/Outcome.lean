import Mathlib.Logic.Basic

namespace AddressBook

theorem exists_of_bind_eq_ok {first : Except ε α} {next : α → Except ε β} {result : β}
    (h : first >>= next = .ok result) : ∃ value, first = .ok value ∧ next value = .ok result := by
  cases first with
  | error e => cases h
  | ok value => exact ⟨value, rfl, h⟩

theorem eq_ok_of_toOption {outcome : Except ε α} {value : α} (h : outcome.toOption = some value) :
    outcome = .ok value := by
  cases outcome with
  | error e => cases h
  | ok other =>
    cases h
    rfl

section
variable {f : α → Except ε β} {items : List α} {values : List β}

theorem mapM_eq_ok_iff : items.mapM f = .ok values ↔ items.map f = values.map .ok := by
  induction items generalizing values with
  | nil =>
    rw [List.map_nil, eq_comm (a := []), List.map_eq_nil_iff]
    exact ⟨fun done => (Except.ok.inj done).symm, fun none => congrArg Except.ok none.symm⟩
  | cons item rest ih =>
    rw [List.mapM_cons, List.map_cons]
    constructor
    · intro done
      obtain ⟨head, first, done⟩ := exists_of_bind_eq_ok done
      obtain ⟨tail, others, done⟩ := exists_of_bind_eq_ok done
      cases done
      rw [List.map_cons, first, ih.mp others]
    · intro same
      cases values with
      | nil => cases same
      | cons head tail =>
        obtain ⟨first, others⟩ := List.cons.inj same
        rw [first, ih.mpr others]
        rfl

theorem mapM_of_ok {g : α → β} (each : ∀ item ∈ items, f item = .ok (g item)) :
    items.mapM f = .ok (items.map g) := by
  rw [mapM_eq_ok_iff, List.map_map]
  exact List.map_congr_left each

theorem exists_of_mapM_eq_ok (done : items.mapM f = .ok values) {value : β}
    (member : value ∈ values) : ∃ item ∈ items, f item = .ok value := by
  have made : .ok value ∈ items.map f := mapM_eq_ok_iff.mp done ▸ List.mem_map_of_mem member
  exact List.mem_map.mp made

theorem exists_of_mem_of_mapM_eq_ok (done : items.mapM f = .ok values) {item : α}
    (member : item ∈ items) : ∃ value ∈ values, f item = .ok value := by
  have made : f item ∈ values.map .ok := mapM_eq_ok_iff.mp done ▸ List.mem_map_of_mem member
  obtain ⟨value, known, same⟩ := List.mem_map.mp made
  exact ⟨value, known, same.symm⟩

theorem map_eq_of_mapM_eq_ok {g : β → γ} {h : α → γ}
    (same : ∀ item value, f item = .ok value → g value = h item)
    (done : items.mapM f = .ok values) : values.map g = items.map h := by
  induction items generalizing values with
  | nil =>
    cases done
    rfl
  | cons item rest ih =>
    rw [List.mapM_cons] at done
    obtain ⟨head, first, done⟩ := exists_of_bind_eq_ok done
    obtain ⟨tail, others, done⟩ := exists_of_bind_eq_ok done
    cases done
    rw [List.map_cons, List.map_cons, same item head first, ih others]

theorem exists_of_mapM_eq_error {e : ε} (fails : items.mapM f = .error e) :
    ∃ item ∈ items, f item = .error e := by
  induction items with
  | nil => cases fails
  | cons item rest ih =>
    rw [List.mapM_cons] at fails
    cases first : f item with
    | error other =>
      rw [first] at fails
      cases fails
      exact ⟨item, List.mem_cons_self, first⟩
    | ok value =>
      rw [first] at fails
      cases others : rest.mapM f with
      | ok values =>
        rw [others] at fails
        cases fails
      | error other =>
        rw [others] at fails
        cases fails
        obtain ⟨item, member, failed⟩ := ih others
        exact ⟨item, List.mem_cons_of_mem _ member, failed⟩

theorem exists_mapM_eq_ok (each : ∀ item ∈ items, ∃ value, f item = .ok value) :
    ∃ values, items.mapM f = .ok values := by
  cases done : items.mapM f with
  | ok values => exact ⟨values, rfl⟩
  | error e =>
    obtain ⟨item, member, fails⟩ := exists_of_mapM_eq_error done
    obtain ⟨value, made⟩ := each item member
    cases fails.symm.trans made

end
end AddressBook
