import AddressBook.Config.Environment
import Mathlib.Data.List.Chain
import Mathlib.Data.List.Nodup
import Mathlib.Data.List.Perm.Subperm
import Mathlib.Logic.Relation

namespace AddressBook.Config.Environment

/-- Whether the value of a variable stands for another variable. -/
def Refers (env : Environment) (name next : String) : Prop :=
  ∃ value, env.lookup name = some value ∧ referred? value = some next

/-- The value at the end of the references that begin with a name. -/
inductive Gives (env : Environment) : String → String → Prop
  | value {name value : String} (found : env.lookup name = some value)
      (plain : referred? value = none) : Gives env name value
  | reference {name next value : String} (refers : env.Refers name next)
      (gives : Gives env next value) : Gives env name value

/-- Whether more references follow one another from a name than are followed. -/
def IsTooDeep (env : Environment) (name : String) : Prop :=
  ∃ names, names.length = maxReferences + 1 ∧ List.IsChain env.Refers (name :: names)

/-- Whether no references lead back to where they began. -/
def IsAcyclic (env : Environment) : Prop := ∀ name, ¬Relation.TransGen env.Refers name name

/-- The variables that stand for another one. -/
def references (env : Environment) : List (String × String) :=
  env.filter fun entry => (referred? entry.2).isSome

variable {env : Environment} {name : String}

theorem Refers.unique {next other : String} (refers : env.Refers name next)
    (refers' : env.Refers name other) : next = other := by
  obtain ⟨value, found, refers⟩ := refers
  obtain ⟨value', found', refers'⟩ := refers'
  cases found.symm.trans found'
  exact Option.some.inj (refers.symm.trans refers')

theorem Gives.of_refers {next value : String} (gives : env.Gives name value)
    (refers : env.Refers name next) : env.Gives next value := by
  cases gives with
  | value found plain =>
    obtain ⟨value', found', refers⟩ := refers
    cases found.symm.trans found'
    cases plain.symm.trans refers
  | reference refers' gives => exact refers.unique refers' ▸ gives

theorem Gives.unique {value value' : String} (gives : env.Gives name value)
    (gives' : env.Gives name value') : value = value' := by
  induction gives with
  | value found plain =>
    cases gives' with
    | value found' _ => exact Option.some.inj (found.symm.trans found')
    | reference refers _ =>
      obtain ⟨other, found', refers⟩ := refers
      cases found.symm.trans found'
      cases plain.symm.trans refers
  | reference refers _ ih => exact ih (gives'.of_refers refers)

/-- References have no end if there are as many as steps to follow them. -/
theorem follow_eq_endless_iff {steps count : Nat} : env.follow count name steps = .endless ↔
    ∃ names, names.length = steps ∧ List.IsChain env.Refers (name :: names) := by
  induction steps generalizing name count with
  | zero => exact ⟨fun _ => ⟨[], rfl, .singleton _⟩, fun _ => rfl⟩
  | succ steps ih =>
    have first {names : List String} (long : names.length = steps + 1)
        (chain : List.IsChain env.Refers (name :: names)) :
        ∃ next rest, env.Refers name next ∧ names = next :: rest := by
      obtain ⟨next, rest, rfl⟩ := List.exists_cons_of_length_eq_add_one long
      exact ⟨next, rest, (List.isChain_cons_cons.mp chain).1, rfl⟩
    rw [follow]
    split
    next unset =>
      refine ⟨nofun, fun ⟨names, long, chain⟩ => ?_⟩
      obtain ⟨next, rest, ⟨value, found, _⟩, _⟩ := first long chain
      cases unset.symm.trans found
    next value found =>
      split
      next plain =>
        refine ⟨nofun, fun ⟨names, long, chain⟩ => ?_⟩
        obtain ⟨next, rest, ⟨other, found', refers⟩, _⟩ := first long chain
        cases found.symm.trans found'
        cases plain.symm.trans refers
      next next refers =>
        have here : env.Refers name next := ⟨value, found, refers⟩
        rw [ih]
        constructor
        · rintro ⟨rest, long, chain⟩
          exact ⟨next :: rest, congrArg (· + 1) long, List.isChain_cons_cons.mpr ⟨here, chain⟩⟩
        · rintro ⟨names, long, chain⟩
          obtain ⟨other, rest, refers', rfl⟩ := first long chain
          cases here.unique refers'
          exact ⟨rest, Nat.succ.inj long, (List.isChain_cons_cons.mp chain).2⟩

theorem gives_of_follow {steps count depth : Nat} {value : String}
    (found : env.follow count name steps = .found value depth) : env.Gives name value := by
  induction steps generalizing name count with
  | zero => cases found
  | succ steps ih =>
    rw [follow] at found
    split at found
    next => cases found
    next other known =>
      split at found
      next plain =>
        cases found
        exact .value known plain
      next next refers => exact .reference ⟨other, known, refers⟩ (ih found)

theorem not_gives_of_follow {steps count : Nat} (unset : env.follow count name steps = .unset)
    (value : String) : ¬env.Gives name value := by
  induction steps generalizing name count with
  | zero => cases unset
  | succ steps ih =>
    intro gives
    rw [follow] at unset
    split at unset
    next missing =>
      cases gives with
      | value found _ => cases missing.symm.trans found
      | reference refers _ =>
        obtain ⟨other, found, _⟩ := refers
        cases missing.symm.trans found
    next other found =>
      split at unset
      next => cases unset
      next next refers => exact ih unset (gives.of_refers ⟨other, found, refers⟩)

/-- Looking a name up fails only if its references are too deep. -/
theorem nonEmpty?_eq_error_iff {failure : Failure} : env.nonEmpty? name = .error failure ↔
    env.IsTooDeep name ∧ failure = endlessFailure := by
  rw [IsTooDeep, ← @follow_eq_endless_iff _ _ _ 0]
  unfold nonEmpty? find
  cases env.follow 0 name (maxReferences + 1) with
  | unset => simp
  | found value count => simp
  | endless => simp [eq_comm]

/-- A name has a value if its references lead to one that is not empty. -/
theorem nonEmpty?_eq_some_iff {text : String} : env.nonEmpty? name = .ok (some text) ↔
    ¬env.IsTooDeep name ∧ env.Gives name text ∧ text ≠ "" := by
  rw [IsTooDeep, ← @follow_eq_endless_iff _ _ _ 0]
  unfold nonEmpty? find
  cases found : env.follow 0 name (maxReferences + 1) with
  | unset => simp [not_gives_of_follow found]
  | endless => simp
  | found value count =>
    have gives := gives_of_follow found
    by_cases empty : value = ""
    · have none : ∀ text, env.Gives name text → text = "" :=
        fun text gives' => (gives'.unique gives).trans empty
      simpa [empty] using none text
    · have same : value = text ↔ env.Gives name text ∧ text ≠ "" :=
        ⟨fun same => same ▸ ⟨gives, empty⟩, fun other => gives.unique other.1⟩
      simpa [empty] using same

/-- A name has no value if its references lead to none or to an empty one. -/
theorem nonEmpty?_eq_none_iff : env.nonEmpty? name = .ok none ↔
    ¬env.IsTooDeep name ∧ ∀ text, env.Gives name text → text = "" := by
  cases found : env.nonEmpty? name with
  | error failure => simp [nonEmpty?_eq_error_iff.mp found]
  | ok value =>
    cases value with
    | some text =>
      obtain ⟨_, gives, filled⟩ := nonEmpty?_eq_some_iff.mp found
      simpa using fun _ => ⟨text, gives, filled⟩
    | none =>
      have bounded : ¬env.IsTooDeep name := by
        intro deep
        cases found.symm.trans (nonEmpty?_eq_error_iff.mpr ⟨deep, rfl⟩)
      refine iff_of_true rfl ⟨bounded, fun text gives => ?_⟩
      by_contra filled
      cases found.symm.trans (nonEmpty?_eq_some_iff.mpr ⟨bounded, gives, filled⟩)

theorem IsAcyclic.nodup {names : List String} (acyclic : env.IsAcyclic)
    (chain : List.IsChain env.Refers names) : names.Nodup := by
  have closed : List.IsChain (Relation.TransGen env.Refers) names :=
    chain.imp fun _ _ refers => .single refers
  refine closed.pairwise.imp fun connected same => ?_
  exact acyclic _ (same ▸ connected)

theorem Refers.mem_references {next : String} (refers : env.Refers name next) :
    name ∈ env.references.map Prod.fst := by
  obtain ⟨value, found, refers⟩ := refers
  obtain ⟨before, after, split, _⟩ := List.lookup_eq_some_iff.mp found
  refine List.mem_map.mpr ⟨(name, value), List.mem_filter.mpr ⟨?_, by simp [refers]⟩, rfl⟩
  rw [split]
  exact List.mem_append_right _ List.mem_cons_self

theorem isAcyclic_of_references_eq_nil (none : env.references = []) : env.IsAcyclic := by
  intro name cycle
  obtain ⟨next, refers, _⟩ := Relation.TransGen.head'_iff.mp cycle
  have member := refers.mem_references
  rw [none] at member
  cases member

/-- All names of a chain but the last are those of variables that refer to another one. -/
theorem mem_references_of_isChain {names : List String}
    (chain : List.IsChain env.Refers (name :: names)) {other : String}
    (member : other ∈ (name :: names).dropLast) : other ∈ env.references.map Prod.fst := by
  induction names generalizing name with
  | nil => cases member
  | cons next rest ih =>
    obtain ⟨refers, chain⟩ := List.isChain_cons_cons.mp chain
    rw [List.dropLast_cons_cons, List.mem_cons] at member
    rcases member with rfl | later
    · exact refers.mem_references
    · exact ih chain later

/-- Without a cycle, and with no more references than are followed, every lookup comes to its end. -/
theorem IsAcyclic.not_isTooDeep (acyclic : env.IsAcyclic)
    (few : env.references.length ≤ maxReferences) (name : String) : ¬env.IsTooDeep name := by
  rintro ⟨names, long, chain⟩
  have different := (acyclic.nodup chain).sublist (List.dropLast_sublist _)
  have known : (name :: names).dropLast ⊆ env.references.map Prod.fst :=
    fun _ member => mem_references_of_isChain chain member
  have most := (List.subperm_of_subset different known).length_le
  rw [List.length_dropLast, List.length_cons, List.length_map] at most
  omega

end AddressBook.Config.Environment
