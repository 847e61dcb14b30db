import AddressBook.Proofs.Store.Sound

namespace AddressBook

namespace Table

/-- Whether the rows of a later table are rows of an earlier one or have ids not given by then. -/
structure Grows (id : α → Nat) (t later : Table α) : Prop where
  next : t.nextId ≤ later.nextId
  rows : ∀ row ∈ later.rows, row ∈ t.rows ∨ t.nextId ≤ id row

variable {t later : Table α} {id : α → Nat}

theorem Grows.refl (id : α → Nat) (t : Table α) : Grows id t t :=
  ⟨Nat.le_refl _, fun _ member => Or.inl member⟩

theorem Grows.trans {last : Table α} (grows : Grows id t later) (more : Grows id later last) :
    Grows id t last := by
  refine ⟨Nat.le_trans grows.next more.next, fun row member => ?_⟩
  rcases more.rows row member with old | new
  · exact grows.rows row old
  · exact Or.inr (Nat.le_trans grows.next new)

theorem grows_add (make : Nat → α) (named : id (make t.nextId) = t.nextId) :
    Grows id t (t.add make).2 := by
  refine ⟨Nat.le_succ _, fun row member => ?_⟩
  rcases mem_rows_add.mp member with old | rfl
  · exact Or.inl old
  · exact Or.inr (Nat.le_of_eq named.symm)

theorem grows_remove {p : α → Bool} : Grows id t (t.remove p).2 :=
  ⟨Nat.le_refl _, fun _ member => Or.inl (mem_rows_remove.mp member).1⟩

theorem Grows.ids (grows : Grows id t later) :
    t.nextId ≤ later.nextId ∧ ∀ n ∈ later.rows.map id, n ∈ t.rows.map id ∨ t.nextId ≤ n := by
  refine ⟨grows.next, fun n member => ?_⟩
  obtain ⟨row, there, rfl⟩ := List.mem_map.mp member
  exact (grows.rows row there).imp List.mem_map_of_mem fun new => new

theorem Numbered.ids (numbered : Numbered id t) :
    (t.rows.map id).Pairwise (· < ·) ∧ ∀ n ∈ t.rows.map id, n < t.nextId := by
  refine ⟨List.pairwise_map.mpr numbered.ascending, fun n member => ?_⟩
  obtain ⟨row, there, rfl⟩ := List.mem_map.mp member
  exact numbered.given row there

end Table

namespace Store

/-- Whether all seven tables grow. -/
structure Grows (s later : Store) : Prop where
  users : s.users.Grows User.id later.users
  tokens : s.tokens.Grows Token.id later.tokens
  keys : s.keys.Grows PublicKey.id later.keys
  nodes : s.nodes.Grows Node.id later.nodes
  codes : s.codes.Grows Code.id later.codes
  contracts : s.contracts.Grows Contract.id later.contracts
  events : s.events.Grows Event.id later.events

theorem Grows.refl (s : Store) : s.Grows s := by
  constructor <;> exact Table.Grows.refl _ _

theorem Grows.trans {s later last : Store} (grows : s.Grows later) (more : later.Grows last) :
    s.Grows last where
  users := grows.users.trans more.users
  tokens := grows.tokens.trans more.tokens
  keys := grows.keys.trans more.keys
  nodes := grows.nodes.trans more.nodes
  codes := grows.codes.trans more.codes
  contracts := grows.contracts.trans more.contracts
  events := grows.events.trans more.events

theorem grows_removeRow (kind : RowKind) (id : Nat) (s : Store) : s.Grows (s.removeRow kind id).2 := by
  have same := Grows.refl s
  cases kind with
  | user =>
    exact { same with
      users := Table.grows_remove
      tokens := Table.grows_remove
      keys := Table.grows_remove }
  | node =>
    exact { same with
      nodes := Table.grows_remove
      contracts := Table.grows_remove
      events := Table.grows_remove }
  | token => exact { same with tokens := Table.grows_remove }
  | publicKey => exact { same with keys := Table.grows_remove }
  | code => exact { same with codes := Table.grows_remove }
  | contract => exact { same with contracts := Table.grows_remove }
  | event => exact { same with events := Table.grows_remove }

/-- With every change the tables grow. -/
theorem Change.grows {s after : Store} (change : Change s after) : s.Grows after := by
  have same := Grows.refl s
  cases change with
  | addUser => exact { same with users := Table.grows_add User.mk rfl }
  | @addToken user hash => exact { same with tokens := Table.grows_add (Token.mk · user hash) rfl }
  | @addKey user address =>
    exact { same with keys := Table.grows_add (PublicKey.mk · user address) rfl }
  | @addNode name url confirmedBlock =>
    exact { same with nodes := Table.grows_add (Node.mk · name url confirmedBlock) rfl }
  | @addCode hash code => exact { same with codes := Table.grows_add (Code.mk · hash code) rfl }
  | @addContract node codeHash address owner =>
    exact { same with contracts := Table.grows_add (Contract.mk · node codeHash address owner) rfl }
  | @addEvent node account kind body stamp =>
    exact { same with events := Table.grows_add (Event.mk · node account kind body stamp) rfl }
  | removeRow kind id => exact grows_removeRow kind id s
  | unlink user address => exact { same with keys := Table.grows_remove }

def nextId (kind : RowKind) (s : Store) : Nat :=
  match kind with
  | .user => s.users.nextId
  | .token => s.tokens.nextId
  | .publicKey => s.keys.nextId
  | .node => s.nodes.nextId
  | .code => s.codes.nextId
  | .contract => s.contracts.nextId
  | .event => s.events.nextId

theorem Grows.ids {s later : Store} (grows : s.Grows later) (kind : RowKind) :
    s.nextId kind ≤ later.nextId kind ∧
      ∀ id ∈ later.ids kind, id ∈ s.ids kind ∨ s.nextId kind ≤ id := by
  cases kind with
  | user => exact grows.users.ids
  | token => exact grows.tokens.ids
  | publicKey => exact grows.keys.ids
  | node => exact grows.nodes.ids
  | code => exact grows.codes.ids
  | contract => exact grows.contracts.ids
  | event => exact grows.events.ids

/-- An id that was given and is gone does not come back. -/
theorem Grows.not_mem_ids {s later : Store} (grows : s.Grows later) {kind : RowKind} {id : Nat}
    (given : id < s.nextId kind) (gone : id ∉ s.ids kind) : id ∉ later.ids kind := by
  intro member
  rcases (grows.ids kind).2 id member with old | new
  · exact gone old
  · omega

/-- The ids of a table ascend, and the next one is greater than all of them. -/
theorem Sound.ids {s : Store} (sound : s.Sound) (kind : RowKind) :
    (s.ids kind).Pairwise (· < ·) ∧ ∀ id ∈ s.ids kind, id < s.nextId kind := by
  cases kind with
  | user => exact sound.users.ids
  | token => exact sound.tokens.ids
  | publicKey => exact sound.keys.ids
  | node => exact sound.nodes.ids
  | code => exact sound.codes.ids
  | contract => exact sound.contracts.ids
  | event => exact sound.events.ids

end Store
end AddressBook
