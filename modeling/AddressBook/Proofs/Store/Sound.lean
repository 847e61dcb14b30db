import AddressBook.Proofs.Outcome
import AddressBook.Proofs.Store.Table
import AddressBook.Store.Insert
import AddressBook.Store.Remove

namespace AddressBook.Store

/-- What is required of the tables. -/
structure Sound (s : Store) : Prop where
  users : s.users.Numbered User.id
  tokens : s.tokens.Numbered Token.id
  keys : s.keys.Numbered PublicKey.id
  nodes : s.nodes.Numbered Node.id
  codes : s.codes.Numbered Code.id
  contracts : s.contracts.Numbered Contract.id
  events : s.events.Numbered Event.id
  tokenHash : s.tokens.Unique Token.hash
  keyOfUser : s.keys.Unique fun row => (row.user, row.address)
  nodeName : s.nodes.Unique Node.name
  codeHash : s.codes.Unique Code.hash
  contractOfNode : s.contracts.Unique fun row => (row.node, row.address)
  tokenUser : s.tokens.Refers Token.user User.id s.users
  keyUser : s.keys.Refers PublicKey.user User.id s.users
  contractNode : s.contracts.Refers Contract.node Node.id s.nodes
  eventNode : s.events.Refers Event.node Node.id s.nodes

/-- The ways in which the tables change. -/
inductive Change (s : Store) : Store → Prop
  | addUser : Change s s.insertUser.2
  | addToken {user : Nat} {hash : String} (new : ∀ row ∈ s.tokens.rows, row.hash ≠ hash)
      (known : ∃ row ∈ s.users.rows, row.id = user) :
      Change s { s with tokens := (s.tokens.add fun id => ⟨id, user, hash⟩).2 }
  | addKey {user : Nat} {address : Bytes}
      (new : ∀ row ∈ s.keys.rows, (row.user, row.address) ≠ (user, address))
      (known : ∃ row ∈ s.users.rows, row.id = user) :
      Change s { s with keys := (s.keys.add fun id => ⟨id, user, address⟩).2 }
  | addNode {name url : String} {confirmedBlock : Int} (new : ∀ row ∈ s.nodes.rows, row.name ≠ name) :
      Change s { s with nodes := (s.nodes.add fun id => ⟨id, name, url, confirmedBlock⟩).2 }
  | addCode {hash code : Bytes} (new : ∀ row ∈ s.codes.rows, row.hash ≠ hash) :
      Change s { s with codes := (s.codes.add fun id => ⟨id, hash, code⟩).2 }
  | addContract {node : Nat} {codeHash address : Bytes} {owner : Option Bytes}
      (new : ∀ row ∈ s.contracts.rows, (row.node, row.address) ≠ (node, address))
      (known : ∃ row ∈ s.nodes.rows, row.id = node) :
      Change s { s with
        contracts := (s.contracts.add fun id => ⟨id, node, codeHash, address, owner⟩).2 }
  | addEvent {node : Nat} {account : Bytes} {kind body : String} {stamp : Stamp}
      (known : ∃ row ∈ s.nodes.rows, row.id = node) :
      Change s { s with
        events := (s.events.add fun id => ⟨id, node, account, kind, body, stamp⟩).2 }
  | removeRow (kind : RowKind) (id : Nat) : Change s (s.removeRow kind id).2
  | unlink (user : Int) (address : Bytes) : Change s (s.unlink user address).2

theorem sound_empty : Sound empty := by
  constructor
  case tokenHash | keyOfUser | nodeName | codeHash | contractOfNode => exact Table.unique_empty _
  case tokenUser | keyUser | contractNode | eventNode => exact Table.refers_empty _ _ _
  all_goals exact Table.numbered_empty _

theorem Sound.removeRow {s : Store} (sound : Sound s) (kind : RowKind) (id : Nat) :
    Sound (s.removeRow kind id).2 := by
  cases kind with
  | user =>
    exact { sound with
      users := sound.users.remove _
      tokens := sound.tokens.remove _
      keys := sound.keys.remove _
      tokenHash := sound.tokenHash.remove _
      keyOfUser := sound.keyOfUser.remove _
      tokenUser := sound.tokenUser.cascade id
      keyUser := sound.keyUser.cascade id }
  | node =>
    exact { sound with
      nodes := sound.nodes.remove _
      contracts := sound.contracts.remove _
      events := sound.events.remove _
      nodeName := sound.nodeName.remove _
      contractOfNode := sound.contractOfNode.remove _
      contractNode := sound.contractNode.cascade id
      eventNode := sound.eventNode.cascade id }
  | token =>
    exact { sound with
      tokens := sound.tokens.remove _
      tokenHash := sound.tokenHash.remove _
      tokenUser := sound.tokenUser.remove _ }
  | publicKey =>
    exact { sound with
      keys := sound.keys.remove _
      keyOfUser := sound.keyOfUser.remove _
      keyUser := sound.keyUser.remove _ }
  | code =>
    exact { sound with
      codes := sound.codes.remove _
      codeHash := sound.codeHash.remove _ }
  | contract =>
    exact { sound with
      contracts := sound.contracts.remove _
      contractOfNode := sound.contractOfNode.remove _
      contractNode := sound.contractNode.remove _ }
  | event =>
    exact { sound with
      events := sound.events.remove _
      eventNode := sound.eventNode.remove _ }

/-- No change breaks what is required of the tables. -/
theorem Change.sound {s after : Store} (change : Change s after) (sound : Sound s) : Sound after := by
  cases change with
  | addUser =>
    exact { sound with
      users := sound.users.add User.mk rfl
      tokenUser := sound.tokenUser.add_target User.mk
      keyUser := sound.keyUser.add_target User.mk }
  | @addToken user hash new known =>
    let make (id : Nat) : Token := ⟨id, user, hash⟩
    exact { sound with
      tokens := sound.tokens.add make rfl
      tokenHash := sound.tokenHash.add make new
      tokenUser := sound.tokenUser.add make known }
  | @addKey user address new known =>
    let make (id : Nat) : PublicKey := ⟨id, user, address⟩
    exact { sound with
      keys := sound.keys.add make rfl
      keyOfUser := sound.keyOfUser.add make new
      keyUser := sound.keyUser.add make known }
  | @addNode name url confirmedBlock new =>
    let make (id : Nat) : Node := ⟨id, name, url, confirmedBlock⟩
    exact { sound with
      nodes := sound.nodes.add make rfl
      nodeName := sound.nodeName.add make new
      contractNode := sound.contractNode.add_target make
      eventNode := sound.eventNode.add_target make }
  | @addCode hash code new =>
    let make (id : Nat) : Code := ⟨id, hash, code⟩
    exact { sound with
      codes := sound.codes.add make rfl
      codeHash := sound.codeHash.add make new }
  | @addContract node codeHash address owner new known =>
    let make (id : Nat) : Contract := ⟨id, node, codeHash, address, owner⟩
    exact { sound with
      contracts := sound.contracts.add make rfl
      contractOfNode := sound.contractOfNode.add make new
      contractNode := sound.contractNode.add make known }
  | @addEvent node account kind body stamp known =>
    let make (id : Nat) : Event := ⟨id, node, account, kind, body, stamp⟩
    exact { sound with
      events := sound.events.add make rfl
      eventNode := sound.eventNode.add make known }
  | removeRow kind id => exact sound.removeRow kind id
  | unlink user address =>
    exact { sound with
      keys := sound.keys.remove _
      keyOfUser := sound.keyOfUser.remove _
      keyUser := sound.keyUser.remove _ }

theorem different_of_checkNew {columns : String} {rows : List α} {same : α → Bool} {u : Unit}
    (h : checkNew columns rows same = .ok u) : ∀ row ∈ rows, same row = false := by
  unfold checkNew at h
  split at h
  next => cases h
  next new =>
    intro row member
    exact Bool.eq_false_iff.mpr fun taken => new (List.any_eq_true.mpr ⟨row, member, taken⟩)

theorem exists_of_referent {rows : List α} {id : α → Nat} {n : Int} {m : Nat}
    (h : referent rows id n = .ok m) : (m : Int) = n ∧ ∃ row ∈ rows, id row = m := by
  unfold referent at h
  split at h
  next row found =>
    cases h
    have same := List.find?_some found
    exact ⟨eq_of_beq same, row, List.mem_of_find?_eq_some found, rfl⟩
  next => cases h

theorem change_of_insertToken {s after : Store} {user : Option Int} {hash : Option String} {id : Nat}
    (h : insertToken user hash s = .ok (id, after)) : Change s after := by
  unfold insertToken at h
  obtain ⟨hash, _, h⟩ := exists_of_bind_eq_ok h
  obtain ⟨n, _, h⟩ := exists_of_bind_eq_ok h
  obtain ⟨_, _, h⟩ := exists_of_bind_eq_ok h
  obtain ⟨_, new, h⟩ := exists_of_bind_eq_ok h
  obtain ⟨user, known, h⟩ := exists_of_bind_eq_ok h
  cases h
  refine .addToken ?_ (exists_of_referent known).2
  intro row member same
  simpa [same] using different_of_checkNew new row member

theorem change_of_insertKey {s after : Store} {user : Option Int} {address : Option Bytes} {id : Nat}
    (h : insertKey user address s = .ok (id, after)) : Change s after := by
  unfold insertKey at h
  obtain ⟨address, _, h⟩ := exists_of_bind_eq_ok h
  obtain ⟨n, _, h⟩ := exists_of_bind_eq_ok h
  obtain ⟨_, _, h⟩ := exists_of_bind_eq_ok h
  obtain ⟨_, new, h⟩ := exists_of_bind_eq_ok h
  obtain ⟨user, known, h⟩ := exists_of_bind_eq_ok h
  cases h
  obtain ⟨value, exists_user⟩ := exists_of_referent known
  refine .addKey ?_ exists_user
  intro row member same
  obtain ⟨sameUser, sameAddress⟩ := Prod.mk.inj same
  simpa [sameUser, sameAddress, value] using different_of_checkNew new row member

theorem change_of_insertNode {s after : Store} {name url : Option String} {confirmedBlock : Option Int}
    {id : Nat} (h : insertNode name url confirmedBlock s = .ok (id, after)) : Change s after := by
  unfold insertNode at h
  obtain ⟨name, _, h⟩ := exists_of_bind_eq_ok h
  obtain ⟨url, _, h⟩ := exists_of_bind_eq_ok h
  obtain ⟨confirmedBlock, _, h⟩ := exists_of_bind_eq_ok h
  obtain ⟨_, _, h⟩ := exists_of_bind_eq_ok h
  obtain ⟨_, new, h⟩ := exists_of_bind_eq_ok h
  cases h
  refine .addNode ?_
  intro row member same
  simpa [same] using different_of_checkNew new row member

theorem change_of_insertCode {s after : Store} {hash code : Option Bytes} {id : Nat}
    (h : insertCode hash code s = .ok (id, after)) : Change s after := by
  unfold insertCode at h
  obtain ⟨hash, _, h⟩ := exists_of_bind_eq_ok h
  obtain ⟨code, _, h⟩ := exists_of_bind_eq_ok h
  obtain ⟨_, new, h⟩ := exists_of_bind_eq_ok h
  cases h
  refine .addCode ?_
  intro row member same
  simpa [same] using different_of_checkNew new row member

theorem change_of_insertContract {s after : Store} {node : Option Int}
    {codeHash address owner : Option Bytes} {id : Nat}
    (h : insertContract node codeHash address owner s = .ok (id, after)) : Change s after := by
  unfold insertContract at h
  obtain ⟨codeHash, _, h⟩ := exists_of_bind_eq_ok h
  obtain ⟨address, _, h⟩ := exists_of_bind_eq_ok h
  obtain ⟨n, _, h⟩ := exists_of_bind_eq_ok h
  obtain ⟨_, _, h⟩ := exists_of_bind_eq_ok h
  obtain ⟨_, new, h⟩ := exists_of_bind_eq_ok h
  obtain ⟨node, known, h⟩ := exists_of_bind_eq_ok h
  cases h
  obtain ⟨value, exists_node⟩ := exists_of_referent known
  refine .addContract ?_ exists_node
  intro row member same
  obtain ⟨sameNode, sameAddress⟩ := Prod.mk.inj same
  simpa [sameNode, sameAddress, value] using different_of_checkNew new row member

theorem change_of_insertEvent {s after : Store} {node : Option Int} {account : Option Bytes}
    {kind body : Option String} {stamp : Option Stamp} {id : Nat}
    (h : insertEvent node account kind body stamp s = .ok (id, after)) : Change s after := by
  unfold insertEvent at h
  obtain ⟨account, _, h⟩ := exists_of_bind_eq_ok h
  obtain ⟨kind, _, h⟩ := exists_of_bind_eq_ok h
  obtain ⟨body, _, h⟩ := exists_of_bind_eq_ok h
  obtain ⟨stamp, _, h⟩ := exists_of_bind_eq_ok h
  obtain ⟨n, _, h⟩ := exists_of_bind_eq_ok h
  obtain ⟨_, _, h⟩ := exists_of_bind_eq_ok h
  obtain ⟨node, known, h⟩ := exists_of_bind_eq_ok h
  cases h
  exact .addEvent (exists_of_referent known).2

end AddressBook.Store
