import AddressBook.Bytes.Hex
import AddressBook.Json.Printer

namespace AddressBook.Config

inductive Literal where
  | plain (value : Json)
  | bytes (value : Bytes)
  | tuple (items : List Literal)
  | list (items : List Literal)
  | set (items : List Literal)
  | dict (pairs : List (Literal × Literal))

namespace Literal

mutual

def changeable? : Literal → Option String
  | .plain _ | .bytes _ => none
  | .tuple items => changeableItem? items
  | .list _ => some "list"
  | .set _ => some "set"
  | .dict _ => some "dict"

def changeableItem? : List Literal → Option String
  | [] => none
  | item :: rest => (changeable? item).or (changeableItem? rest)

end

mutual

/-- The kind of the first member of a set or key of a dictionary that can be changed, anywhere
inside of a value. -/
def badKey? : Literal → Option String
  | .plain _ | .bytes _ => none
  | .tuple items | .list items => badKeyOfItems? items
  | .set items => badMember? items
  | .dict pairs => badKeyOfPairs? pairs

def badKeyOfItems? : List Literal → Option String
  | [] => none
  | item :: rest => (badKey? item).or (badKeyOfItems? rest)

def badMember? : List Literal → Option String
  | [] => none
  | item :: rest => ((badKey? item).or (changeable? item)).or (badMember? rest)

def badKeyOfPairs? : List (Literal × Literal) → Option String
  | [] => none
  | (key, value) :: rest =>
    (((badKey? key).or (badKey? value)).or (changeable? key)).or (badKeyOfPairs? rest)

end

/-- Puts integers in ascending order; other values keep theirs. -/
def inOrder (items : List Json) : List Json :=
  let integers := items.filterMap fun item =>
    match item with
    | .int n => some n
    | _ => none
  if integers.length = items.length then
    (integers.mergeSort fun a b => decide (a ≤ b)).map .int
  else items

/-- The text under which a key is known: equal numbers and truth values have the same. -/
def keyText (key : Json) : String :=
  match key with
  | .bool value => if value then "1" else "0"
  | .float value => if value.isInteger then toString value.truncate else key.render
  | _ => key.render

def distinct (items : List Json) : List Json :=
  (items.foldl (fun kept item =>
    if kept.any fun other => keyText other == keyText item then kept else item :: kept) []).reverse

def fieldName (key : Json) : String :=
  match key with
  | .string text => text
  | _ => key.render

def putPair (pairs : List (Json × Json)) (key value : Json) : List (Json × Json) :=
  match pairs with
  | [] => [(key, value)]
  | (other, old) :: rest =>
    if keyText other == keyText key then (other, value) :: rest
    else (other, old) :: putPair rest key value

mutual

/-- A value as JSON: bytes in hexadecimal digits, every collection of items as an array. -/
def toJson : Literal → Json
  | .plain value => value
  | .bytes value => .string (Bytes.toHex value)
  | .tuple items | .list items => .array (itemsToJson items)
  | .set items => .array (inOrder (distinct (itemsToJson items)))
  | .dict pairs =>
    let pairs := (pairsToJson pairs).foldl (fun known (key, value) => putPair known key value) []
    .object (pairs.map fun (key, value) => (fieldName key, value))

def itemsToJson : List Literal → List Json
  | [] => []
  | item :: rest => toJson item :: itemsToJson rest

def pairsToJson : List (Literal × Literal) → List (Json × Json)
  | [] => []
  | (key, value) :: rest => (toJson key, toJson value) :: pairsToJson rest

end

end Literal
end AddressBook.Config
