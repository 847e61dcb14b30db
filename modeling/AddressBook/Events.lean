import AddressBook.Moment.UnixTime
import AddressBook.Schema
import AddressBook.Session

namespace AddressBook.Events

def windowSize : Nat := 25

/-- Whether an event comes before another one in the listing: it has the greater stamp, or the same
stamp and the greater id. -/
def isNewer (a b : Event) : Bool :=
  b.stamp.isBelow a.stamp || (!a.stamp.isBelow b.stamp && b.id ≤ a.id)

/-- The most recent events of an account. -/
def window (account : Bytes) (store : Store) : List Event :=
  ((store.eventsOf account).mergeSort isNewer).take windowSize

/-- The body of an event and its moment, unless its stamp tells none. -/
structure Entry where
  body : String
  moment : Option Moment
  deriving DecidableEq, Repr

def entry (event : Event) : Except Failure Entry :=
  match event.stamp.read with
  | .error e => .error (Failure.ofDateTimeError e)
  | .ok moment => .ok ⟨event.body, moment⟩

def list (account : Bytes) : Session (List Entry) := do
  let events ← Session.query (window account)
  Session.ofExcept (events.mapM entry)

/-- The failure of asking for the time of an event whose stamp tells none. -/
def noMoment : Failure := .fault .attribute "'NoneType' object has no attribute 'tzinfo'"

def shown (body : Json) (seconds : Int) : Json :=
  .object [("body", body), ("timestamp", .int seconds)]

/-- What is shown of an event: its body, and its time in seconds. -/
structure Item where
  body : String
  seconds : Int
  deriving DecidableEq, Repr

def Item.toJson (item : Item) : Json := shown (.string item.body) item.seconds

def Entry.item (e : Entry) : Except Failure Item :=
  match e.moment with
  | some moment => .ok ⟨e.body, moment.unixSeconds⟩
  | none => .error noMoment

def readItem (value : Json) : Except (List FieldError) Item :=
  (Schema.both (Schema.field "body" Schema.text value)
    (Schema.field "timestamp" Schema.integer value)).map fun (body, seconds) => ⟨body, seconds⟩

end AddressBook.Events
