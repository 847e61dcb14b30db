import AddressBook.Failure
import AddressBook.Log
import AddressBook.Store

namespace AddressBook

/-- Places in the work at which a failure can be made to happen. -/
inductive FaultPoint where
  | keyList
  | keyItem
  | keyDelete
  | keyDeleteLog
  | afterKeyRemoval
  | eventList
  | eventItem
  | authentication
  | databasePing
  /-- Every statement that the storage executes. -/
  | statement
  /-- The end of every transaction, where its changes are committed. -/
  | commit
  deriving DecidableEq, Repr

/-- A failure that happens at a place. -/
structure PlannedFault where
  point : FaultPoint
  failure : Failure

/-- What a session runs under. -/
structure Scene where
  debug : Bool
  format : Int
  fault : Option PlannedFault

/-- What a session works on. -/
structure World where
  store : Store
  log : List LogRecord

/-- A step of work on the tables, which may fail and may write to the log. What it did before it
failed stays done, unless it runs as one transaction. -/
abbrev Session := ReaderT Scene (ExceptT Failure (StateM World))

namespace Session

def run (scene : Scene) (world : World) (session : Session α) : Except Failure α × World :=
  session scene world

def fail (failure : Failure) : Session α := throw failure

def ofExcept : Except Failure α → Session α
  | .ok value => pure value
  | .error failure => fail failure

/-- Fails if a failure is planned here. -/
def passes (point : FaultPoint) : Session Unit := do
  match (← read).fault with
  | some fault => if fault.point = point then fail fault.failure
  | none => pure ()

/-- Reads the tables with one statement. -/
def query (f : Store → α) : Session α := do
  passes .statement
  return f (← get).store

/-- Changes the tables with one statement; a refused change leaves them as they were. -/
def execute (change : Store → Except Failure (α × Store)) : Session α := do
  passes .statement
  match change (← get).store with
  | .error failure => fail failure
  | .ok (value, store) =>
    modify fun world => { world with store }
    return value

def log (record : LogRecord) : Session Unit :=
  modify fun world => { world with log := world.log ++ [record] }

/-- Commits what a session has changed, once it has come out well. -/
def committing (session : Session α) : Session α := do
  let value ← session
  passes .commit
  return value

/-- Runs a session as one transaction: if it fails, or cannot be committed, the tables are as they were
before. What it logged stays logged. -/
def atomically (session : Session α) : Session α := fun scene world =>
  match committing session scene world with
  | (.ok value, after) => (.ok value, after)
  | (.error failure, after) => (.error failure, { after with store := world.store })

/-- Runs a session and continues with what the handler makes of its failure. -/
def orElse (session : Session α) (handler : Failure → Session α) : Session α :=
  tryCatch session handler

end Session
end AddressBook
