import FractalArchive.Store.Opening
import FractalArchive.Work

/-!
# The store

A store is connected to a location, gives sessions to pieces of work, and is closed.  On a file,
every session has a connection of its own, and a panic ends its own session only.  In memory, all
sessions share one connection; a panic poisons it, and from then on no work is run.
-/

namespace FractalArchive

/-- What a store keeps between sessions. -/
inductive Backend where
  /-- The name of the database file. -/
  | file (path : String)
  /-- The database itself, and whether a session has panicked. -/
  | memory (contents : Contents) (poisoned : Bool)
  deriving DecidableEq

/-- A connected store. -/
structure Store where
  location : Location
  backend : Backend
  deriving DecidableEq

/-- What a session leaves. -/
structure Session (ε α : Type) where
  outcome : Outcome ε α
  store : Store
  disk : Disk
  events : List Event

/-- Whether work ended in a panic. -/
def Outcome.isPanic {ε α : Type} : Outcome ε α → Bool
  | .returned _ => false
  | .panicked _ => true

namespace Store

/-- Connects to the location that a connection string names, with any engine. -/
def connectWith (engine : Engine) (url : String) (disk : Disk) :
    Except StoreError Store × Disk × List Event :=
  match Location.parse url with
  | .error e => (.error (.unsupportedUrl e.url), disk, [])
  | .ok .memory =>
    match Opening.memoryWith engine disk with
    | (.ok c, disk, events) =>
      (.ok ⟨.memory, .memory c.contents false⟩, disk, events ++ [.storeConnected .memory])
    | (.error e, disk, events) => (.error e, disk, events)
  | .ok (.file path) =>
    match Opening.fileWith engine path disk with
    | (.ok _, disk, events) =>
      (.ok ⟨.file path, .file path⟩, disk, events ++ [.storeConnected (.file path)])
    | (.error e, disk, events) => (.error e, disk, events)

/-- Connects to the location that a connection string names. -/
def connect (url : String) (disk : Disk) : Except StoreError Store × Disk × List Event :=
  connectWith .standard url disk

/-- Runs a piece of work in a session; `lift` makes the store's own errors errors of the work. -/
def withSession {ε α : Type} (lift : StoreError → ε) (work : Work ε α) (s : Store) (disk : Disk) :
    Session ε α :=
  match s.backend with
  | .file path =>
    match disk.openDatabase path with
    | .error e => ⟨.returned (.error (lift (.sql e))), s, disk, [.sessionFailed e]⟩
    | .ok (h, disk) =>
      let w := work (disk.connection h)
      ⟨w.outcome, s, disk.store h w.connection, .sessionOpened :: w.events⟩
  | .memory contents poisoned =>
    if poisoned then ⟨.returned (.error (lift .poisoned)), s, disk, []⟩
    else
      let w := work ⟨contents, false⟩
      ⟨w.outcome, { s with backend := .memory w.connection.contents w.outcome.isPanic }, disk,
        w.events⟩

/-- The end of the store with this result, and its report. -/
def reportClosing (s : Store) (result : Except StoreError Unit) :
    Except StoreError Unit × List Event :=
  match result with
  | .ok _ => (.ok (), [.storeClosed s.location])
  | .error cause => (.error cause, [.storeNotClosed s.location cause])

/-- Closes the store; `engine` is what the engine answers to closing the connection in memory.  A
poisoned connection is given up before the report. -/
def closeWith (engine : Except SqlError Unit) (s : Store) : Except StoreError Unit × List Event :=
  match s.backend with
  | .file _ => s.reportClosing (.ok ())
  | .memory _ poisoned =>
    if poisoned then (.error .poisoned, []) else s.reportClosing (engine.mapError .sql)

/-- Closes the store, whose connection the engine closes without an error. -/
def close (s : Store) : Except StoreError Unit × List Event :=
  s.closeWith (.ok ())

end Store

end FractalArchive
