import FractalArchive.Database.Migration
import FractalArchive.Disk.Database
import FractalArchive.Event

/-!
# Opening databases

Opening a database brings it up to date.  The opening reports its start, every migration, and
either its success or the error that it returns.

What the database engine answers on the way is left open (`Engine`): to the opening of a database
by its name or in memory, and to the script of the migration.
-/

namespace FractalArchive

/-- The database engine, as far as a store relies on it to be connected. -/
structure Engine where
  /-- Opens the database of a name. -/
  opening : String → Disk → Except SqlError (Handle × Disk)
  /-- Opens a new database in memory. -/
  openingInMemory : Except SqlError Unit
  /-- Opening changes no database. -/
  connection_of_opening : ∀ {name : String} {disk disk' : Disk} {handle : Handle},
    opening name disk = .ok (handle, disk') →
      ∀ other, disk'.connection other = disk.connection other
  /-- What the script of the migration makes of a catalog, unless it, or storing its version,
  fails. -/
  script : Catalog → Except SqlError Catalog

namespace Engine

/-- The engine on a disk on which nothing but the database itself keeps it from its work. -/
def standard : Engine where
  opening name disk := disk.openDatabase name
  openingInMemory := .ok ()
  connection_of_opening := Disk.connection_of_openDatabase
  script := Catalog.defineIfAbsent

/-- The migrations, with the script as the engine runs it. -/
def registry (engine : Engine) : List Migration :=
  Migration.registryOf engine.script

@[simp] theorem opening_standard (name : String) (disk : Disk) :
    standard.opening name disk = disk.openDatabase name := rfl

@[simp] theorem registry_standard : standard.registry = Migration.registry := rfl

end Engine

namespace Opening

/-- Brings an open database up to date; the events of the opening follow its start. -/
def bootstrap (engine : Engine) (mode : OpenMode) (c : Connection) :
    Except StoreError Unit × Connection × List Event :=
  match Migration.upgradeConnection engine.registry c with
  | (outcome, c', applied) =>
    let migrated := applied.map Event.migrationApplied
    match outcome with
    | .ok _ => (.ok (), c', .openStarted mode :: migrated ++ [.opened mode])
    | .error e => (.error e, c', .openStarted mode :: migrated ++ [.bootstrapFailed mode e])

/-- What opening a database comes to, with what the engine answers to it; the answer is the open
connection. -/
def openWith (engine : Engine) (mode : OpenMode) (answer : Except SqlError (Handle × Disk))
    (disk : Disk) : Except StoreError Connection × Disk × List Event :=
  match answer with
  | .error e => (.error (.sql e), disk, [.openStarted mode, .openFailed mode e])
  | .ok (h, disk) =>
    match bootstrap engine mode (disk.connection h) with
    | (.ok _, c, events) => (.ok c, disk.store h c, events)
    | (.error e, c, events) => (.error e, disk.store h c, events)

/-- Opens the database in a file. -/
def fileWith (engine : Engine) (name : String) (disk : Disk) :
    Except StoreError Connection × Disk × List Event :=
  openWith engine .file (engine.opening name disk) disk

/-- Opens a new database in memory. -/
def memoryWith (engine : Engine) (disk : Disk) :
    Except StoreError Connection × Disk × List Event :=
  openWith engine .memory (engine.openingInMemory.map fun _ => (.own false, disk)) disk

/-- Opens the database in a file with the standard engine. -/
def file (name : String) (disk : Disk) : Except StoreError Connection × Disk × List Event :=
  fileWith .standard name disk

/-- Opens a new database in memory with the standard engine. -/
def memory (disk : Disk) : Except StoreError Connection × Disk × List Event :=
  memoryWith .standard disk

end Opening

end FractalArchive
