import FractalArchive.Database.Catalog
import FractalArchive.Store.Error

/-!
# Migrations

A registry is a list of scripts with versions that increase.  A database stores the version of the
last script applied to it; bringing it up to date applies those of a greater version in their order
and stores the version of each.  All of them take effect or none (`Migration.upgrade`).  A version
is an unsigned number of 32 bits, of which a database stores only the lower half
(`Database.versionOf`).
-/

namespace FractalArchive

/-- A script that brings the catalog to a version. -/
structure Migration where
  version : UInt32
  script : Catalog → Except SqlError Catalog

namespace Migration

/-- The version after all migrations. -/
def latest (registry : List Migration) : Nat :=
  match registry.getLast? with
  | some m => m.version.toNat
  | none => 0

/-- What applying migrations comes to: the new database or the error that undid all, and the
versions reported on the way. -/
structure Report where
  outcome : Except SqlError Database
  applied : List Nat

/-- Applies the migrations of a version above the current one, in their order. -/
def applyPending (current : Nat) : List Migration → Database → Report
  | [], d => ⟨.ok d, []⟩
  | m :: rest, d =>
    if m.version.toNat ≤ current then applyPending current rest d
    else match m.script d.catalog with
      | .error e => ⟨.error e, []⟩
      | .ok catalog =>
        let r := applyPending current rest ⟨Database.versionOf m.version.toNat, catalog⟩
        ⟨r.outcome, m.version.toNat :: r.applied⟩

/-- The stored version as an unsigned number. -/
def storedVersion (d : Database) : Except SqlError Nat :=
  if d.userVersion < 0 then .error (.integerOutOfRange d.userVersion 0)
  else .ok d.userVersion.toNat

/-- Brings a database up to date.  The answer holds the database afterwards, which is the old one
after an error, and the versions reported on the way. -/
def upgrade (registry : List Migration) (d : Database) :
    Except StoreError Unit × Database × List Nat :=
  match storedVersion d with
  | .error e => (.error (.sql e), d, [])
  | .ok current =>
    if latest registry < current then (.error (.newerSchema current (latest registry)), d, [])
    else if current = latest registry then (.ok (), d, [])
    else match applyPending current registry d with
      | ⟨.ok d', applied⟩ => (.ok (), d', applied)
      | ⟨.error e, applied⟩ => (.error (.sql e), d, applied)

/-- Brings the database of a connection up to date. -/
def upgradeConnection (registry : List Migration) (c : Connection) :
    Except StoreError Unit × Connection × List Nat :=
  match c.contents with
  | .octets _ => (.error (.sql .notADatabase), c, [])
  | .unreadable cause => (.error (.sql cause), c, [])
  | .database d =>
    match upgrade registry d with
    | (outcome, d', applied) =>
      if c.readOnly then
        match outcome, applied with
        | outcome, [] => (outcome, c, [])
        | _, _ :: _ => (.error (.sql .readOnly), c, [])
      else (outcome, { c with contents := .database d' }, applied)

/-- The one migration of the archive, with what its script makes of a catalog. -/
def registryOf (script : Catalog → Except SqlError Catalog) : List Migration :=
  [⟨1, script⟩]

/-- The migrations of the archive: the first makes the table of records and accepts one that is
there already. -/
def registry : List Migration :=
  registryOf Catalog.defineIfAbsent

/-- The version that the archive works with. -/
def latestVersion : Nat := latest registry

end Migration

end FractalArchive
