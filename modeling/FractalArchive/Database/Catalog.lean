import FractalArchive.Database.Keyed

/-!
# The catalog

What a database holds: the thing that the name `fractals` denotes, and the few other names that
may exist beside it.  Statements on `fractals` are functions of the catalog: queries give tuples
(`select`, `selectById`, `count`), and insertion, removal and the statements that define or drop
names give the new catalog.
-/

namespace FractalArchive

/-- The values of the columns `id`, `name` and `state` in a row. -/
structure Tuple where
  id : Cell
  name : Cell
  state : Cell
  deriving DecidableEq, Repr

/-- What the name `fractals` denotes. -/
inductive Relation where
  /-- Nothing. -/
  | absent
  /-- The table of records. -/
  | table (t : Table)
  /-- A table with a key column of its own. -/
  | keyed (t : KeyedTable)
  /-- A table without a column `state`, which stays empty. -/
  | stateless
  /-- A view of one row. -/
  | view
  /-- An index on another table. -/
  | index
  deriving DecidableEq

/-- The contents of a database, its version aside. -/
structure Catalog where
  fractals : Relation := .absent
  /-- Whether the table `other` exists. -/
  other : Bool := false
  /-- Whether the engine's own table of sequences exists. -/
  sequences : Bool := false
  deriving DecidableEq

namespace Catalog

/-! ### Queries -/

/-- The columns of every query, as the statement names them. -/
def selection : String := "SELECT id, name, state FROM fractals"

/-- The query of all rows in the order of their ids. -/
def selectAllSql : String := selection ++ " ORDER BY id ASC;"

/-- The query of one row. -/
def selectByIdSql : String := selection ++ " WHERE id = ?1;"

/-- Where the column `state` stands in the queries. -/
def stateOffset : Nat := 17

/-- The row of the view. -/
def viewTuple : Tuple := ⟨.integer 7, .text "seen", .text "view"⟩

/-- The values of a row of the table of records. -/
def tupleOf (r : Row) : Tuple :=
  ⟨.integer r.id, r.name, r.state⟩

/-- The values of a row with a key. -/
def keyedTuple (r : KeyedRow) : Tuple :=
  ⟨r.id, r.name, r.state⟩

/-- The error of a statement on a table that does not exist. -/
def missing : SqlError := .noSuchTable "fractals"

/-- All rows in the order of their ids. -/
def select (c : Catalog) : Except SqlError (List Tuple) :=
  match c.fractals with
  | .absent | .index => .error missing
  | .table t => .ok (t.rows.map tupleOf)
  | .keyed t => .ok (t.inOrder.map keyedTuple)
  | .stateless => .error (.noSuchColumn "state" selectAllSql stateOffset)
  | .view => .ok [viewTuple]

/-- The row of an id. -/
def selectById (c : Catalog) (id : Int) : Except SqlError (Option Tuple) :=
  match c.fractals with
  | .absent | .index => .error missing
  | .table t => .ok ((t.find? id).map tupleOf)
  | .keyed t => .ok ((t.find? id).map keyedTuple)
  | .stateless => .error (.noSuchColumn "state" selectByIdSql stateOffset)
  | .view => .ok (if id = 7 then some viewTuple else none)

/-- The number of rows. -/
def count (c : Catalog) : Except SqlError Nat :=
  match c.fractals with
  | .absent | .index => .error missing
  | .table t => .ok t.rows.length
  | .keyed t => .ok t.rows.length
  | .stateless => .ok 0
  | .view => .ok 1

/-! ### Changes of rows -/

/-- A new row; its number or id is the answer. -/
def insert (id name state : Cell) (c : Catalog) : Except SqlError (Int × Catalog) :=
  match c.fractals with
  | .absent | .index => .error missing
  | .table t => (t.add id name state).map fun (n, t') => (n, { c with fractals := .table t' })
  | .keyed t => (t.add id name state).map fun (n, t') => (n, { c with fractals := .keyed t' })
  | .stateless => .error (.noColumnNamed "fractals" "state")
  | .view => .error (.viewNotModifiable "fractals")

/-- The removal of an id; the number of rows removed is the answer. -/
def delete (id : Int) (c : Catalog) : Except SqlError (Nat × Catalog) :=
  match c.fractals with
  | .absent | .index => .error missing
  | .table t => .ok (t.occurrences id, { c with fractals := .table (t.remove id) })
  | .keyed t => .ok (t.occurrences id, { c with fractals := .keyed (t.remove id) })
  | .stateless => .ok (0, c)
  | .view => .error (.viewNotModifiable "fractals")

/-! ### Definitions -/

/-- Where the name stands in `CREATE TABLE`. -/
def createTableOffset : Nat := 13

/-- Where the name stands in `CREATE VIEW`. -/
def createViewOffset : Nat := 12

/-- Whether the name `fractals` may be given to a new table or view, by this statement. -/
def vacant (c : Catalog) (sql : String) (offset : Nat) : Except SqlError Unit :=
  match c.fractals with
  | .absent => .ok ()
  | .index => .error (.indexNamed "fractals")
  | .view => .error (.alreadyExists .view "fractals" sql offset)
  | _ => .error (.alreadyExists .table "fractals" sql offset)

/-- Gives the name `fractals` to something new. -/
def define (new : Relation) (sql : String) (offset : Nat) (c : Catalog) : Except SqlError Catalog :=
  (c.vacant sql offset).map fun _ => { c with fractals := new }

/-- Makes the table of records unless a table or view of that name exists. -/
def defineIfAbsent (c : Catalog) : Except SqlError Catalog :=
  match c.fractals with
  | .absent => .ok { c with fractals := .table {} }
  | .index => .error (.indexNamed "fractals")
  | _ => .ok c

/-- Makes the table `other` and an index `fractals` on it; the table stays when the index fails. -/
def defineIndex (sql : String) (c : Catalog) : Except SqlError Unit × Catalog :=
  if c.other then (.error (.alreadyExists .table "other" sql createTableOffset), c)
  else
    let c := { c with other := true }
    match c.fractals with
    | .absent => (.ok (), { c with fractals := .index })
    | .index => (.error (.alreadyExists .index "fractals" sql createTableOffset), c)
    | _ => (.error (.tableNamed "fractals"), c)

/-- Drops the table of the name `fractals`. -/
def drop (c : Catalog) : Except SqlError Catalog :=
  match c.fractals with
  | .absent | .index => .error missing
  | .view => .error (.dropOfView "fractals")
  | _ => .ok { c with fractals := .absent }

/-- The names in the schema with their kinds, in the order of the kinds and then of the names. -/
def schema (c : Catalog) : List (SchemaKind × String) :=
  let automatic := match c.fractals with
    | .keyed _ => true
    | .table t => t.constraints.uniqueName
    | _ => false
  let indices := match c.fractals with
    | .index => [(SchemaKind.index, "fractals")]
    | _ => if automatic then [(.index, "sqlite_autoindex_fractals_1")] else []
  let tables := match c.fractals with
    | .table _ | .keyed _ | .stateless => [(SchemaKind.table, "fractals")]
    | _ => []
  let others := if c.other then [(SchemaKind.table, "other")] else []
  let sequences := if c.sequences then [(SchemaKind.table, "sqlite_sequence")] else []
  let views := match c.fractals with
    | .view => [(SchemaKind.view, "fractals")]
    | _ => []
  indices ++ tables ++ others ++ sequences ++ views

end Catalog

/-- A database: its version, a signed 32-bit integer, and what it holds. -/
structure Database where
  version : Int32 := 0
  catalog : Catalog := {}
  deriving DecidableEq

namespace Database

/-- The version as a number. -/
def userVersion (d : Database) : Int := d.version.toInt

/-- What the engine stores where a number is set as the version: one that is out of range counts as
zero. -/
def versionOf (n : Int) : Int32 :=
  if -2147483648 ≤ n ∧ n ≤ 2147483647 then Int32.ofInt n else 0

theorem toInt_versionOf {n : Int} (low : -2147483648 ≤ n) (high : n ≤ 2147483647) :
    (versionOf n).toInt = n := by
  rw [versionOf, if_pos ⟨low, high⟩]
  exact Int32.toInt_ofInt_of_le low (Int.lt_add_one_of_le high)

/-- A database is its version and its catalog. -/
theorem eq_of_userVersion {d d' : Database} (version : d.userVersion = d'.userVersion)
    (catalog : d.catalog = d'.catalog) : d = d' := by
  obtain ⟨_, _⟩ := d
  obtain ⟨_, _⟩ := d'
  cases catalog
  cases Int32.toInt_inj.mp version
  rfl

end Database

/-- What a file holds: a database, or other octets. -/
inductive Contents where
  | database (d : Database)
  | octets (octets : Octets)
  /-- What cannot be read, for a cause that the engine gives. -/
  | unreadable (cause : SqlError)
  deriving DecidableEq

/-- An empty database. -/
def Contents.empty : Contents := .database {}

/-- A connection to a database. -/
structure Connection where
  contents : Contents
  /-- Whether changes are refused. -/
  readOnly : Bool := false
  deriving DecidableEq

namespace Connection

/-- Runs a query. -/
def query {α : Type} (c : Connection) (read : Database → Except SqlError α) : Except SqlError α :=
  match c.contents with
  | .database d => read d
  | .octets _ => .error .notADatabase
  | .unreadable cause => .error cause

/-- Runs a statement that changes the database; a failure changes nothing. -/
def execute {α : Type} (c : Connection) (change : Database → Except SqlError (α × Database)) :
    Except SqlError α × Connection :=
  match c.contents with
  | .octets _ => (.error .notADatabase, c)
  | .unreadable cause => (.error cause, c)
  | .database d =>
    match change d with
    | .error e => (.error (if c.readOnly && !e.inPreparation then .readOnly else e), c)
    | .ok (a, d') =>
      if c.readOnly then (.error .readOnly, c) else (.ok a, { c with contents := .database d' })

/-- Runs a statement that changes the catalog. -/
def executeOnCatalog {α : Type} (c : Connection)
    (change : Catalog → Except SqlError (α × Catalog)) : Except SqlError α × Connection :=
  c.execute fun d => (change d.catalog).map fun (a, catalog) => (a, { d with catalog })

end Connection

end FractalArchive
