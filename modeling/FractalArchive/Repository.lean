import FractalArchive.Database.Catalog
import FractalArchive.Record
import FractalArchive.Store.Error

/-!
# The repository

Records in a database: adding a draft, looking up an id, listing all records in the order of their
ids, and counting them.  A draft is checked before the database is touched.  A row whose name or
state is null or no text is an error wherever it is read, and the first such row ends a listing.
-/

namespace FractalArchive

/-- Why an operation of the repository fails. -/
inductive RepositoryError where
  /-- A text of the draft is too long. -/
  | excess (cause : Excess)
  /-- The store fails. -/
  | store (cause : StoreError)
  /-- A row of the table is no record. -/
  | invalidData (text : String)
  deriving DecidableEq, Repr

namespace RepositoryError

/-- What a message says of a cause. -/
def message : RepositoryError → String
  | .excess cause => cause.message
  | .store cause => cause.message
  | .invalidData text => "invalid persisted fractal data: " ++ text

/-- The messages of the causes below, the engine's own error being the last. -/
def sources : RepositoryError → List String
  | .excess cause => [cause.message]
  | .store cause => cause.message :: cause.sources
  | .invalidData _ => []

/-- An error of the database engine. -/
def ofSql (cause : SqlError) : RepositoryError := .store (.sql cause)

end RepositoryError

namespace Tuple

/-- The integer in the column `id`. -/
def readId (t : Tuple) : Except RepositoryError Int :=
  match t.id with
  | .integer n => .ok n
  | other => .error (.ofSql (.columnType other.kind 0 "id"))

/-- The text in a column; null is an error of its own. -/
def readText (column : Nat) (name : String) (id : Int) : Cell → Except RepositoryError String
  | .text s => .ok s
  | .null => .error (.invalidData s!"NULL fractals.{name} for id {id}")
  | .malformed octets =>
    match Utf8.decode octets with
    | .ok cs => .ok (String.ofList cs)
    | .error cause => .error (.ofSql (.malformedText column cause))
  | other => .error (.ofSql (.columnType other.kind column name))

/-- The record of a row; the columns are read in their order. -/
def record (t : Tuple) : Except RepositoryError Record :=
  match t.readId with
  | .error e => .error e
  | .ok id =>
    match readText 1 "name" id t.name with
    | .error e => .error e
    | .ok name =>
      match readText 2 "state" id t.state with
      | .error e => .error e
      | .ok state => .ok ⟨id, name, state⟩

/-- The records of rows, or the error of the first row that is no record. -/
def records : List Tuple → Except RepositoryError (List Record)
  | [] => .ok []
  | t :: rest =>
    match t.record with
    | .error e => .error e
    | .ok r => (records rest).map (r :: ·)

end Tuple

namespace Repository

/-- Adds a draft; the answer is its id. -/
def add (d : Draft) (c : Connection) : Except RepositoryError Int × Connection :=
  match d.check with
  | .error e => (.error (.excess e), c)
  | .ok _ =>
    match c.executeOnCatalog (Catalog.insert .null (.text d.name) (.text d.state)) with
    | (.ok id, c') => (.ok id, c')
    | (.error e, c') => (.error (.ofSql e), c')

/-- The record of an id. -/
def find? (id : Int) (c : Connection) : Except RepositoryError (Option Record) :=
  match c.query fun d => d.catalog.selectById id with
  | .error e => .error (.ofSql e)
  | .ok none => .ok none
  | .ok (some t) => t.record.map some

/-- All records in the order of their ids. -/
def list (c : Connection) : Except RepositoryError (List Record) :=
  match c.query fun d => d.catalog.select with
  | .error e => .error (.ofSql e)
  | .ok tuples => Tuple.records tuples

/-- The number of rows. -/
def count (c : Connection) : Except RepositoryError Nat :=
  match c.query fun d => d.catalog.count with
  | .error e => .error (.ofSql e)
  | .ok n => .ok n

end Repository

end FractalArchive
