import FractalArchive.Database.Cell

/-!
# Database errors

Why a statement, or the opening of a database, fails, with the text of each cause.  A cause that
the database engine itself reports also has a numbered reason (`SqlError.reason`).
-/

namespace FractalArchive

/-- What a name of the schema denotes. -/
inductive SchemaKind where
  | table
  | view
  | index
  deriving DecidableEq, Repr

/-- The name of a kind. -/
def SchemaKind.name : SchemaKind → String
  | .table => "table"
  | .view => "view"
  | .index => "index"

/-- Why the database engine refuses. -/
inductive SqlError where
  /-- The file cannot be opened or created. -/
  | cannotOpen (path : String)
  /-- The path holds a null octet. -/
  | nulInPath (position : Nat)
  /-- The file URI names a host. -/
  | uriAuthority (host : String)
  /-- The file URI asks for an unknown mode of this kind. -/
  | uriMode (kind mode : String)
  /-- The file URI asks for more access than it has asked for before. -/
  | uriAccess (mode : String)
  /-- The file URI asks for an unknown file system. -/
  | uriFileSystem (name : String)
  | notADatabase
  | readOnly
  /-- The operating system does not read the file. -/
  | notRead
  | full
  | noSuchTable (name : String)
  /-- A query names a column that the table lacks. -/
  | noSuchColumn (name sql : String) (offset : Nat)
  /-- An insertion names a column that the table lacks. -/
  | noColumnNamed (table column : String)
  | viewNotModifiable (name : String)
  | alreadyExists (kind : SchemaKind) (name sql : String) (offset : Nat)
  /-- The name belongs to an index. -/
  | indexNamed (name : String)
  /-- The name belongs to a table. -/
  | tableNamed (name : String)
  | dropOfView (name : String)
  | unique (table column : String)
  | notNull (table column : String)
  | check (text : String)
  | datatypeMismatch
  /-- An integer does not fit the type asked for. -/
  | integerOutOfRange (value : Int) (column : Nat)
  | columnType (kind : Cell.Kind) (column : Nat) (name : String)
  /-- A text is not UTF-8. -/
  | malformedText (column : Nat) (cause : Utf8.Malformed)
  | noRows
  /-- Anything else that the engine reports, with its text and its reason. -/
  | other (text reason : String)
  deriving DecidableEq, Repr

namespace SqlError

/-- Where and how a text stops being UTF-8. -/
def malformedMessage : Utf8.Malformed → String
  | ⟨position, some n⟩ => s!"invalid utf-8 sequence of {n} bytes from index {position}"
  | ⟨position, none⟩ => s!"incomplete utf-8 byte sequence from index {position}"

/-- What a message says of a cause. -/
def message : SqlError → String
  | .cannotOpen path => "unable to open database file: " ++ path
  | .nulInPath position => s!"nul byte found in provided data at position: {position}"
  | .uriAuthority host => "invalid uri authority: " ++ host
  | .uriMode kind mode => s!"no such {kind} mode: {mode}"
  | .uriAccess mode => "access mode not allowed: " ++ mode
  | .uriFileSystem name => "no such vfs: " ++ name
  | .notADatabase => "file is not a database"
  | .readOnly => "attempt to write a readonly database"
  | .notRead => "disk I/O error"
  | .full => "database or disk is full"
  | .noSuchTable name => "no such table: " ++ name
  | .noSuchColumn name sql offset =>
    s!"no such column: {name} in {sql} at offset {offset}"
  | .noColumnNamed table column => s!"table {table} has no column named {column}"
  | .viewNotModifiable name => s!"cannot modify {name} because it is a view"
  | .alreadyExists kind name sql offset =>
    kind.name ++ s!" {name} already exists in {sql} at offset {offset}"
  | .indexNamed name => "there is already an index named " ++ name
  | .tableNamed name => "there is already a table named " ++ name
  | .dropOfView name => "use DROP VIEW to delete view " ++ name
  | .unique table column => s!"UNIQUE constraint failed: {table}.{column}"
  | .notNull table column => s!"NOT NULL constraint failed: {table}.{column}"
  | .check text => "CHECK constraint failed: " ++ text
  | .datatypeMismatch => "datatype mismatch"
  | .integerOutOfRange value column => s!"Integer {value} out of range at index {column}"
  | .columnType kind column name =>
    "Invalid column type " ++ kind.name ++ s!" at index: {column}, name: {name}"
  | .malformedText column cause =>
    s!"Conversion error from type Text at index: {column}, " ++ malformedMessage cause
  | .noRows => "Query returned no rows"
  | .other text _ => text

/-- The numbered reason that the engine gives, if the cause is the engine's. -/
def reason : SqlError → Option String
  | .cannotOpen _ => some "Error code 14: Unable to open the database file"
  | .uriAccess _ => some "Error code 3: Access permission denied"
  | .notADatabase => some "Error code 26: File opened that is not a database file"
  | .readOnly => some "Error code 8: Attempt to write a readonly database"
  | .notRead => some "Error code 266: Error reading from file"
  | .full => some "Error code 13: Insertion failed because database is full"
  | .unique _ "id" => some "Error code 1555: A PRIMARY KEY constraint failed"
  | .unique _ _ => some "Error code 2067: A UNIQUE constraint failed"
  | .notNull _ _ => some "Error code 1299: A NOT NULL constraint failed"
  | .check _ => some "Error code 275: A CHECK constraint failed"
  | .datatypeMismatch => some "Error code 20: Data type mismatch"
  | .malformedText _ cause => some (malformedMessage cause)
  | .integerOutOfRange _ _ => none
  | .columnType _ _ _ => none
  | .nulInPath _ => none
  | .noRows => none
  | .other _ reason => some reason
  | _ => some "Error code 1: SQL error or missing database"

/-- Whether a statement fails before it runs. -/
def inPreparation : SqlError → Bool
  | .noSuchTable _ => true
  | .noSuchColumn _ _ _ => true
  | .noColumnNamed _ _ => true
  | .viewNotModifiable _ => true
  | .alreadyExists _ _ _ _ => true
  | .indexNamed _ => true
  | .tableNamed _ => true
  | .dropOfView _ => true
  | _ => false

end SqlError

end FractalArchive
