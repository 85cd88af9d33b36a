import FractalArchive.Database.Error
import FractalArchive.Location

/-!
# Store errors

Why a store cannot be connected, used or closed.
-/

namespace FractalArchive

/-- Why a store fails. -/
inductive StoreError where
  /-- The database engine refuses. -/
  | sql (cause : SqlError)
  /-- The database was written by a newer version of the archive. -/
  | newerSchema (found latest : Nat)
  /-- The connection string names no location. -/
  | unsupportedUrl (url : String)
  /-- A session panicked while it held the database in memory. -/
  | poisoned
  deriving DecidableEq, Repr

namespace StoreError

/-- What a message says of a cause. -/
def message : StoreError → String
  | .sql cause => cause.message
  | .newerSchema found latest =>
    s!"database schema version {found} is newer than supported {latest}"
  | .unsupportedUrl url => s!"unsupported database url `{url}`"
  | .poisoned => "in-memory database connection is poisoned"

/-- The messages of the causes below, the engine's own error being the last. -/
def sources : StoreError → List String
  | .sql cause => [cause.message]
  | _ => []

/-- The messages of all causes below, down to the engine's reason. -/
def chain : StoreError → List String
  | .sql cause => cause.message :: cause.reason.toList
  | _ => []

end StoreError

end FractalArchive
