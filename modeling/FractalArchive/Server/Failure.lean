import FractalArchive.EnvFile.Fault
import FractalArchive.Logging.Basic
import FractalArchive.Server.Address
import FractalArchive.Store.Error

/-!
# Failures of the server

Why the server does not start or does not end well, with the report of the causes, the outermost
first.
-/

namespace FractalArchive.Server

/-- Why the server fails. -/
inductive Failure where
  | environmentFile (name : String) (cause : EnvFile.LoadError)
  | logging (cause : Logging.Refused)
  | database (url : String) (cause : StoreError)
  | listening (address : String) (cause : AddressFault)
  /-- The store does not close. -/
  | closing (cause : StoreError)
  deriving DecidableEq, Repr

namespace Failure

/-- What a message says of a failure. -/
def message : Failure → String
  | .environmentFile name _ => EnvFile.failureMessage name
  | .logging cause => "failed to initialize logging: " ++ cause.message
  | .database url _ => s!"failed to open database `{url}`"
  | .listening address _ => s!"failed to bind `{address}`"
  | .closing _ => "failed to close database"

/-- The messages of the causes of a failure. -/
def causes : Failure → List String
  | .environmentFile _ cause => cause.causes
  | .logging _ => []
  | .database _ cause => cause.message :: cause.chain
  | .listening _ cause => [cause.message]
  | .closing cause => cause.message :: cause.chain

/-- A text after a mark, with further lines indented to the same column. -/
def indented (mark text : String) : String :=
  let gap := List.replicate mark.length ' '
  String.ofList (mark.toList ++ text.toList.flatMap fun c => if c = '\n' then c :: gap else [c])

/-- The lines of causes, numbered if there are several. -/
def causeLines : List String → List String
  | [cause] => [indented "    " cause]
  | causes => causes.zipIdx.map fun (cause, i) => indented s!"    {i}: " cause

/-- The report of a failure. -/
def report (f : Failure) : String :=
  let below := match f.causes with
    | [] => []
    | causes => ["", "Caused by:"] ++ causeLines causes
  "Error: " ++ "\n".intercalate (f.message :: below) ++ "\n"

end Failure

end FractalArchive.Server
