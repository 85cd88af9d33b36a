import FractalArchive.Repository
import FractalArchive.Text.Quoted

/-!
# Failures of requests

Why a request on the records is answered as a server error, with the text for it.
-/

namespace FractalArchive

/-- How the worker that served a request ended early. -/
inductive WorkerEnd where
  | panicked (message : String)
  | cancelled
  deriving DecidableEq, Repr

/-- What a message says of a worker of this number. -/
def WorkerEnd.message (task : Nat) : WorkerEnd → String
  | .panicked text => s!"task {task} panicked with message " ++ Text.Quoted.quote text
  | .cancelled => s!"task {task} was cancelled"

/-- Why a request fails. -/
inductive Failure where
  /-- The records cannot be read or changed. -/
  | store (cause : RepositoryError)
  /-- A record is asked for and none is stored. -/
  | emptyStore
  /-- The worker did not finish. -/
  | worker (task : Nat) (cause : WorkerEnd)
  deriving DecidableEq, Repr

namespace Failure

/-- What a message says of a failure. -/
def message : Failure → String
  | .store cause => "store error: " ++ cause.message
  | .emptyStore => "no fractals stored"
  | .worker task cause => "store worker failed: " ++ cause.message task

/-- The messages of the causes below. -/
def sources : Failure → List String
  | .store cause => cause.message :: cause.sources
  | .emptyStore => []
  | .worker task cause => [cause.message task]

end Failure

end FractalArchive
