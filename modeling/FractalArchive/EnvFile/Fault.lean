import FractalArchive.Disk.Basic
import FractalArchive.Text.Quoted

/-!
# Faults of environment files

Why an environment file is not loaded.
-/

namespace FractalArchive.EnvFile

/-- A place in a text that cannot be read. -/
structure Fault where
  /-- The text. -/
  text : List Char
  /-- Where reading stopped. -/
  position : Nat
  deriving DecidableEq, Repr

/-- Why a file is not loaded. -/
inductive LoadError where
  /-- The file cannot be read. -/
  | unreadable (cause : OsError)
  /-- A line of the file is not UTF-8. -/
  | notText
  /-- A line of the file is no assignment. -/
  | malformed (fault : Fault)
  /-- A value cannot be put into the environment. -/
  | unusable (name value : String)
  deriving DecidableEq, Repr

/-- What a message says of a fault. -/
def Fault.message (f : Fault) : String :=
  s!"Error parsing line: '{String.ofList f.text}', error at line index: {f.position}"

/-- The messages of the causes, the first one being the reader's. -/
def LoadError.causes : LoadError → List String
  | .unreadable cause => [cause.message, cause.message]
  | .notText => ["stream did not contain valid UTF-8", "stream did not contain valid UTF-8"]
  | .malformed fault => [fault.message]
  | .unusable _ _ => []

/-- What a message says of a file that is not loaded. -/
def failureMessage (name : String) : String :=
  s!"failed to load env file `{name}`"

/-- What is said of a value that cannot be put into the environment. -/
def unusableMessage (name value : String) : String :=
  "failed to set environment variable `" ++ Text.Quoted.quote name ++ "` to `" ++
    Text.Quoted.quote value ++ "`: " ++ OsError.nulInName.message

end FractalArchive.EnvFile
