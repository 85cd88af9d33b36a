import FractalArchive.EnvFile.Assignment
import FractalArchive.EnvFile.Lines

/-!
# Loading environment files

The assignments of a file are carried out in order up to the first line that cannot be read.  A
variable that is there keeps its value (`lookup_assign_of_isSome`).
-/

namespace FractalArchive.EnvFile

/-- The environment after a line, if it can be read and its value be used. -/
def assign (e : Environment) (line : List Char) : Except LoadError Environment :=
  match Assignment.read line with
  | .error fault => .error (.malformed fault)
  | .ok none => .ok e
  | .ok (some a) =>
    let value := expand e a.value
    if (e.lookup a.name).isNone ∧ value.toList.contains '\x00' then .error (.unusable a.name value)
    else .ok (e.define a.name value)

/-- The environment after lines, up to the first that fails, and why that one does; `last` is why
no more lines are there. -/
def assignAll (last : Option LoadError) (e : Environment) :
    List (List Char) → Environment × Option LoadError
  | [] => (e, last)
  | line :: rest =>
    match assign e line with
    | .ok e => assignAll last e rest
    | .error fault => (e, some fault)

/-- The environment after the lines of a file. -/
def loadOctets (e : Environment) (file : Octets) : Environment × Option LoadError :=
  let (lines, last) := logicalLines file
  assignAll last e lines

/-- The environment after a file, which need not be there. -/
def load (d : Disk) (name : String) (e : Environment) : Environment × Option LoadError :=
  match d.readFile name with
  | .ok (.octets file) => loadOctets e file
  | .ok _ => (e, some .notText)
  | .error .notFound => (e, none)
  | .error cause => (e, some (.unreadable cause))

/-- A line changes no variable that is there. -/
theorem lookup_assign_of_isSome {e e' : Environment} {line : List Char} {name : String}
    (h : assign e line = .ok e') (hs : (e.lookup name).isSome) :
    e'.lookup name = e.lookup name := by
  unfold assign at h
  split at h
  · cases h
  · cases h; rfl
  · dsimp only at h
    split at h
    · cases h
    · cases h; exact Environment.lookup_define_of_isSome _ _ hs

end FractalArchive.EnvFile
