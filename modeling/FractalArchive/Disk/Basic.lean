import FractalArchive.Database.Catalog

/-!
# The disk

Directories and files under paths.  A path is the list of its parts from the root; a relative name
starts at the working directory.  Putting a node at a path changes what that path denotes and
nothing else (`node?_put_self`, `node?_put_of_ne`).
-/

namespace FractalArchive

/-- The parts of a path from the root. -/
abbrev Path := List String

/-- What a path denotes. -/
inductive Node where
  | directory
  | file (contents : Contents)
  deriving DecidableEq

/-- Directories and files. -/
structure Disk where
  /-- Where relative names start. -/
  workingDirectory : Path := []
  /-- What each path denotes, besides the root. -/
  nodes : List (Path × Node) := []
  deriving DecidableEq

/-- Why the operating system refuses. -/
inductive OsError where
  | notFound
  | alreadyExists
  | notADirectory
  | isADirectory
  | nameTooLong
  | inputOutput
  | nulInName
  deriving DecidableEq, Repr

/-- What a message says of a refusal. -/
def OsError.message : OsError → String
  | .notFound => "No such file or directory (os error 2)"
  | .alreadyExists => "File exists (os error 17)"
  | .notADirectory => "Not a directory (os error 20)"
  | .isADirectory => "Is a directory (os error 21)"
  | .nameTooLong => "File name too long (os error 36)"
  | .inputOutput => "Input/output error (os error 5)"
  | .nulInName => "file name contained an unexpected NUL byte"

namespace Path

/-- The parts of a text that are neither empty nor `.`. -/
def parts (name : String) : List String :=
  ((name.toList.splitOn '/').map String.ofList).filter fun part => part != "" && part != "."

/-- Whether a name starts at the root. -/
def isAbsolute (name : String) : Bool :=
  name.toList.head? == some '/'

/-- A path as a text. -/
def text (p : Path) : String :=
  "/" ++ "/".intercalate p

/-- The greatest number of octets in a part. -/
def maxPartSize : Nat := 255

/-- Goes one part down, or up at `..`. -/
def step (p : Path) (part : String) : Path :=
  if part = ".." then p.dropLast else p ++ [part]

end Path

namespace Disk

/-- What a path denotes. -/
def node? (d : Disk) (p : Path) : Option Node :=
  if p = [] then some .directory else d.nodes.lookup p

/-- Whether a path denotes a directory. -/
def isDirectory (d : Disk) (p : Path) : Bool :=
  d.node? p == some .directory

/-- The disk with a node at a path. -/
def put (d : Disk) (p : Path) (n : Node) : Disk :=
  { d with nodes := (p, n) :: d.nodes.filter fun e => e.1 != p }

/-- The disk without the node at a path. -/
def remove (d : Disk) (p : Path) : Disk :=
  { d with nodes := d.nodes.filter fun e => e.1 != p }

theorem node?_put_self (d : Disk) {p : Path} (n : Node) (h : p ≠ []) :
    (d.put p n).node? p = some n := by
  simp [node?, put, h]

theorem lookup_filter_of_ne {nodes : List (Path × Node)} {p q : Path} (h : q ≠ p) :
    (nodes.filter fun e => e.1 != p).lookup q = nodes.lookup q := by
  induction nodes with
  | nil => rfl
  | cons e rest ih =>
    obtain ⟨r, m⟩ := e
    by_cases hr : r = p
    · subst hr
      have hq : (q == r) = false := by simpa using h
      simp [List.lookup_cons, hq, ih]
    · rw [List.filter_cons_of_pos (by simpa using hr), List.lookup_cons, List.lookup_cons, ih]

theorem node?_put_of_ne (d : Disk) {p q : Path} (n : Node) (h : q ≠ p) :
    (d.put p n).node? q = d.node? q := by
  have hq : (q == p) = false := by simpa using h
  unfold node? put
  simp only [List.lookup_cons, hq]
  rw [lookup_filter_of_ne h]

/-- Where a name starts. -/
def base (d : Disk) (name : String) : Path :=
  if Path.isAbsolute name then [] else d.workingDirectory

/-- The path of a name by its text alone: `..` drops the part before it. -/
def resolve (d : Disk) (name : String) : Path :=
  (Path.parts name).foldl Path.step (d.base name)

/-- The path of parts below a directory; every part is looked for in a directory. -/
def walk (d : Disk) (p : Path) : List String → Except OsError Path
  | [] => .ok p
  | part :: rest =>
    if d.isDirectory p then
      if Path.maxPartSize < part.utf8ByteSize then .error .nameTooLong
      else walk d (Path.step p part) rest
    else if (d.node? p).isSome then .error .notADirectory
    else .error .notFound

/-- The path of a name, whose directories exist. -/
def locate (d : Disk) (name : String) : Except OsError Path :=
  if name.toList.contains '\x00' then .error .nulInName
  else if name = "" then .error .notFound
  else match d.walk (d.base name) (Path.parts name) with
    | .error e => .error e
    | .ok p =>
      if name.toList.getLast? = some '/' ∧ ¬ d.isDirectory p then
        .error (if (d.node? p).isSome then .notADirectory else .notFound)
      else .ok p

/-- What a file holds. -/
def readFile (d : Disk) (name : String) : Except OsError Contents :=
  match d.locate name with
  | .error e => .error e
  | .ok p => match d.node? p with
    | some (.file (.unreadable _)) => .error .inputOutput
    | some (.file contents) => .ok contents
    | some .directory => .error .isADirectory
    | none => .error .notFound

/-- Makes or replaces a file in a directory that exists. -/
def writeFile (d : Disk) (name : String) (octets : Octets) : Except OsError Disk :=
  match d.locate name with
  | .error e => .error e
  | .ok p => match d.node? p with
    | some .directory => .error .isADirectory
    | _ => if d.isDirectory p.dropLast then .ok (d.put p (.file (.octets octets)))
      else .error .notFound

/-- Removes a file. -/
def removeFile (d : Disk) (name : String) : Except OsError Disk :=
  match d.locate name with
  | .error e => .error e
  | .ok p => match d.node? p with
    | some (.file _) => .ok (d.remove p)
    | some .directory => .error .isADirectory
    | none => .error .notFound

/-- Makes the directories of parts below a directory as far as they do not exist. -/
def makeDirectories (d : Disk) (p : Path) : List String → Except OsError Disk
  | [] => .ok d
  | part :: rest =>
    let q := Path.step p part
    match d.node? q with
    | some .directory => makeDirectories d q rest
    | some (.file _) => .error (if rest = [] then .alreadyExists else .notADirectory)
    | none =>
      if Path.maxPartSize < part.utf8ByteSize then .error .nameTooLong
      else makeDirectories (d.put q .directory) q rest

/-- Makes a directory and those above it as far as they do not exist. -/
def makeDirectory (d : Disk) (name : String) : Except OsError Disk :=
  if name.toList.contains '\x00' then .error .nulInName
  else makeDirectories d (d.base name) (Path.parts name)

/-- Whether a name denotes anything. -/
def isPresent (d : Disk) (name : String) : Bool :=
  match d.locate name with
  | .ok p => (d.node? p).isSome
  | .error _ => false

/-- The names in a directory. -/
def names (d : Disk) (p : Path) : List String :=
  d.nodes.filterMap fun (q, _) => if q.dropLast = p then q.getLast? else none

end Disk

end FractalArchive
