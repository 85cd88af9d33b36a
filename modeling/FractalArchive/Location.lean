import FractalArchive.Text.Blank

/-!
# Locations

Where the records are kept: in memory or in a file.  A connection string names a location in one
of two ways, as a URL of the scheme `sqlite` whose host is empty or as a plain path.
-/

namespace FractalArchive

/-- Where the records are kept. -/
inductive Location where
  /-- In memory; the contents vanish with the store. -/
  | memory
  /-- In the file of this path. -/
  | file (path : String)
  deriving DecidableEq, Repr

/-- A connection string that names no location. -/
structure UnsupportedUrl where
  /-- The string as it was given. -/
  url : String
  deriving DecidableEq, Repr

namespace Location

/-- The marker of a database in memory, `:memory:`. -/
def memoryMark : List Char :=
  [':', 'm', 'e', 'm', 'o', 'r', 'y', ':']

/-- The scheme of a URL, `sqlite:`. -/
def scheme : List Char :=
  ['s', 'q', 'l', 'i', 't', 'e', ':']

/-- What separates a scheme from the authority, `://`. -/
def authorityMark : List Char :=
  [':', '/', '/']

/-- Whether a word occurs in a text. -/
def occurs (word : List Char) : List Char → Bool
  | [] => word.isEmpty
  | c :: rest => word.isPrefixOf (c :: rest) || occurs word rest

/-- The location after the scheme: `//` and nothing, or an empty host and a path. -/
def readUrl (rest : List Char) : Option Location :=
  if rest = memoryMark then some .memory
  else match rest with
    | ['/', '/'] => some .memory
    | '/' :: '/' :: '/' :: path =>
      if path = [] ∨ path = memoryMark then some .memory else some (.file (String.ofList path))
    | _ => none

/-- The location that a text without blanks at its ends names. -/
def read (text : List Char) : Option Location :=
  if text = [] then none
  else if text = memoryMark then some .memory
  else match scheme.isPrefixOf? text with
    | some rest => readUrl rest
    | none => if occurs authorityMark text then none else some (.file (String.ofList text))

/-- The location that a connection string names; blanks around it do not count. -/
def parse (url : String) : Except UnsupportedUrl Location :=
  match read (Blank.trim url.toList) with
  | some location => .ok location
  | none => .error ⟨url⟩

/-- A location as messages show it. -/
def display : Location → String
  | .memory => String.ofList memoryMark
  | .file path => path

/-- Whether a location is in memory. -/
def isMemory : Location → Bool
  | .memory => true
  | .file _ => false

end Location

end FractalArchive
