import FractalArchive.Disk.Basic

/-!
# Rotation of log files

Lines go to the end of the current file.  A current file that is too long before a line becomes a
numbered file, whose number is one more than the highest, and only the numbered files with the
highest numbers stay.
-/

namespace FractalArchive.Logging

/-- The number of octets above which a file takes no more lines. -/
def maxFileSize : Nat := 10485760

/-- The number of numbered files that stay. -/
def maxNumbered : Nat := 5

/-- The name of the file that takes the lines. -/
def currentName : String := "burrito_rCURRENT.log"

/-- What a numbered name starts with. -/
def numberedStart : List Char := "burrito_r".toList

/-- What a numbered name ends with. -/
def numberedEnd : List Char := ".log".toList

/-- The name of a numbered file; the number has at least five digits. -/
def numberedName (n : Nat) : String :=
  let digits := Nat.toDigits 10 n
  String.ofList (numberedStart ++ List.replicate (5 - digits.length) '0' ++ digits ++ numberedEnd)

/-- The number in a numbered name. -/
def number? (name : String) : Option Nat := do
  let rest ← numberedStart.isPrefixOf? name.toList
  let reversed ← numberedEnd.reverse.isPrefixOf? rest.reverse
  let digits := reversed.reverse
  if digits ≠ [] ∧ digits.all fun c => '0' ≤ c && c ≤ '9' then
    some (digits.foldl (fun n c => n * 10 + (c.toNat - '0'.toNat)) 0)
  else none

/-- The numbers of the numbered files in a directory, the highest first. -/
def numbers (d : Disk) (directory : Path) : List Nat :=
  ((d.names directory).filterMap number?).mergeSort fun a b => b ≤ a

/-- The disk with only the numbered files that stay. -/
def tidy (d : Disk) (directory : Path) : Disk :=
  ((numbers d directory).drop maxNumbered).foldl
    (fun d n => d.remove (directory ++ [numberedName n])) d

/-- The current file while lines are added: its size, and its pieces, the last one first. -/
structure Page where
  size : Nat
  pieces : List Octets

/-- The current file of a directory. -/
def currentPage (d : Disk) (directory : Path) : Page :=
  match d.node? (directory ++ [currentName]) with
  | some (.file (.octets octets)) => ⟨octets.length, [octets]⟩
  | _ => ⟨0, []⟩

/-- The contents of a page. -/
def Page.contents (p : Page) : Contents :=
  .octets p.pieces.reverse.flatten

/-- Gives a page a number. -/
def rotate (d : Disk) (directory : Path) (p : Page) : Disk :=
  let next := match numbers d directory with
    | [] => 0
    | highest :: _ => highest + 1
  tidy ((d.remove (directory ++ [currentName])).put (directory ++ [numberedName next])
    (.file p.contents)) directory

/-- Adds a line, to a new page if the old one is too long. -/
def addLine (directory : Path) (s : Disk × Page) (line : Octets) : Disk × Page :=
  let (d, p) := s
  if maxFileSize < p.size then (rotate d directory p, ⟨line.length, [line]⟩)
  else (d, ⟨p.size + line.length, line :: p.pieces⟩)

/-- Adds lines to the files in a directory; `opened` says whether lines have been added before. -/
def addLines (opened : Bool) (d : Disk) (directory : Path) (lines : List Octets) : Disk :=
  if lines = [] then d
  else
    let d := if opened then d else tidy d directory
    let (d, p) := lines.foldl (addLine directory) (d, currentPage d directory)
    d.put (directory ++ [currentName]) (.file p.contents)

end FractalArchive.Logging
