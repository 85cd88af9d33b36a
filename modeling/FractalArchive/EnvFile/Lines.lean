import FractalArchive.EnvFile.Fault
import FractalArchive.Text.Blank

/-!
# Lines of environment files

A file is read by physical lines, each of which ends with its line feed.  Physical lines are joined
to one logical line while a quotation, an escape or a blank is open at their end.  A number sign
right after a blank cuts the logical line, and a logical line that starts with a number sign is
empty.
-/

namespace FractalArchive.EnvFile

/-! ### Physical lines -/

/-- The lines of a file, each with its line feed; `line` holds the octets of the line begun, the
last one first, and `lines` the lines before it. -/
def cutLines (lines : List Octets) (line : Octets) : Octets → List Octets
  | [] => (if line = [] then lines else line.reverse :: lines).reverse
  | o :: rest =>
    if o = 0x0A then cutLines ((o :: line).reverse :: lines) [] rest
    else cutLines lines (o :: line) rest

/-- The octets that mark a text as UTF-8. -/
def byteOrderMark : Octets := [0xEF, 0xBB, 0xBF]

/-- The lines of a file after its byte order mark. -/
def physicalLines (file : Octets) : List Octets :=
  cutLines [] [] ((byteOrderMark.isPrefixOf? file).getD file)

/-! ### Openness -/

/-- What is open after a character. -/
inductive Openness where
  /-- Nothing is. -/
  | complete
  /-- A blank has been read. -/
  | blank
  /-- A backslash has been read. -/
  | escape
  /-- A quotation between apostrophes. -/
  | strong
  | strongEscape
  /-- A quotation between quotation marks. -/
  | weak
  | weakEscape
  deriving DecidableEq, Repr

namespace Openness

/-- What is open after a character outside quotations that is no blank. -/
def afterPlain (c : Char) : Openness :=
  if c = '\\' then .escape
  else if c = '\x22' then .weak
  else if c = '\'' then .strong
  else .complete

/-- What is open after one more character. -/
def next (c : Char) : Openness → Openness
  | .complete => if isBlank c ∧ c ≠ '\n' ∧ c ≠ '\r' then .blank else afterPlain c
  | .blank => afterPlain c
  | .escape => .complete
  | .strong => if c = '\\' then .strongEscape else if c = '\'' then .complete else .strong
  | .strongEscape => .strong
  | .weak => if c = '\\' then .weakEscape else if c = '\x22' then .complete else .weak
  | .weakEscape => .weak

end Openness

/-- How a physical line ends. -/
inductive LineEnd where
  /-- A comment follows these characters. -/
  | comment (before : List Char)
  /-- This is open. -/
  | opened (openness : Openness)
  deriving DecidableEq, Repr

/-- How a line ends that starts with something open; `before` holds the characters already read,
the last one first. -/
def lineEnd (before : List Char) (o : Openness) : List Char → LineEnd
  | [] => .opened o
  | c :: rest =>
    if o = .blank ∧ c = '#' then .comment before.reverse
    else lineEnd (c :: before) (o.next c) rest

/-! ### Logical lines -/

/-- A line without the line feed at its end and the carriage return before that. -/
def withoutLineFeed (line : List Char) : List Char :=
  match line.reverse with
  | '\n' :: '\r' :: rest => rest.reverse
  | '\n' :: rest => rest.reverse
  | _ => line

/-- The logical lines up to the first that cannot be read, and why that is so; `read` holds what
was read of a logical line in which `o` is open. -/
def joinLines (read : List Char) (o : Openness) :
    List Octets → List (List Char) × Option LoadError
  | [] =>
    if o = .complete then ([], none)
    else ([], some (.malformed ⟨read, (Utf8.encode read).length⟩))
  | octets :: rest =>
    match Utf8.decode octets with
    | .error _ => ([], some .notText)
    | .ok line =>
      let all := read ++ line
      let restFrom (found : List Char) :=
        let more := joinLines [] .complete rest
        (found :: more.1, more.2)
      if (Blank.trimStart all).head? = some '#' then restFrom []
      else match lineEnd [] o line with
        | .comment before => restFrom (read ++ before)
        | .opened .complete => restFrom (withoutLineFeed all)
        | .opened o => joinLines all o rest

/-- The logical lines of a file up to the first that cannot be read, and why that is so. -/
def logicalLines (file : Octets) : List (List Char) × Option LoadError :=
  joinLines [] .complete (physicalLines file)

end FractalArchive.EnvFile
