import FractalArchive.Environment
import FractalArchive.EnvFile.Fault
import FractalArchive.Text.Property.Alphanumeric
import FractalArchive.Text.Ranges

/-!
# Values in environment files

A value is a row of characters and of references to variables.  How a value is read does not depend
on the variables; they come in when it is expanded.
-/

namespace FractalArchive.EnvFile

/-- A part of a value. -/
inductive Piece where
  | char (c : Char)
  /-- The value of a variable. -/
  | reference (name : List Char)
  deriving DecidableEq, Repr

/-- The characters that a piece stands for; a variable that is not there stands for none. -/
def Piece.expand (e : Environment) : Piece → List Char
  | .char c => [c]
  | .reference name => (e.behind? name).getD []

/-- The text that pieces stand for. -/
def expand (e : Environment) (pieces : List Piece) : String :=
  String.ofList (pieces.flatMap (Piece.expand e))

/-! ### Reading -/

/-- Where in a value the next character stands. -/
inductive Place where
  /-- Outside quotations, or within quotation marks. -/
  | plain (quoted : Bool)
  /-- After a backslash. -/
  | escaped (quoted : Bool)
  /-- Between apostrophes. -/
  | literal
  /-- After a dollar sign; `name` holds the name read so far, the last character first. -/
  | naming (quoted : Bool) (name : List Char)
  /-- Between braces after a dollar sign. -/
  | braced (quoted : Bool) (name : List Char)
  /-- After the value. -/
  | ending
  deriving DecidableEq, Repr

/-- Whether a character continues a name after a dollar sign. -/
def isNameChar (c : Char) : Bool :=
  Text.inRanges c.toNat Text.alphanumericRanges

/-- The character that a backslash and a character stand for. -/
def unescape : Char → Option Char
  | '\\' => some '\\'
  | '\'' => some '\''
  | '\x22' => some '\x22'
  | '$' => some '$'
  | ' ' => some ' '
  | 'n' => some '\n'
  | _ => none

/-- The reference to a name whose last character comes first. -/
def referenceTo (name : List Char) : Piece :=
  .reference name.reverse

/-- Reads a character outside names and escapes: the place after it and the pieces it makes. -/
def readPlain (quoted : Bool) (c : Char) : Place × List Piece :=
  if c = '$' then (.naming quoted [], [])
  else if c = '\\' then (.escaped quoted, [])
  else if c = '\x22' then (.plain (!quoted), [])
  else if quoted then (.plain true, [.char c])
  else if c = '\'' then (.literal, [])
  else if c = ' ' ∨ c = '\t' then (.ending, [])
  else (.plain false, [.char c])

/-- Reads the character after a name: a dollar sign starts another name, and any other character
stands for itself. -/
def readAfterName (quoted : Bool) (name : List Char) (c : Char) : Place × List Piece :=
  if c = '\x7b' ∧ name = [] then (.braced quoted [], [])
  else if c = '$' then (.naming quoted [], [referenceTo name])
  else (.plain quoted, [referenceTo name, .char c])

/-- Reads one character: the place after it and the pieces it makes, unless it may not stand
there. -/
def readChar (c : Char) : Place → Option (Place × List Piece)
  | .plain quoted => some (readPlain quoted c)
  | .escaped quoted => (unescape c).map fun d => (.plain quoted, [.char d])
  | .literal => some (if c = '\'' then (.plain false, []) else (.literal, [.char c]))
  | .naming quoted name =>
    some (if isNameChar c then (.naming quoted (c :: name), []) else readAfterName quoted name c)
  | .braced quoted name =>
    some (if c = '\x7d' then (.plain quoted, [referenceTo name])
      else (.braced quoted (c :: name), []))
  | .ending => if c = ' ' ∨ c = '\t' then some (.ending, []) else none

/-- What is left to add at the end of a value, unless something is open there. -/
def Place.close : Place → Option (List Piece)
  | .plain false | .escaped false | .ending => some []
  | .naming false name => some [referenceTo name]
  | _ => none

/-- Reads the rest of a value: its pieces, or the number of characters before the one at fault, or
nothing where the value ends too early.  `pieces` holds the pieces read, the last one first. -/
def readPieces (index : Nat) (pieces : List Piece) (p : Place) :
    List Char → Except (Option Nat) (List Piece)
  | [] => match p.close with
    | some more => .ok (pieces.reverse ++ more)
    | none => .error none
  | c :: rest =>
    if p = .ending ∧ c = '#' then .ok pieces.reverse
    else match readChar c p with
      | some (q, more) => readPieces (index + 1) (more.reverse ++ pieces) q rest
      | none => .error (some index)

/-- Reads a value.  A fault stands at a character, or at the last octet if the value ends too
early. -/
def readValue (text : List Char) : Except Fault (List Piece) :=
  match readPieces 0 [] (.plain false) text with
  | .ok pieces => .ok pieces
  | .error (some index) => .error ⟨text, index⟩
  | .error none => .error ⟨text, (Utf8.encode text).length - 1⟩

end FractalArchive.EnvFile
