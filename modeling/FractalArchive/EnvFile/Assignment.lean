import FractalArchive.EnvFile.Value
import FractalArchive.Text.Blank

/-!
# Assignments

What a line of an environment file says: nothing, or that a variable has a value.  The word
`export` may stand before the variable.
-/

namespace FractalArchive.EnvFile

/-- A variable and the value that a line gives it. -/
structure Assignment where
  name : String
  value : List Piece
  deriving DecidableEq, Repr

namespace Assignment

/-- Whether a character is a letter of ASCII or an underscore. -/
def isKeyStart (c : Char) : Bool :=
  ('a' ≤ c && c ≤ 'z') || ('A' ≤ c && c ≤ 'Z') || c == '_'

/-- Whether a character may stand in a name. -/
def isKeyChar (c : Char) : Bool :=
  isKeyStart c || ('0' ≤ c && c ≤ '9') || c == '.'

/-- Reads a name and the blanks after it; the rest is given back where none stands. -/
def readKey (text : List Char) : Except (List Char) (List Char × List Char) :=
  if (text.head?.map isKeyStart).getD false then
    .ok (text.takeWhile isKeyChar, Blank.trimStart (text.dropWhile isKeyChar))
  else .error text

/-- Reads an equals sign and the blanks after it. -/
def readEquals : List Char → Except (List Char) (List Char)
  | '=' :: rest => .ok (Blank.trimStart rest)
  | text => .error text

/-- The word that may stand before a name. -/
def exportWord : List Char := ['e', 'x', 'p', 'o', 'r', 't']

/-- Reads a name, an equals sign and the blanks around it.  The word `export` is a name only if an
equals sign follows it. -/
def readTarget (text : List Char) : Except (List Char) (List Char × List Char) := do
  let (key, rest) ← readKey text
  match readEquals rest with
  | .ok value => return (key, value)
  | .error stuck =>
    if key = exportWord then
      let (key, rest) ← readKey rest
      return (key, ← readEquals rest)
    else .error stuck

/-- Whether nothing stands in a text, or a comment. -/
def isVoid (text : List Char) : Bool :=
  text.isEmpty || text.head? == some '#'

/-- What a line says.  A fault before the value is reported with the whole line and the number of
octets before it; a fault in the value is reported with the value. -/
def read (line : List Char) : Except Fault (Option Assignment) :=
  let body := Blank.trimEnd line
  let start := Blank.trimStart body
  if isVoid start then .ok none
  else match readTarget start with
    | .error rest => .error ⟨line, (Utf8.encode body).length - (Utf8.encode rest).length⟩
    | .ok (key, value) =>
      if isVoid value then .ok (some ⟨String.ofList key, []⟩)
      else match readValue value with
        | .ok pieces => .ok (some ⟨String.ofList key, pieces⟩)
        | .error fault => .error fault

end Assignment

end FractalArchive.EnvFile
