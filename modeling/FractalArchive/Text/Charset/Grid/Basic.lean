/-!
# Grids of characters

The characters of a large charset have numbered places.  A grid holds them in lines of eighty.
-/

namespace FractalArchive.Charset

/-- What stands for something that is no character. -/
def substitute : Char := Char.ofNat 0xFFFD

/-- Characters at numbered places, eighty a line; U+FFFD marks a place without a character. -/
structure Grid where
  /-- The characters of each line. -/
  lines : Array (Array Char)

namespace Grid

/-- The grid of the given lines. -/
def ofLines (lines : List String) : Grid :=
  ⟨(lines.map fun line => line.toList.toArray).toArray⟩

/-- The character at a place. -/
def char? (grid : Grid) (place : Nat) : Option Char :=
  (grid.lines[place / 80]?).bind fun places =>
    (places[place % 80]?).bind fun c => if c = substitute then none else some c

end Grid

end FractalArchive.Charset
