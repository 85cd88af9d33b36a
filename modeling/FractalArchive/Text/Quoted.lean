import FractalArchive.Text.Property.GraphemeExtend
import FractalArchive.Text.Property.Unprintable

/-!
# Quoted texts

A text in a message stands between double quotes.  The quote, the backslash and the usual control
characters are escaped by a letter; any other character that would not show by itself is written
by its code point in braces.
-/

namespace FractalArchive.Text.Quoted

/-- Whether a character shows by itself. -/
def shows (c : Char) : Bool :=
  if c.toNat < 0x7F then 0x20 ≤ c.toNat
  else !inRanges c.toNat graphemeExtendRanges && !inRanges c.toNat unprintableRanges

/-- A character within the quotes. -/
def written (c : Char) : List Char :=
  if c = '\x00' then ['\\', '0']
  else if c = '\t' then ['\\', 't']
  else if c = '\r' then ['\\', 'r']
  else if c = '\n' then ['\\', 'n']
  else if c = '\\' then ['\\', '\\']
  else if c = '\x22' then ['\\', '\x22']
  else if shows c then [c]
  else ['\\', 'u', '\x7b'] ++ Nat.toDigits 16 c.toNat ++ ['\x7d']

/-- A text between quotes. -/
def quote (s : String) : String :=
  String.ofList ('\x22' :: s.toList.flatMap written ++ ['\x22'])

end FractalArchive.Text.Quoted
