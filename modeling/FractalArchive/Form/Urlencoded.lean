import FractalArchive.Form.Fields
import FractalArchive.Text.Hex

/-!
# URL-encoded forms

Pieces separated by `&`, each a key and a value separated by the first `=`.  A plus sign stands for
a space, and a percent sign with two hexadecimal digits for an octet; a percent sign without them
stands for itself.  Empty pieces do not count.  The octets are read as UTF-8, leniently.
-/

namespace FractalArchive.Urlencoded

/-- The octet `&`. -/
def ampersand : UInt8 := 0x26

/-- The octet `=`. -/
def equals : UInt8 := 0x3D

/-- The octet `%`. -/
def percent : UInt8 := 0x25

/-- The octet `+`. -/
def plus : UInt8 := 0x2B

/-- What an octet outside an escape stands for. -/
def plain (o : UInt8) : UInt8 :=
  if o == plus then 0x20 else o

/-- The octets that stand in a piece, after those read already, which come last one first. -/
def unescapeOnto (read : Octets) : Octets → Octets
  | [] => read.reverse
  | a :: b :: c :: rest =>
    match if a == percent then Hex.octet? b c else none with
    | some o => unescapeOnto (o :: read) rest
    | none => unescapeOnto (plain a :: read) (b :: c :: rest)
  | a :: rest => unescapeOnto (plain a :: read) rest

/-- The text of a key or a value. -/
def text (octets : Octets) : String :=
  String.ofList (Utf8.decodeLossy (unescapeOnto [] octets))

/-- The key and the value of a piece. -/
def field (piece : Octets) : String × String :=
  (text (piece.takeWhile (· != equals)), text ((piece.dropWhile (· != equals)).drop 1))

/-- The fields of a form. -/
def read (octets : Octets) : Fields :=
  ((octets.splitOn ampersand).filter (!·.isEmpty)).map field

end FractalArchive.Urlencoded
