import FractalArchive.Text.Charset.Grid.Basic
import FractalArchive.Text.Utf8

/-!
# Charsets read from the front

In a charset of leading and trailing octets, the octet at the front of a text decides with those
after it what it stands for and how many of them belong to it.  A text is what its front stands for
and the text of the octets left.
-/

namespace FractalArchive.Charset

/-- What the front of a text stands for. -/
structure Front where
  /-- The characters. -/
  chars : List Char
  /-- How many octets after the first belong to them. -/
  more : Nat

namespace Front

/-- One character. -/
def one (c : Char) (more : Nat) : Front := ⟨[c], more⟩

/-- No character. -/
def fault (more : Nat) : Front := one substitute more

/-- An octet that stands for itself. -/
def itself (octet : UInt8) : Front := one (Char.ofNat octet.toNat) 0

/-- A fault at a trailing octet, which is read again if it is ASCII. -/
def badTrail (trail : UInt8) (more : Nat) : Front :=
  fault (if trail.toNat < 0x80 then more else more + 1)

/-- A pair of octets that may stand for a character. -/
def pair (char : Option Char) (trail : UInt8) : Front :=
  match char with
  | some c => one c 1
  | none => badTrail trail 0

/-- The characters of octets, the last one first. -/
def run (front : UInt8 → Octets → Front) (read : List Char) : Octets → List Char
  | [] => read
  | octet :: rest =>
    run front ((front octet rest).chars.reverse ++ read) (rest.drop (front octet rest).more)
termination_by octets => octets.length
decreasing_by simp only [List.length_drop, List.length_cons]; omega

/-- The text of octets. -/
def text (front : UInt8 → Octets → Front) (octets : Octets) : List Char :=
  (run front [] octets).reverse

end Front

end FractalArchive.Charset
