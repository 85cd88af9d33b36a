/-!
# UTF-8

Octets and characters.  A sequence of octets falls into pieces: whole characters, maximal
malformed sequences, and at its very end possibly the beginning of a character (`Utf8.pieces`).
Strict reading refuses the first piece that is no character and says where it stands; lenient
reading puts U+FFFD in its place.
-/

namespace FractalArchive

/-- An octet sequence. -/
abbrev Octets := List UInt8

namespace Utf8

/-- The octets of a text. -/
def encode (cs : List Char) : Octets :=
  cs.flatMap String.utf8EncodeChar

/-- What a stretch of octets amounts to. -/
inductive Piece where
  /-- A character. -/
  | char (c : Char)
  /-- A maximal sequence of this many octets that no character can start with. -/
  | malformed (octets : Nat)
  /-- This many octets that begin a character, at the end of the sequence. -/
  | unfinished (octets : Nat)
  deriving DecidableEq, Repr

/-- How many octets a piece takes. -/
def Piece.size : Piece → Nat
  | .char c => (String.utf8EncodeChar c).length
  | .malformed n => n
  | .unfinished n => n

/-- A character whose first octets have been read. -/
structure Begun where
  /-- Octets read. -/
  seen : Nat
  /-- Octets that must still follow. -/
  owed : Nat
  /-- The least octet that may follow next. -/
  low : Nat
  /-- The greatest octet that may follow next. -/
  high : Nat
  /-- The bits collected. -/
  value : Nat
  deriving DecidableEq, Repr

/-- The reading position: pieces found, the last one first, and a character begun. -/
structure Reading where
  found : List Piece
  begun : Option Begun

/-- Reads an octet where a character may start. -/
def start (found : List Piece) (b : Nat) : Reading :=
  let begin (owed low high value : Nat) : Reading := ⟨found, some ⟨1, owed, low, high, value⟩⟩
  if b ≤ 0x7F then ⟨.char (Char.ofNat b) :: found, none⟩
  else if b < 0xC2 then ⟨.malformed 1 :: found, none⟩
  else if b ≤ 0xDF then begin 1 0x80 0xBF (b - 0xC0)
  else if b = 0xE0 then begin 2 0xA0 0xBF 0
  else if b = 0xED then begin 2 0x80 0x9F 0x0D
  else if b ≤ 0xEF then begin 2 0x80 0xBF (b - 0xE0)
  else if b = 0xF0 then begin 3 0x90 0xBF 0
  else if b ≤ 0xF3 then begin 3 0x80 0xBF (b - 0xF0)
  else if b = 0xF4 then begin 3 0x80 0x8F 4
  else ⟨.malformed 1 :: found, none⟩

/-- Reads one octet. -/
def step (r : Reading) (octet : UInt8) : Reading :=
  let b := octet.toNat
  match r.begun with
  | none => start r.found b
  | some g =>
    if g.low ≤ b ∧ b ≤ g.high then
      let value := g.value * 64 + (b - 0x80)
      if g.owed ≤ 1 then ⟨.char (Char.ofNat value) :: r.found, none⟩
      else ⟨r.found, some ⟨g.seen + 1, g.owed - 1, 0x80, 0xBF, value⟩⟩
    else start (.malformed g.seen :: r.found) b

/-- The pieces of an octet sequence, in order. -/
def pieces (octets : Octets) : List Piece :=
  let r := octets.foldl step ⟨[], none⟩
  match r.begun with
  | none => r.found.reverse
  | some g => (.unfinished g.seen :: r.found).reverse

/-- The text with U+FFFD for every piece that is no character. -/
def decodeLossy (octets : Octets) : List Char :=
  (pieces octets).map fun
    | .char c => c
    | _ => Char.ofNat 0xFFFD

/-- Where and how an octet sequence stops being text. -/
structure Malformed where
  /-- The number of octets before it. -/
  position : Nat
  /-- Its length, or none when the sequence ends within a character. -/
  length : Option Nat
  deriving DecidableEq, Repr

/-- The characters before the first piece that is none, and that piece with its position. -/
def decodePieces (position : Nat) (read : List Char) : List Piece → Except Malformed (List Char)
  | [] => .ok read.reverse
  | .char c :: rest => decodePieces (position + (Piece.char c).size) (c :: read) rest
  | .malformed n :: _ => .error ⟨position, some n⟩
  | .unfinished _ :: _ => .error ⟨position, none⟩

/-- The text, if every piece is a character. -/
def decode (octets : Octets) : Except Malformed (List Char) :=
  decodePieces 0 [] (pieces octets)

end Utf8

/-- The octets of a text. -/
def octetsOf (s : String) : Octets :=
  Utf8.encode s.toList

end FractalArchive
