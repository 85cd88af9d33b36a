import FractalArchive.Json.Cursor

/-!
# Strings in JSON texts

A string is read piece by piece: octets that stand for themselves, escapes, and pairs of escapes
for characters beyond the basic plane.  The octets collected must be UTF-8 in the end.  A string
that does not count is only searched for its end.
-/

namespace FractalArchive.Json

/-- The next piece of a string: its end, some octets of it, or a fault; each with the number of
octets that it takes. -/
inductive Piece where
  | close
  | octets (value : Octets) (size : Nat)
  | fault (cause : Cause) (size : Nat)
  deriving DecidableEq, Repr

/-- The value of four hexadecimal digits. -/
def hex4? (a b c d : UInt8) : Option Nat :=
  match Hex.value? a.toNat, Hex.value? b.toNat, Hex.value? c.toNat, Hex.value? d.toNat with
  | some a, some b, some c, some d => some (4096 * a + 256 * b + 16 * c + d)
  | _, _, _, _ => none

/-- The octets of a code point. -/
def codePoint (n : Nat) : Octets :=
  String.utf8EncodeChar (Char.ofNat n)

/-- Whether a code unit ends a pair. -/
def isTrailing (n : Nat) : Bool := 0xDC00 ≤ n && n ≤ 0xDFFF

/-- Whether a code unit begins a pair. -/
def isLeading (n : Nat) : Bool := 0xD800 ≤ n && n ≤ 0xDBFF

/-- The escape that must follow one that begins a pair; `size` octets have been taken. -/
def secondEscape (high size : Nat) : Octets → Piece
  | [] => .fault .eofString size
  | o :: rest =>
    if o != code '\\' then .fault .endOfHexEscape (size + 1)
    else match rest with
      | [] => .fault .eofString (size + 1)
      | u :: rest =>
        if u != code 'u' then .fault .endOfHexEscape (size + 2)
        else match rest with
          | a :: b :: c :: d :: _ =>
            match hex4? a b c d with
            | none => .fault .invalidEscape (size + 6)
            | some low =>
              if isTrailing low then
                .octets (codePoint (0x10000 + 0x400 * (high - 0xD800) + (low - 0xDC00))) (size + 6)
              else .fault .loneSurrogate (size + 6)
          | short => .fault .eofString (size + 2 + short.length)

/-- The piece of an escape `\u`. -/
def hexEscape : Octets → Piece
  | a :: b :: c :: d :: rest =>
    match hex4? a b c d with
    | none => .fault .invalidEscape 6
    | some n =>
      if isTrailing n then .fault .loneSurrogate 6
      else if isLeading n then secondEscape n 6 rest
      else .octets (codePoint n) 6
  | short => .fault .eofString (2 + short.length)

/-- The octet of an escape by one letter. -/
def shortEscape? (o : UInt8) : Option UInt8 :=
  if o == code '\x22' || o == code '\\' || o == code '/' then some o
  else if o == code 'b' then some 0x08
  else if o == code 'f' then some 0x0C
  else if o == code 'n' then some 0x0A
  else if o == code 'r' then some 0x0D
  else if o == code 't' then some 0x09
  else none

/-- The next piece of a string. -/
def nextPiece : Octets → Piece
  | [] => .fault .eofString 0
  | o :: rest =>
    if o == code '\x22' then .close
    else if o == code '\\' then
      match rest with
      | [] => .fault .eofString 1
      | e :: rest =>
        match shortEscape? e with
        | some value => .octets [value] 2
        | none => if e == code 'u' then hexEscape rest else .fault .invalidEscape 2
    else if o < 0x20 then .fault .controlCharacter 1
    else .octets [o] 1

/-- The octets of a string up to its closing quote, after those read already, which come last one
first.  `fuel` is more than the number of octets left. -/
def readOctets : Nat → Octets → Cursor → Except Fault (Octets × Cursor)
  | 0, _, c => .error (c.fault .eofString)
  | fuel + 1, read, c =>
    match nextPiece c.rest with
    | .close => .ok (read.reverse, c.advance 1)
    | .octets value size => readOctets fuel (value.reverse ++ read) (c.advance size)
    | .fault cause size => .error ((c.advance size).fault cause)

/-- The string after its opening quote. -/
def readString (c : Cursor) : Except Fault (String × Cursor) :=
  match readOctets (c.rest.length + 1) [] c with
  | .error f => .error f
  | .ok (octets, c) =>
    match Utf8.decode octets with
    | .ok cs => .ok (String.ofList cs, c)
    | .error _ => .error (c.fault .invalidCodePoint)

/-- How many octets the next part of a string takes that does not count; none at its end. -/
def skipPiece : Octets → Piece
  | [] => .fault .eofString 0
  | o :: rest =>
    if o == code '\x22' then .close
    else if o == code '\\' then
      match rest with
      | [] => .fault .eofString 1
      | e :: rest =>
        if (shortEscape? e).isSome then .octets [] 2
        else if e == code 'u' then
          match rest with
          | a :: b :: c :: d :: _ =>
            if (hex4? a b c d).isSome then .octets [] 6 else .fault .invalidEscape 6
          | short => .fault .eofString (2 + short.length)
        else .fault .invalidEscape 2
    else if o < 0x20 then .fault .controlCharacter 0
    else .octets [] 1

/-- Passes a string up to its closing quote. -/
def skipOctets : Nat → Cursor → Except Fault Cursor
  | 0, c => .error (c.fault .eofString)
  | fuel + 1, c =>
    match skipPiece c.rest with
    | .close => .ok (c.advance 1)
    | .octets _ size => skipOctets fuel (c.advance size)
    | .fault cause size => .error ((c.advance size).fault cause)

/-- Passes a string after its opening quote. -/
def skipString (c : Cursor) : Except Fault Cursor :=
  skipOctets (c.rest.length + 1) c

end FractalArchive.Json
