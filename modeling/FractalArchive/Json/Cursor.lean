import FractalArchive.Number.Notation
import FractalArchive.Text.Hex
import FractalArchive.Text.Quoted

/-!
# Reading positions in JSON texts

A cursor is the number of octets read and the octets that are left.  A fault is a cause with the
number of octets before its place, from which the line and the column follow.
-/

namespace FractalArchive.Json

/-- What stands where a value of another type is wanted. -/
inductive Unexpected where
  | null
  | boolean (b : Bool)
  | integer (n : Int)
  | real (negative : Bool) (x : Number.Binary64)
  | string (s : String)
  | sequence
  | map
  deriving DecidableEq, Repr

/-- How doubles are written in messages. -/
def realStyle : Number.Style := ⟨-5, 15, false⟩

/-- The text of a double. -/
def realText (negative : Bool) (x : Number.Binary64) : String :=
  let digits := if x.significand = 0 then ['0', '.', '0'] else realStyle.write x.shortest
  String.ofList (if negative then '-' :: digits else digits)

/-- What a message says of a value. -/
def Unexpected.message : Unexpected → String
  | .null => "null"
  | .boolean b => s!"boolean `{b}`"
  | .integer n => s!"integer `{n}`"
  | .real negative x => "floating point `" ++ realText negative x ++ "`"
  | .string s => "string " ++ Text.Quoted.quote s
  | .sequence => "sequence"
  | .map => "map"

/-- Why a text is refused. -/
inductive Cause where
  | eofList
  | eofObject
  | eofString
  | eofValue
  | expectedColon
  | expectedListCommaOrEnd
  | expectedObjectCommaOrEnd
  | expectedIdent
  | expectedValue
  | invalidEscape
  | invalidNumber
  | numberOutOfRange
  | invalidCodePoint
  | controlCharacter
  | keyMustBeString
  | loneSurrogate
  | trailingComma
  | trailingCharacters
  | endOfHexEscape
  | invalidType (found : Unexpected) (expected : String)
  | invalidValue (found : Unexpected) (expected : String)
  | invalidLength (length : Nat) (expected : String)
  | missingField (name : String)
  | duplicateField (name : String)
  deriving DecidableEq, Repr

/-- The kinds of causes. -/
inductive Category where
  | grammar
  | data
  | eof
  deriving DecidableEq, Repr

namespace Cause

/-- The kind of a cause. -/
def category : Cause → Category
  | .eofList | .eofObject | .eofString | .eofValue => .eof
  | .invalidType _ _ | .invalidValue _ _ | .invalidLength _ _ | .missingField _
  | .duplicateField _ => .data
  | _ => .grammar

/-- What a message says of a cause. -/
def message : Cause → String
  | .eofList => "EOF while parsing a list"
  | .eofObject => "EOF while parsing an object"
  | .eofString => "EOF while parsing a string"
  | .eofValue => "EOF while parsing a value"
  | .expectedColon => "expected `:`"
  | .expectedListCommaOrEnd => "expected `,` or `]`"
  | .expectedObjectCommaOrEnd => "expected `,` or `\x7d`"
  | .expectedIdent => "expected ident"
  | .expectedValue => "expected value"
  | .invalidEscape => "invalid escape"
  | .invalidNumber => "invalid number"
  | .numberOutOfRange => "number out of range"
  | .invalidCodePoint => "invalid unicode code point"
  | .controlCharacter => "control character (\\u0000-\\u001F) found while parsing a string"
  | .keyMustBeString => "key must be a string"
  | .loneSurrogate => "lone leading surrogate in hex escape"
  | .trailingComma => "trailing comma"
  | .trailingCharacters => "trailing characters"
  | .endOfHexEscape => "unexpected end of hex escape"
  | .invalidType found expected => "invalid type: " ++ found.message ++ ", expected " ++ expected
  | .invalidValue found expected => "invalid value: " ++ found.message ++ ", expected " ++ expected
  | .invalidLength length expected => s!"invalid length {length}, expected " ++ expected
  | .missingField name => s!"missing field `{name}`"
  | .duplicateField name => s!"duplicate field `{name}`"

end Cause

/-- A cause with the number of octets before its place. -/
structure Fault where
  cause : Cause
  index : Nat
  deriving DecidableEq, Repr

/-- The line and the column after one more octet. -/
def Fault.placeAfter (place : Nat × Nat) (o : UInt8) : Nat × Nat :=
  if o == 0x0A then (place.1 + 1, 0) else (place.1, place.2 + 1)

/-- The line and the column of a place: lines count from 1, columns are octets since the last line
feed. -/
def Fault.place (input : Octets) (index : Nat) : Nat × Nat :=
  (input.take index).foldl Fault.placeAfter (1, 0)

/-- What a message says of a fault in an input. -/
def Fault.message (input : Octets) (f : Fault) : String :=
  let (line, column) := Fault.place input f.index
  f.cause.message ++ s!" at line {line} column {column}"

/-- Octets read and octets left. -/
structure Cursor where
  index : Nat
  rest : Octets
  deriving DecidableEq, Repr

namespace Cursor

/-- The cursor after some more octets. -/
def advance (c : Cursor) (n : Nat) : Cursor :=
  ⟨c.index + n, c.rest.drop n⟩

/-- A fault at the cursor. -/
def fault (c : Cursor) (cause : Cause) : Fault :=
  ⟨cause, c.index⟩

/-- A fault after the next octet, or at the end. -/
def peekFault (c : Cursor) (cause : Cause) : Fault :=
  ⟨cause, if c.rest.isEmpty then c.index else c.index + 1⟩

/-- White space between tokens. -/
def isBlankOctet (o : UInt8) : Bool :=
  o == 0x20 || o == 0x0A || o == 0x09 || o == 0x0D

/-- The cursor at the next octet that is not white space. -/
def skipBlanks (c : Cursor) : Cursor :=
  c.advance (c.rest.takeWhile isBlankOctet).length

/-- The next octet. -/
def peek? (c : Cursor) : Option UInt8 :=
  c.rest.head?

end Cursor

/-- The code of an ASCII character. -/
def code (c : Char) : UInt8 :=
  UInt8.ofNat c.toNat

/-- Whether an octet is a decimal digit. -/
def isDigit (o : UInt8) : Bool :=
  0x30 ≤ o && o ≤ 0x39

end FractalArchive.Json
