import FractalArchive.Number.Notation
import FractalArchive.Text.Utf8

/-!
# Cells

The values that a database keeps.  A text column turns numbers into texts (`Cell.asText`); a key
column turns texts and doubles into integers where they denote one (`Cell.asInteger?`).
-/

namespace FractalArchive

open Number

/-- A value in a database. -/
inductive Cell where
  | null
  | integer (n : Int)
  | real (x : Binary64)
  | text (s : String)
  /-- A text whose octets are not UTF-8. -/
  | malformed (octets : Octets)
  | blob (octets : Octets)
  deriving DecidableEq, Repr

namespace Cell

/-- The types of values. -/
inductive Kind where
  | null
  | integer
  | real
  | text
  | blob
  deriving DecidableEq, Repr

/-- The type of a value. -/
def kind : Cell → Kind
  | .null => .null
  | .integer _ => .integer
  | .real _ => .real
  | .text _ => .text
  | .malformed _ => .text
  | .blob _ => .blob

/-- The name of a type. -/
def Kind.name : Kind → String
  | .null => "Null"
  | .integer => "Integer"
  | .real => "Real"
  | .text => "Text"
  | .blob => "Blob"

/-- The cell of a text given by its octets. -/
def ofOctets (octets : Octets) : Cell :=
  match Utf8.decode octets with
  | .ok cs => .text (String.ofList cs)
  | .error _ => .malformed octets

/-- How a double is turned into a text: positionally from `0.0001` to below `10 ^ 15`. -/
def realStyle : Style := ⟨-4, 14, true⟩

/-- The text of a double, with fifteen significant digits; zero has no sign. -/
def realText (x : Binary64) : String :=
  if x.significand = 0 then "0.0"
  else
    let (a, b) := x.magnitude
    let digits := realStyle.write (significant 15 a b)
    String.ofList (if x.negative then '-' :: digits else digits)

/-- What a text column makes of a value. -/
def asText : Cell → Cell
  | .integer n => .text (toString n)
  | .real x => .text (realText x)
  | other => other

/-- What an explicit conversion to text makes of a value: also a blob is read as text. -/
def castText : Cell → Cell
  | .blob octets => ofOctets octets
  | other => other.asText

/-- The least 64-bit integer. -/
def leastInteger : Int := -9223372036854775808

/-- The greatest 64-bit integer. -/
def greatestInteger : Int := 9223372036854775807

/-- A blank of numerals: space, tab, line feed, vertical tab, form feed, carriage return. -/
def isNumeralBlank (c : Char) : Bool :=
  c = ' ' ∨ (0x09 ≤ c.toNat ∧ c.toNat ≤ 0x0D)

/-- The value of decimal digits. -/
def digitsValue (digits : List Char) : Nat :=
  digits.foldl (fun n c => 10 * n + (c.toNat - '0'.toNat)) 0

/-- What a numeral denotes: a sign, digits, and a power of ten; `exact` when it has neither point
nor exponent. -/
structure Numeral where
  negative : Bool
  digits : Nat
  power : Int
  exact : Bool
  deriving DecidableEq, Repr

/-- The exponent after `e`: a sign and digits, and nothing else. -/
def readExponent (cs : List Char) : Option Int :=
  let (negative, digits) := match cs with
    | '-' :: rest => (true, rest)
    | '+' :: rest => (false, rest)
    | _ => (false, cs)
  if digits ≠ [] ∧ digits.all Char.isDigit then
    some (if negative then -(digitsValue digits : Int) else digitsValue digits)
  else none

/-- The numeral that a text consists of, blanks around it aside. -/
def readNumeral (cs : List Char) : Option Numeral :=
  let cs := (cs.dropWhile isNumeralBlank).reverse.dropWhile isNumeralBlank |>.reverse
  let (negative, cs) := match cs with
    | '-' :: rest => (true, rest)
    | '+' :: rest => (false, rest)
    | _ => (false, cs)
  let whole := cs.takeWhile Char.isDigit
  let rest := cs.dropWhile Char.isDigit
  let (pointed, fraction, rest) := match rest with
    | '.' :: more => (true, more.takeWhile Char.isDigit, more.dropWhile Char.isDigit)
    | _ => (false, [], rest)
  if whole.isEmpty && fraction.isEmpty then none
  else
    let digits := digitsValue (whole ++ fraction)
    match rest with
    | [] => some ⟨negative, digits, -fraction.length, !pointed⟩
    | c :: exponent =>
      if c = 'e' ∨ c = 'E' then
        (readExponent exponent).map fun e => ⟨negative, digits, e - fraction.length, false⟩
      else none

/-- The value of a numeral as a 64-bit integer or as a double. -/
def Numeral.cell (x : Numeral) : Cell :=
  let whole : Int := if x.negative then -(x.digits : Int) else x.digits
  if x.exact && leastInteger ≤ whole && whole ≤ greatestInteger then .integer whole
  else if x.power < -400 then .real ⟨x.negative, 0, 0⟩
  else
    let (a, b) := scale x.digits 1 (min x.power 400)
    match Binary64.nearest x.negative a b with
    | some d => .real d
    | none => .null

/-- The integer that a double denotes, if it is well within 64 bits. -/
def integerOf (x : Binary64) : Option Int :=
  match x.toInt? with
  | some n => if leastInteger < n ∧ n < greatestInteger then some n else none
  | none => none

/-- What a column of integers makes of a value: texts that are numerals become numbers, and
doubles that are integers become integers. -/
def asInteger (c : Cell) : Cell :=
  let number : Cell := match c with
    | .text s => match readNumeral s.toList with
      | some x => match x.cell with
        | .null => c
        | n => n
      | none => c
    | other => other
  match number with
  | .real x => match integerOf x with
    | some n => .integer n
    | none => number
  | other => other

/-- The integer that a value denotes in a column of integers, if any. -/
def asInteger? (c : Cell) : Option Int :=
  match c.asInteger with
  | .integer n => some n
  | _ => none

end Cell

end FractalArchive
