import FractalArchive.Json.Skip

/-!
# The grammar of JSON texts

JSON texts as they are written: string literals with each escape that a writer may choose
(`Literal`), number literals with their fractions and exponents (`Decimal`), and values nested to
any depth (`Value`).  A value is a row of tokens (`Value.tokens`), and a text lays tokens out with
any white space before, between and after them (`Laid`).

A string literal need not stand for a text, since it may hold one half of a pair of escapes alone
(`Literal.text?`).
-/

namespace FractalArchive.Json

/-! ### String literals -/

/-- A hexadecimal digit, in one of its two cases. -/
structure HexDigit where
  value : Fin 16
  capital : Bool
  deriving DecidableEq, Repr

/-- The octet of a digit. -/
def HexDigit.octet (d : HexDigit) : UInt8 :=
  UInt8.ofNat (if d.value < 10 then 0x30 + d.value
    else if d.capital then 0x41 + (d.value - 10) else 0x61 + (d.value - 10))

/-- A code unit, as it is written in an escape. -/
structure CodeUnit where
  first : HexDigit
  second : HexDigit
  third : HexDigit
  fourth : HexDigit
  deriving DecidableEq, Repr

namespace CodeUnit

/-- The number of a code unit. -/
def value (u : CodeUnit) : Nat :=
  4096 * u.first.value + 256 * u.second.value + 16 * u.third.value + u.fourth.value

/-- The four digits. -/
def digits (u : CodeUnit) : Octets :=
  [u.first.octet, u.second.octet, u.third.octet, u.fourth.octet]

/-- The character of two code units, of which the first begins a pair and the second ends it. -/
def pair (high low : CodeUnit) : Char :=
  Char.ofNat (0x10000 + 0x400 * (high.value - 0xD800) + (low.value - 0xDC00))

end CodeUnit

/-- The characters that have an escape of one letter. -/
inductive ShortEscape where
  | quote
  | backslash
  | slash
  | backspace
  | formFeed
  | lineFeed
  | carriageReturn
  | tab
  deriving DecidableEq, Repr

namespace ShortEscape

/-- The letter behind the backslash. -/
def letter : ShortEscape → Char
  | quote => '\x22'
  | backslash => '\\'
  | slash => '/'
  | backspace => 'b'
  | formFeed => 'f'
  | lineFeed => 'n'
  | carriageReturn => 'r'
  | tab => 't'

/-- The character for which the escape stands. -/
def char : ShortEscape → Char
  | quote => '\x22'
  | backslash => '\\'
  | slash => '/'
  | backspace => '\x08'
  | formFeed => '\x0c'
  | lineFeed => '\n'
  | carriageReturn => '\r'
  | tab => '\t'

end ShortEscape

/-- A part of a string literal. -/
inductive Element where
  /-- A character as it is. -/
  | plain (c : Char) (unescaped : c ≠ '\x22' ∧ c ≠ '\\' ∧ 0x20 ≤ c.toNat)
  | short (e : ShortEscape)
  /-- An escape with four digits. -/
  | unit (u : CodeUnit)
  deriving DecidableEq, Repr

/-- The octets of a part. -/
def Element.octets : Element → Octets
  | plain c _ => String.utf8EncodeChar c
  | short e => [code '\\', code e.letter]
  | unit u => code '\\' :: code 'u' :: u.digits

/-- A string literal: what stands between the quotes. -/
abbrev Literal := List Element

namespace Literal

/-- What stands between the quotes. -/
def inside (l : Literal) : Octets :=
  l.flatMap Element.octets

/-- A string literal with its quotes. -/
def octets (l : Literal) : Octets :=
  code '\x22' :: (l.inside ++ [code '\x22'])

/-- The text for which a literal stands, unless a code unit that begins or ends a pair stands
alone. -/
def text? : Literal → Option (List Char)
  | [] => some []
  | .plain c _ :: rest => (text? rest).map (c :: ·)
  | .short e :: rest => (text? rest).map (e.char :: ·)
  | .unit u :: rest =>
    if isTrailing u.value then none
    else if isLeading u.value then
      match rest with
      | .unit v :: rest =>
        if isTrailing v.value then (text? rest).map (CodeUnit.pair u v :: ·) else none
      | _ => none
    else (text? rest).map (Char.ofNat u.value :: ·)

end Literal

/-! ### Number literals -/

/-- A row of digits. -/
structure Digits where
  octets : Octets
  nonempty : octets ≠ []
  digits : ∀ o ∈ octets, isDigit o = true

/-- The part of a number literal that says by which power of ten it is scaled. -/
structure Exponent where
  capital : Bool
  /-- The sign, which may be left out. -/
  sign : Option Bool
  digits : Digits

/-- The octets of an exponent. -/
def Exponent.octets (e : Exponent) : Octets :=
  code (if e.capital then 'E' else 'e') ::
    ((e.sign.elim [] fun negative => [code (if negative then '-' else '+')]) ++ e.digits.octets)

/-- A number literal. -/
structure Decimal where
  negative : Bool
  /-- The number before the point. -/
  whole : Nat
  fraction : Option Digits
  exponent : Option Exponent

namespace Decimal

/-- What stands behind the digits before the point. -/
def scale (n : Decimal) : Octets :=
  n.fraction.elim [] (fun digits => code '.' :: digits.octets) ++
    n.exponent.elim [] Exponent.octets

/-- The digits before the point. -/
def wholeDigits (n : Decimal) : Octets :=
  (Nat.toDigits 10 n.whole).map code

/-- The octets of a number literal. -/
def octets (n : Decimal) : Octets :=
  (if n.negative then [code '-'] else []) ++ (n.wholeDigits ++ n.scale)

/-- The integer that a literal without fraction and exponent is, if it has a 64-bit integer with a
sign and is no zero with one. -/
def int? (n : Decimal) : Option Int :=
  if n.fraction.isSome ∨ n.exponent.isSome then none
  else if n.negative then
    if 0 < n.whole ∧ n.whole ≤ 9223372036854775808 then some (-n.whole) else none
  else if n.whole ≤ 9223372036854775807 then some n.whole else none

end Decimal

/-! ### Values -/

/-- The words that are values. -/
inductive Word where
  | null
  | boolean (b : Bool)
  deriving DecidableEq, Repr

/-- The letters of a word. -/
def Word.letters : Word → List Char
  | null => ['n', 'u', 'l', 'l']
  | boolean true => ['t', 'r', 'u', 'e']
  | boolean false => ['f', 'a', 'l', 's', 'e']

/-- A value. -/
inductive Value where
  | word (w : Word)
  | number (n : Decimal)
  | string (l : Literal)
  | list (items : List Value)
  | object (members : List (Literal × Value))

namespace Value

/-- The integer that a value is. -/
def int? : Value → Option Int
  | number n => n.int?
  | _ => none

/-- The text that a value is. -/
def text? : Value → Option String
  | string l => l.text?.map String.ofList
  | _ => none

/-- What stands before an item: a comma, unless it is the first. -/
def separator (comma : Bool) : List Octets :=
  if comma then [[code ',']] else []

mutual

/-- The tokens of a value. -/
def tokens : Value → List Octets
  | word w => [w.letters.map code]
  | number n => [n.octets]
  | string l => [l.octets]
  | list items => [code '['] :: (itemTokens false items ++ [[code ']']])
  | object members => [code '\x7b'] :: (memberTokens false members ++ [[code '\x7d']])

/-- The tokens of the items of a list. -/
def itemTokens (comma : Bool) : List Value → List Octets
  | [] => []
  | v :: rest => separator comma ++ (v.tokens ++ itemTokens true rest)

/-- The tokens of the members of an object. -/
def memberTokens (comma : Bool) : List (Literal × Value) → List Octets
  | [] => []
  | (l, v) :: rest =>
    separator comma ++ (l.octets :: [code ':'] :: (v.tokens ++ memberTokens true rest))

end

end Value

/-! ### Layout -/

/-- A text consists of these tokens with white space around them. -/
inductive Laid : List Octets → Octets → Prop where
  | blank {blanks : Octets} (blank : ∀ o ∈ blanks, Cursor.isBlankOctet o = true) : Laid [] blanks
  | token {blanks : Octets} (blank : ∀ o ∈ blanks, Cursor.isBlankOctet o = true) (token : Octets)
      {tokens : List Octets} {rest : Octets} (others : Laid tokens rest) :
      Laid (token :: tokens) (blanks ++ (token ++ rest))

/-- Tokens with the same white space before each of them and behind the last one. -/
def layOut (blanks : Octets) (tokens : List Octets) : Octets :=
  tokens.flatMap (blanks ++ ·) ++ blanks

theorem laid_layOut {blanks : Octets} (blank : ∀ o ∈ blanks, Cursor.isBlankOctet o = true)
    (tokens : List Octets) : Laid tokens (layOut blanks tokens) := by
  induction tokens with
  | nil => exact .blank blank
  | cons token tokens ih =>
      have first : layOut blanks (token :: tokens) =
          blanks ++ (token ++ layOut blanks tokens) := by
        simp [layOut]
      rw [first]
      exact .token blank token ih

end FractalArchive.Json
