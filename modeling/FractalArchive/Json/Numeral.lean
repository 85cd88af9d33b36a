import FractalArchive.Json.Cursor

/-!
# Numbers in JSON texts

A number without fraction and exponent is an integer as long as 64 bits hold it; any other number
is a double.  A double is made of at most 64 bits of its digits, scaled by rounded powers of ten.
-/

namespace FractalArchive.Json

open Number

/-- A number. -/
inductive Numeral where
  | integer (n : Int)
  | real (negative : Bool) (x : Binary64)
  deriving DecidableEq, Repr

namespace Numeral

/-- A number where a value of another type is wanted. -/
def unexpected : Numeral → Unexpected
  | .integer n => .integer n
  | .real negative x => .real negative x

/-- The least integer that 64 bits do not hold. -/
def limit : Nat := 18446744073709551616

/-- The absolute value of the least integer that 64 bits with a sign hold. -/
def signedLimit : Nat := 9223372036854775808

/-- The value of a digit. -/
def digitValue (o : UInt8) : Nat := o.toNat - 0x30

/-- Leading digits as far as 64 bits hold their value, and the digits after them. -/
def takeDigits (value : Nat) : Octets → Nat × Octets
  | [] => (value, [])
  | o :: rest =>
    let next := 10 * value + digitValue o
    if next < limit then takeDigits next rest else (value, o :: rest)

/-- A double times a power of ten that is rounded itself. -/
def multiply (x p : Binary64) : Option Binary64 :=
  let (a, b) := x.magnitude
  let (u, v) := p.magnitude
  Binary64.nearest false (a * u) (b * v)

/-- A double divided by a power of ten that is rounded itself. -/
def divide (x p : Binary64) : Binary64 :=
  let (a, b) := x.magnitude
  let (u, v) := p.magnitude
  (Binary64.nearest false (a * v) (b * u)).getD Binary64.zero

/-- The double nearest to a power of ten. -/
def powerOfTen (e : Nat) : Binary64 :=
  (Binary64.nearest false (Nat.pow 10 e) 1).getD Binary64.zero

/-- The greatest power of ten that is a double. -/
def maxPower : Nat := 308

/-- A double scaled by a power of ten; none if it gets too large.  Four rounds of division reach
zero from any double. -/
def scaled : Nat → Binary64 → Int → Option Binary64
  | fuel, x, e =>
    if e.natAbs ≤ maxPower then
      if 0 ≤ e then multiply x (powerOfTen e.natAbs) else some (divide x (powerOfTen e.natAbs))
    else if x.significand = 0 then some x
    else if 0 ≤ e then none
    else match fuel with
      | 0 => some Binary64.zero
      | fuel + 1 => scaled fuel (divide x (powerOfTen maxPower)) (e + maxPower)

/-- The number of a significand and a power of ten. -/
def ofParts (negative : Bool) (significand : Nat) (e : Int) (c : Cursor) :
    Except Fault (Numeral × Cursor) :=
  let x := (Binary64.nearest false significand 1).getD Binary64.zero
  match scaled 4 x e with
  | some x => .ok (.real negative x, c)
  | none => .error (c.fault .numberOutOfRange)

/-- The digits at a cursor, and the cursor after them. -/
def digitsAt (c : Cursor) : Octets × Cursor :=
  let digits := c.rest.takeWhile isDigit
  (digits, c.advance digits.length)

/-- The greatest exponent that is told apart. -/
def maxExponent : Nat := 2147483647

/-- How many digits of an exponent are read before its value exceeds the greatest. -/
def exponentPrefix (value read : Nat) : Octets → Option Nat
  | [] => none
  | o :: rest =>
    let next := 10 * value + digitValue o
    if maxExponent < next then some (read + 1) else exponentPrefix next (read + 1) rest

/-- The exponent after its mark. -/
def readExponent (negative : Bool) (significand : Nat) (start : Int) (c : Cursor) :
    Except Fault (Numeral × Cursor) :=
  let c := c.advance 1
  let (minus, c) := match c.peek? with
    | some o => if o == code '+' then (false, c.advance 1)
      else if o == code '-' then (true, c.advance 1) else (false, c)
    | none => (false, c)
  match c.peek? with
  | none => .error (c.fault .eofValue)
  | some o =>
    if !isDigit o then .error ((c.advance 1).fault .invalidNumber)
    else
      let (digits, after) := digitsAt c
      match exponentPrefix 0 0 digits with
      | some n =>
        if significand ≠ 0 ∧ ¬ minus then .error ((c.advance n).fault .numberOutOfRange)
        else .ok (.real negative Binary64.zero, after)
      | none =>
        let e : Int := (takeDigits 0 digits).1
        ofParts negative significand (if minus then start - e else start + e) after

/-- What follows the digits of a fraction. -/
def afterFraction (negative : Bool) (significand : Nat) (e : Int) (c : Cursor) :
    Except Fault (Numeral × Cursor) :=
  match c.peek? with
  | some o =>
    if o == code 'e' || o == code 'E' then readExponent negative significand e c
    else ofParts negative significand e c
  | none => ofParts negative significand e c

/-- The fraction after its point. -/
def readFraction (negative : Bool) (significand : Nat) (start : Int) (c : Cursor) :
    Except Fault (Numeral × Cursor) :=
  let c := c.advance 1
  let (digits, after) := digitsAt c
  let (value, dropped) := takeDigits significand digits
  if digits.isEmpty then
    .error (c.peekFault (if c.rest.isEmpty then .eofValue else .invalidNumber))
  else afterFraction negative value (start - ((digits.length - dropped.length : Nat) : Int)) after

/-- What follows the digits before the point. -/
def afterWhole (negative : Bool) (significand : Nat) (dropped : Nat) (c : Cursor) :
    Except Fault (Numeral × Cursor) :=
  let plain : Except Fault (Numeral × Cursor) :=
    if dropped ≠ 0 then ofParts negative significand dropped c
    else if !negative then .ok (.integer significand, c)
    else if significand = 0 ∨ signedLimit < significand then
      .ok (.real true ((Binary64.nearest false significand 1).getD Binary64.zero), c)
    else .ok (.integer (-(significand : Int)), c)
  match c.peek? with
  | none => plain
  | some o =>
    if o == code '.' then readFraction negative significand dropped c
    else if o == code 'e' || o == code 'E' then readExponent negative significand dropped c
    else plain

/-- The number after its sign. -/
def read (negative : Bool) (c : Cursor) : Except Fault (Numeral × Cursor) :=
  match c.rest with
  | [] => .error (c.fault .eofValue)
  | o :: rest =>
    if o == code '0' then
      let c := c.advance 1
      if (rest.head?.map isDigit).getD false then .error (c.peekFault .invalidNumber)
      else afterWhole negative 0 0 c
    else if isDigit o then
      let (digits, after) := digitsAt c
      let (value, dropped) := takeDigits 0 digits
      afterWhole negative value dropped.length after
    else .error ((c.advance 1).fault .invalidNumber)

/-- Passes the digits of an exponent after its mark. -/
def skipExponent (c : Cursor) : Except Fault Cursor :=
  let c := c.advance 1
  let c := match c.peek? with
    | some o => if o == code '+' || o == code '-' then c.advance 1 else c
    | none => c
  match c.peek? with
  | some o => if isDigit o then .ok (digitsAt c).2 else .error ((c.advance 1).fault .invalidNumber)
  | none => .error (c.fault .invalidNumber)

/-- Passes an exponent, if there is one. -/
def skipOptionalExponent (c : Cursor) : Except Fault Cursor :=
  match c.peek? with
  | some o => if o == code 'e' || o == code 'E' then skipExponent c else .ok c
  | none => .ok c

/-- Passes what follows the digits before the point. -/
def skipAfterWhole (c : Cursor) : Except Fault Cursor :=
  match c.peek? with
  | some o =>
    if o == code '.' then
      let c := c.advance 1
      let (digits, after) := digitsAt c
      if digits.isEmpty then .error (c.peekFault .invalidNumber) else skipOptionalExponent after
    else skipOptionalExponent c
  | none => .ok c

/-- Passes a number after its sign. -/
def skip (c : Cursor) : Except Fault Cursor :=
  match c.rest with
  | [] => .error (c.fault .invalidNumber)
  | o :: rest =>
    if o == code '0' then
      let c := c.advance 1
      if (rest.head?.map isDigit).getD false then .error (c.peekFault .invalidNumber)
      else skipAfterWhole c
    else if isDigit o then skipAfterWhole (digitsAt c).2
    else .error ((c.advance 1).fault .invalidNumber)

end Numeral

end FractalArchive.Json
