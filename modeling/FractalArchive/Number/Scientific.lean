/-!
# Decimal digits of a quotient

A positive quotient `num / den` is written with a given number of significant decimal digits: its
decimal exponent comes first (`floorLog10`), then the digits, rounded to nearest with a half going
away from zero (`significant`).
-/

namespace FractalArchive.Number

/-- Decimal digits with the exponent of the first one: `d.ddd · 10 ^ exponent`. -/
structure Scientific where
  /-- The digits, the first one first. -/
  digits : List Char
  exponent : Int
  deriving DecidableEq, Repr

/-- The decimal digits of a number. -/
def digitsOf (n : Nat) : List Char :=
  Nat.toDigits 10 n

/-- The nearest integer to `num / den`; a half goes up. -/
def roundHalfUp (num den : Nat) : Nat :=
  (2 * num + den) / (2 * den)

/-- The quotient `num / den` times `10 ^ k`. -/
def scale (num den : Nat) (k : Int) : Nat × Nat :=
  if 0 ≤ k then (num * Nat.pow 10 k.toNat, den) else (num, den * Nat.pow 10 (-k).toNat)

/-- The greatest `e` with `10 ^ e ≤ num / den`, both being positive. -/
def floorLog10 (num den : Nat) : Int :=
  let e := ((digitsOf num).length : Int) - (digitsOf den).length
  let (a, b) := scale num den (-e)
  if b ≤ a then e else e - 1

/-- The digits without the zeros at their end, one digit at least. -/
def trimZeros (digits : List Char) : List Char :=
  match (digits.reverse.dropWhile (· == '0')).reverse with
  | [] => ['0']
  | kept => kept

/-- The quotient `num / den` with `n` significant digits, zeros at the end left out. -/
def significant (n num den : Nat) : Scientific :=
  let e := floorLog10 num den
  let (a, b) := scale num den ((n : Int) - 1 - e)
  let q := roundHalfUp a b
  if q < Nat.pow 10 n then ⟨trimZeros (digitsOf q), e⟩ else ⟨['1'], e + 1⟩

end FractalArchive.Number
