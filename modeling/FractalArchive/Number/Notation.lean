import FractalArchive.Number.Binary64

/-!
# Notations of doubles

Digits and an exponent are written out positionally while the exponent is small and with a mark
and the exponent otherwise.  The choices are one value, `Style`.
-/

namespace FractalArchive.Number

/-- How digits and an exponent are written. -/
structure Style where
  /-- The least exponent written positionally. -/
  least : Int
  /-- The greatest exponent written positionally. -/
  greatest : Int
  /-- Whether a single digit before the exponent mark is followed by `.0`. -/
  pointed : Bool
  deriving DecidableEq, Repr

namespace Style

/-- A number with two digits at least. -/
def twoDigits (n : Nat) : List Char :=
  if n < 10 then '0' :: digitsOf n else digitsOf n

/-- Digits with a point after the first `n` of them; `0` stands for none on either side. -/
def pointAfter (n : Nat) (digits : List Char) : List Char :=
  let whole := digits.take n
  let rest := digits.drop n
  (if whole.isEmpty then ['0'] else whole) ++ '.' :: (if rest.isEmpty then ['0'] else rest)

/-- Digits and an exponent in a style. -/
def write (style : Style) (s : Scientific) : List Char :=
  if style.least ≤ s.exponent ∧ s.exponent ≤ style.greatest then
    if 0 ≤ s.exponent then
      let n := s.exponent.toNat + 1
      pointAfter n (s.digits ++ List.replicate (n - s.digits.length) '0')
    else '0' :: '.' :: (List.replicate ((-s.exponent).toNat - 1) '0' ++ s.digits)
  else
    let mantissa :=
      if s.digits.length ≤ 1 ∧ ¬ style.pointed then s.digits else pointAfter 1 s.digits
    mantissa ++ 'e' :: (if s.exponent < 0 then '-' else '+') :: twoDigits s.exponent.natAbs

end Style

end FractalArchive.Number
