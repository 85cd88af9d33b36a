import FractalArchive.Number.Scientific

/-!
# Doubles

The finite doubles as `± significand · 2 ^ exponent`, the double nearest to a quotient (a tie goes
to the even significand), and the shortest decimal digits that read back as a double.
-/

namespace FractalArchive.Number

/-- A finite double. -/
structure Binary64 where
  negative : Bool
  /-- Less than `2 ^ 53`. -/
  significand : Nat
  /-- At least `-1074`. -/
  exponent : Int
  deriving DecidableEq, Repr

namespace Binary64

/-- Zero. -/
def zero : Binary64 := ⟨false, 0, 0⟩

/-- The nearest integer to `num / den`; a half goes to the even one. -/
def roundHalfEven (num den : Nat) : Nat :=
  let q := num / den
  let r := num % den
  if 2 * r < den then q
  else if den < 2 * r then q + 1
  else if q % 2 = 0 then q else q + 1

/-- The quotient `num / den` times `2 ^ k`. -/
def shift (num den : Nat) (k : Int) : Nat × Nat :=
  if 0 ≤ k then (num * Nat.pow 2 k.toNat, den) else (num, den * Nat.pow 2 (-k).toNat)

/-- The greatest `e` with `2 ^ e ≤ num / den`, both being positive. -/
def floorLog2 (num den : Nat) : Int :=
  let e := (num.log2 : Int) - den.log2
  let (a, b) := shift num den (-e)
  if b ≤ a then e else e - 1

/-- The least significand of a double that is not among the smallest, `2 ^ 52`. -/
def leastNormal : Nat := 4503599627370496

/-- The double nearest to `num / den`, if it is finite. -/
def nearest (negative : Bool) (num den : Nat) : Option Binary64 :=
  if num = 0 then some ⟨negative, 0, 0⟩
  else
    let q := max (floorLog2 num den - 52) (-1074)
    let (a, b) := shift num den (-q)
    let m := roundHalfEven a b
    let (m, q) := if m = 2 * leastNormal then (leastNormal, q + 1) else (m, q)
    if q ≤ 971 then some ⟨negative, m, q⟩ else none

/-- The absolute value as a quotient. -/
def magnitude (x : Binary64) : Nat × Nat :=
  shift x.significand 1 x.exponent

/-- The value, if it is an integer. -/
def toInt? (x : Binary64) : Option Int :=
  let (a, b) := x.magnitude
  if a % b = 0 then some (if x.negative then -((a / b : Nat) : Int) else ((a / b : Nat) : Int))
  else none

/-- Whether the quotient `num / den` reads back as the double: it lies between the midpoints to
the neighbours, the midpoints included iff the significand is even. -/
def readsBack (x : Binary64) (num den : Nat) : Bool :=
  let (a, b) := x.magnitude
  -- a quarter of the distance between neighbours above, as `u / v`
  let (u, v) := shift 1 4 x.exponent
  let narrow := x.significand = leastNormal ∧ -1074 < x.exponent
  let below := if narrow then 1 else 2
  let even := x.significand % 2 = 0
  -- num / den ≤ a / b + 2 u / v  and  a / b ≤ num / den + below u / v
  let above₁ := num * b * v
  let above₂ := (a * v + 2 * u * b) * den
  let below₁ := a * den * v
  let below₂ := (num * v + below * u * den) * b
  (above₁ < above₂ || (above₁ == above₂ && even)) && (below₁ < below₂ || (below₁ == below₂ && even))

/-- The nearer of the two neighbours of the value on the grid of `n` digits that reads back; a tie
goes to the even one. -/
def onGrid (x : Binary64) (e : Int) (n : Nat) : Option Scientific :=
  let (a, b) := x.magnitude
  let k := (n : Int) - 1 - e
  let (c, d) := scale a b k
  let low := c / d
  let attempt (m : Nat) : Option Scientific :=
    let (p, q) := scale m 1 (-k)
    if m ≠ 0 ∧ x.readsBack p q then
      let ds := digitsOf m
      some ⟨trimZeros ds, ((ds.length : Int) - 1) - k⟩
    else none
  let nearer := roundHalfEven c d
  let farther := if nearer = low then low + 1 else low
  (attempt nearer).or (attempt farther)

/-- The shortest digits that read back as a double other than zero. -/
def shortest (x : Binary64) : Scientific :=
  let (a, b) := x.magnitude
  let e := floorLog10 a b
  match (List.range 17).findSome? fun n => x.onGrid e (n + 1) with
  | some s => s
  | none => significant 17 a b

end Binary64

end FractalArchive.Number
