/-!
# Draws

A generator is a sequence of 32-bit words of which some have been used.  `Generator.below` turns
its words into a number below a bound: the upper half of the product of a number and the bound,
raised by one when the product of a second number carries into it.  The numbers are single words
for a bound of one word, and pairs of words for any other.

What is drawn from a list is taken out of it (`takeOut`).
-/

namespace FractalArchive

/-- A sequence of words. -/
structure Generator where
  /-- The word at a position. -/
  word : Nat → UInt32
  /-- The number of words used. -/
  used : Nat

namespace Generator

/-- The next word and the generator after it. -/
def next (g : Generator) : UInt32 × Generator :=
  (g.word g.used, { g with used := g.used + 1 })

/-- The generator that repeats a list of words; an empty list counts as the word 0. -/
def cycle (words : List UInt32) : Generator :=
  let words := words.toArray
  ⟨fun i => words.getD (i % words.size) 0, 0⟩

/-- The number of words. -/
def wordCount : Nat := 4294967296

/-- The number of pairs of words. -/
def pairCount : Nat := wordCount * wordCount

/-- The next word as a number. -/
def drawWord (g : Generator) : Nat × Generator :=
  let (w, g) := g.next
  (w.toNat, g)

/-- The next two words as a number, the first of them being its lower half. -/
def drawPair (g : Generator) : Nat × Generator :=
  let (low, g) := g.drawWord
  let (high, g) := g.drawWord
  (high * wordCount + low, g)

/-- A number below the bound, from draws of numbers below the size. -/
def scale (size : Nat) (draw : Generator → Nat × Generator) (bound : Nat) (g : Generator) :
    Nat × Generator :=
  let (x, g) := draw g
  let product := x * bound
  let high := product / size
  let low := product % size
  if size - bound < low then
    let (y, g) := draw g
    (if size ≤ low + y * bound / size then high + 1 else high, g)
  else (high, g)

/-- A number below the bound, which is at most `pairCount`. -/
def below (bound : Nat) (g : Generator) : Nat × Generator :=
  if bound < wordCount then scale wordCount drawWord bound g
  else scale pairCount drawPair bound g

end Generator

/-- Takes the element at a place out of a list, where the last element takes its place; no element
is at a place that is not before the end. -/
def takeOut {α : Type} (i : Nat) (l : List α) : Option (α × List α) :=
  match l[i]?, l.getLast? with
  | some a, some last => some (a, (l.set i last).dropLast)
  | _, _ => none

end FractalArchive
