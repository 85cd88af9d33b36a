/-!
# Blank characters

The characters with the Unicode property `White_Space`, and the removal of blanks at the ends of a
text.  What is left after trimming neither starts nor ends with a blank (`head?_trimStart`,
`getLast?_trimEnd`).
-/

namespace FractalArchive

/-- The Unicode property `White_Space`. -/
def isBlank (c : Char) : Bool :=
  let n := c.toNat
  (0x09 ≤ n && n ≤ 0x0D) || n == 0x20 || n == 0x85 || n == 0xA0 || n == 0x1680 ||
    (0x2000 ≤ n && n ≤ 0x200A) || n == 0x2028 || n == 0x2029 || n == 0x202F || n == 0x205F ||
    n == 0x3000

namespace Blank

/-- The characters from the first that is not blank. -/
def trimStart (cs : List Char) : List Char :=
  cs.dropWhile isBlank

/-- The characters up to the last that is not blank. -/
def trimEnd (cs : List Char) : List Char :=
  (cs.reverse.dropWhile isBlank).reverse

/-- The characters from the first to the last that are not blank. -/
def trim (cs : List Char) : List Char :=
  trimEnd (trimStart cs)

/-- The first character left at the start is not blank. -/
theorem head?_trimStart {cs : List Char} {c : Char} (h : (trimStart cs).head? = some c) :
    isBlank c = false := by
  induction cs with
  | nil => simp [trimStart] at h
  | cons d rest ih =>
    by_cases hd : isBlank d = true
    · rw [trimStart, List.dropWhile_cons_of_pos hd] at h
      exact ih h
    · rw [trimStart, List.dropWhile_cons_of_neg hd, List.head?_cons, Option.some.injEq] at h
      subst h
      simpa using hd

/-- The last character left at the end is not blank. -/
theorem getLast?_trimEnd {cs : List Char} {c : Char} (h : (trimEnd cs).getLast? = some c) :
    isBlank c = false := by
  rw [trimEnd, List.getLast?_reverse] at h
  exact head?_trimStart h

end Blank

/-- A text without the blanks at its two ends. -/
def trimmed (s : String) : String :=
  String.ofList (Blank.trim s.toList)

end FractalArchive
