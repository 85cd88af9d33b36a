/-!
# Fields

The fields of a form in the order they were submitted.  A key may occur more than once; a look-up
gives the first value under it.
-/

namespace FractalArchive

/-- Keys with their values, in order. -/
abbrev Fields := List (String × String)

namespace Fields

/-- The first value under a key. -/
def first (fields : Fields) (key : String) : Option String :=
  (fields.find? fun f => f.1 == key).map Prod.snd

/-- The first value under a key, unless it is empty. -/
def firstNonEmpty (fields : Fields) (key : String) : Option String :=
  (fields.first key).filter fun value => value != ""

/-- A field in front decides the first value under its key. -/
theorem first_cons_self (key value : String) (rest : Fields) :
    first ((key, value) :: rest) key = some value := by
  simp [first]

/-- A field in front does not matter for another key. -/
theorem first_cons_of_ne {key other : String} (h : key ≠ other) (value : String) (rest : Fields) :
    first ((key, value) :: rest) other = first rest other := by
  simp [first, h]

end Fields

end FractalArchive
