/-!
# Records

A record is a saved fractal: an id, a name and a state, which is a text of the renderer that the
archive does not read.  A draft is a record before it has an id.  The lengths of both texts are
limited, counted in characters; the name is checked before the state.
-/

namespace FractalArchive

/-- A saved fractal. -/
structure Record where
  /-- Given by the archive. -/
  id : Int
  name : String
  /-- The settings of the renderer, kept as they are. -/
  state : String
  deriving DecidableEq, Repr

/-- A fractal to be saved. -/
structure Draft where
  name : String
  state : String
  deriving DecidableEq, Repr

/-- The greatest number of characters in a name. -/
def maxNameChars : Nat := 256

/-- The greatest number of characters in a state. -/
def maxStateChars : Nat := 4096

/-- A text of a draft that is too long. -/
inductive Excess where
  | name (chars : Nat)
  | state (chars : Nat)
  deriving DecidableEq, Repr

/-- What a message says of a text that is too long. -/
def Excess.message : Excess → String
  | .name chars => s!"fractal name has {chars} chars; at most {maxNameChars} allowed"
  | .state chars => s!"fractal state has {chars} chars; at most {maxStateChars} allowed"

namespace Draft

/-- Checks the lengths; empty texts pass. -/
def check (d : Draft) : Except Excess Unit :=
  if d.name.length > maxNameChars then .error (.name d.name.length)
  else if d.state.length > maxStateChars then .error (.state d.state.length)
  else .ok ()

/-- A draft passes iff both texts are short enough. -/
theorem check_eq_ok_iff (d : Draft) :
    d.check = .ok () ↔ d.name.length ≤ maxNameChars ∧ d.state.length ≤ maxStateChars := by
  unfold check
  split <;> (try split) <;> simp <;> omega

/-- The record that a draft becomes under an id. -/
def withId (d : Draft) (id : Int) : Record :=
  ⟨id, d.name, d.state⟩

end Draft

end FractalArchive
