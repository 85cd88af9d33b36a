import FractalArchive.Event

/-!
# Work on a connection

A piece of work changes the database of a connection, reports events, and returns a value, returns
an error or panics.
-/

namespace FractalArchive

/-- How a piece of work ends. -/
inductive Outcome (ε α : Type) where
  | returned (result : Except ε α)
  | panicked (message : String)

/-- What a piece of work leaves. -/
structure Worked (ε α : Type) where
  outcome : Outcome ε α
  connection : Connection
  events : List Event

/-- A piece of work on a connection. -/
abbrev Work (ε α : Type) := Connection → Worked ε α

namespace Work

/-- Work that reads and reports nothing. -/
def ofRead {ε α : Type} (read : Connection → Except ε α) : Work ε α := fun c =>
  ⟨.returned (read c), c, []⟩

/-- Work that panics at once. -/
def panic {ε α : Type} (message : String) : Work ε α := fun c =>
  ⟨.panicked message, c, []⟩

end Work

end FractalArchive
