import FractalArchive.Service.Draw
import FractalArchive.Work

/-!
# The service

The operations that are offered on the records, each a piece of work in one session: they are the
repository's, and adding, listing and picking are reported.  A pick takes the record at a drawn
place of the listing.
-/

namespace FractalArchive.Service

/-- Adds a draft; the answer is its id. -/
def add (d : Draft) : Work RepositoryError Int := fun c =>
  match Repository.add d c with
  | (.ok id, c') =>
    ⟨.returned (.ok id), c', [.recordAdded id d.name.length d.state.length]⟩
  | (.error e, c') => ⟨.returned (.error e), c', []⟩

/-- The record of an id. -/
def find? (id : Int) : Work RepositoryError (Option Record) :=
  Work.ofRead (Repository.find? id)

/-- All records in the order of their ids. -/
def list : Work RepositoryError (List Record) := fun c =>
  match Repository.list c with
  | .ok records => ⟨.returned (.ok records), c, [.recordsListed records.length]⟩
  | .error e => ⟨.returned (.error e), c, []⟩

/-- The number of rows. -/
def count : Work RepositoryError Nat :=
  Work.ofRead Repository.count

/-- What a panic says of a place that is not before the end of a listing. -/
def outside (i length : Nat) : String :=
  s!"place {i} is outside of a listing of {length}"

/-- One record, drawn from all; none when nothing is stored.  The answer comes with the generator
after the draw, and an empty listing draws nothing.  The record is taken out of the listing, and
the report counts it with those that are left. -/
def pick (g : Generator) : Work RepositoryError (Option Record × Generator) := fun c =>
  match Repository.list c with
  | .error e => ⟨.returned (.error e), c, []⟩
  | .ok [] => ⟨.returned (.ok (none, g)), c, [.nothingPicked]⟩
  | .ok records =>
    let (i, g) := g.below records.length
    match takeOut i records with
    | some (picked, left) =>
      ⟨.returned (.ok (some picked, g)), c, [.recordPicked picked.id (left.length + 1)]⟩
    | none => ⟨.panicked (outside i records.length), c, []⟩

/-- Several picks in one session, one after another; the first error ends them. -/
def picks : Nat → Generator → Work RepositoryError (List (Option Record) × Generator)
  | 0, g => fun c => ⟨.returned (.ok ([], g)), c, []⟩
  | n + 1, g => fun c =>
    let one := pick g c
    match one.outcome with
    | .returned (.ok (picked, g)) =>
      let rest := picks n g one.connection
      match rest.outcome with
      | .returned (.ok (more, g)) =>
        ⟨.returned (.ok (picked :: more, g)), rest.connection, one.events ++ rest.events⟩
      | other => ⟨other, rest.connection, one.events ++ rest.events⟩
    | .returned (.error e) => ⟨.returned (.error e), one.connection, one.events⟩
    | .panicked message => ⟨.panicked message, one.connection, one.events⟩

end FractalArchive.Service
