import FractalArchive.Proofs.Database.Appending
import FractalArchive.Proofs.Service.Drawing

/-!
# Operations of the service

Listing, looking up, counting and picking only read: they return, and leave the connection as it is
(`Work.Reads`).  Adding returns too; it leaves a database of the same version, and the database
itself if it fails (`add_works`).  With the operations as data, a run is a list of them, and every
one of them returns (`Operation.works`).
-/

namespace FractalArchive

/-! ### Work that reads -/

namespace Work

variable {ε α β : Type} {work : Work ε α} {c c' : Connection} {events : List Event}

/-- The work with another value. -/
def map (f : α → β) (work : Work ε α) : Work ε β := fun c =>
  let w := work c
  ⟨match w.outcome with
    | .returned result => .returned (result.map f)
    | .panicked message => .panicked message, w.connection, w.events⟩

theorem map_returned {result : Except ε α} (f : α → β)
    (h : work c = ⟨.returned result, c', events⟩) :
    work.map f c = ⟨.returned (result.map f), c', events⟩ := by
  unfold map
  rw [h]

/-- The work returns and leaves every connection as it is. -/
def Reads (work : Work ε α) : Prop :=
  ∀ c, ∃ result events, work c = ⟨.returned result, c, events⟩

theorem reads_ofRead (read : Connection → Except ε α) : (ofRead read).Reads :=
  fun c => ⟨read c, [], rfl⟩

theorem Reads.map (h : work.Reads) (f : α → β) : (work.map f).Reads := by
  intro c
  obtain ⟨result, events, e⟩ := h c
  exact ⟨result.map f, events, map_returned f e⟩

end Work

/-! ### The operations -/

namespace Service

/-- The record at the place that a generator draws among records, with the generator afterwards. -/
def pickFrom (g : Generator) : List Record → Option Record × Generator
  | [] => (none, g)
  | first :: rest =>
    let (i, g) := g.below (first :: rest).length
    (some ((first :: rest).getD i first), g)

theorem pickFrom_of_drawn {g : Generator} {records : List Record} {a : Record}
    (drawn : records[(g.below records.length).1]? = some a) :
    pickFrom g records = (some a, (g.below records.length).2) := by
  cases records with
  | nil => cases drawn
  | cons first rest =>
      unfold pickFrom
      simp only [List.getD_eq_getElem?_getD, drawn, Option.getD_some]

theorem mem_of_pickFrom {g g' : Generator} {records : List Record} {r : Record}
    (h : pickFrom g records = (some r, g')) : r ∈ records := by
  cases records with
  | nil => cases h
  | cons first rest =>
      have drawn : (first :: rest).getD (g.below (first :: rest).length).1 first = r :=
        Option.some.inj (Prod.mk.inj h).1
      rw [← drawn, List.getD_eq_getElem?_getD]
      cases e : (first :: rest)[(g.below (first :: rest).length).1]? with
      | none => exact List.mem_cons_self
      | some r' => exact List.mem_of_getElem? e

/-- **Listing** gives the listing of the repository. -/
theorem list_returned (c : Connection) :
    ∃ events, list c = ⟨.returned (Repository.list c), c, events⟩ := by
  unfold list
  cases Repository.list c with
  | ok records => exact ⟨_, rfl⟩
  | error e => exact ⟨_, rfl⟩

/-- **Picking** picks from the listing of the repository. -/
theorem pick_returned (g : Generator) (c : Connection) :
    ∃ events, pick g c = ⟨.returned ((Repository.list c).map (pickFrom g)), c, events⟩ := by
  cases listed : Repository.list c with
  | error e => exact ⟨_, by rw [pick, listed]; rfl⟩
  | ok records =>
      cases records with
      | nil => exact ⟨_, by rw [pick, listed]; rfl⟩
      | cons first rest =>
          obtain ⟨a, drawn, picked⟩ := pick_of_listed listed (List.cons_ne_nil first rest) g
          refine ⟨[.recordPicked a.id (first :: rest).length], ?_⟩
          rw [picked, Except.map, pickFrom_of_drawn drawn]

theorem reads_list : list.Reads := fun c =>
  have ⟨events, h⟩ := list_returned c
  ⟨_, events, h⟩

theorem reads_pick (g : Generator) : (pick g).Reads := fun c =>
  have ⟨events, h⟩ := pick_returned g c
  ⟨_, events, h⟩

/-- **Adding returns.**  A draft is added to the catalog, or the database stays as it is. -/
theorem add_works (draft : Draft) (d : Database) :
    ∃ result d' events, add draft ⟨.database d, false⟩ =
      ⟨.returned result, ⟨.database d', false⟩, events⟩ ∧ d'.userVersion = d.userVersion ∧
        ((∃ e, result = .error e) ∧ d' = d ∨ ∃ id, result = .ok id ∧
          d.catalog.insert .null (.text draft.name) (.text draft.state) =
            .ok (id, d'.catalog)) := by
  unfold add
  rcases Repository.add_cases draft ⟨.database d, false⟩ with
    ⟨e, refused⟩ | ⟨d₀, id, catalog, same, inserted, added⟩
  · rw [refused]
    exact ⟨_, d, _, rfl, rfl, .inl ⟨⟨e, rfl⟩, rfl⟩⟩
  · cases same
    rw [added]
    exact ⟨_, _, _, rfl, rfl, .inr ⟨id, rfl, inserted⟩⟩

/-! ### Operations as data -/

/-- An operation of the service. -/
inductive Operation where
  | add (draft : Draft)
  | list
  | find (id : Int)
  | count
  /-- A pick at the place that this generator draws. -/
  | pick (generator : Generator)

/-- What an operation returns. -/
inductive Reply where
  | added (id : Int)
  | listed (records : List Record)
  | found (record : Option Record)
  | counted (rows : Nat)
  | picked (record : Option Record)
  deriving DecidableEq, Repr

/-- The work of an operation. -/
def Operation.work : Operation → Work RepositoryError Reply
  | .add draft => (Service.add draft).map .added
  | .list => Service.list.map .listed
  | .find id => (Service.find? id).map .found
  | .count => Service.count.map .counted
  | .pick generator => (Service.pick generator).map fun (record, _) => .picked record

/-- An operation that adds no draft only reads. -/
theorem Operation.reads {operation : Operation} (h : ∀ draft, operation ≠ .add draft) :
    operation.work.Reads := by
  cases operation with
  | add draft => exact absurd rfl (h draft)
  | list => exact reads_list.map _
  | find id => exact (Work.reads_ofRead _).map _
  | count => exact (Work.reads_ofRead _).map _
  | pick generator => exact (reads_pick generator).map _

/-- **Every operation returns**, and leaves a database of the same version. -/
theorem Operation.works (operation : Operation) (d : Database) :
    ∃ result d' events, operation.work ⟨.database d, false⟩ =
      ⟨.returned result, ⟨.database d', false⟩, events⟩ ∧ d'.userVersion = d.userVersion := by
  by_cases adds : ∃ draft, operation = .add draft
  · obtain ⟨draft, rfl⟩ := adds
    obtain ⟨result, d', events, added, version, -⟩ := add_works draft d
    exact ⟨result.map .added, d', events, Work.map_returned _ added, version⟩
  · obtain ⟨result, events, e⟩ := reads (not_exists.mp adds) ⟨.database d, false⟩
    exact ⟨result, d, events, e, rfl⟩

end Service

end FractalArchive
