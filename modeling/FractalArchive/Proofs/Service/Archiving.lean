import FractalArchive.Proofs.Service.Operations
import Mathlib.Data.List.GetD

/-!
# Work on a table of the archive

A database *archives* records when its table is as the archive makes it, without constraints, and
consists of the rows of these records (`Database.Archives`).  Reading gives these records.  A draft
is refused only if it is too long or no id is left, and otherwise it becomes the last record, under
the next id (`Database.Archives.add`).

What adding returns and what is reported depends on the ids of the records and the lengths of the
draft's texts alone (`addition`, `additionEvents`, `pickEvents`).
-/

namespace FractalArchive

/-! ### The work of adding -/

namespace Service

variable {draft : Draft} {d : Database}

/-- A draft that is too long is refused before the database is touched. -/
theorem add_of_excess {cause : Excess} (h : draft.check = .error cause) (c : Connection) :
    add draft c = ⟨.returned (.error (.excess cause)), c, []⟩ := by
  unfold add
  rw [Repository.add_of_excess h]

/-- A draft that is short enough is added if the catalog takes it. -/
theorem add_of_inserted {id : Int} {catalog : Catalog} (h : draft.check = .ok ())
    (inserted : d.catalog.insert .null (.text draft.name) (.text draft.state) = .ok (id, catalog)) :
    add draft ⟨.database d, false⟩ = ⟨.returned (.ok id), ⟨.database { d with catalog }, false⟩,
      [.recordAdded id draft.name.length draft.state.length]⟩ := by
  unfold add
  rw [Repository.add_of_inserted h inserted]

/-- Nothing changes if the catalog refuses the draft. -/
theorem add_of_refused {e : SqlError} (h : draft.check = .ok ())
    (refused : d.catalog.insert .null (.text draft.name) (.text draft.state) = .error e) :
    add draft ⟨.database d, false⟩ =
      ⟨.returned (.error (.ofSql e)), ⟨.database d, false⟩, []⟩ := by
  unfold add
  rw [Repository.add_of_refused h refused]

end Service

/-! ### Additions to records -/

/-- What adding a draft to records returns: its id, the next one. -/
def addition (draft : Draft) (records : List Record) : Except RepositoryError Int :=
  match draft.check with
  | .error cause => .error (.excess cause)
  | .ok _ =>
    if nextIdAfter records ≤ Cell.greatestInteger then .ok (nextIdAfter records)
    else .error (.ofSql .full)

/-- The record that an addition makes of its draft, from what it returned. -/
def Draft.added (draft : Draft) : Except RepositoryError Int → List Record
  | .ok id => [draft.withId id]
  | .error _ => []

/-- What an addition reports, from what it returned. -/
def Draft.additionEvents (draft : Draft) : Except RepositoryError Int → List Event
  | .ok id => [.recordAdded id draft.name.length draft.state.length]
  | .error _ => []

/-- What a pick reports, from the ids of the records. -/
def pickEvents (g : Generator) : List Int → List Event
  | [] => [.nothingPicked]
  | first :: rest =>
    let ids := first :: rest
    [.recordPicked (ids.getD (g.below ids.length).1 first) ids.length]

/-- The table of a database is as the archive makes it, with the rows of these records. -/
def Database.Archives (d : Database) (records : List Record) : Prop :=
  ∃ t : Table, d.catalog.fractals = .table t ∧ t.constraints = {} ∧ t.sequence = none ∧
    t.rows = records.map Record.row

namespace Database.Archives

variable {d d' : Database} {records : List Record}

theorem lists (h : d.Archives records) : d.Lists records := by
  obtain ⟨t, table, -, sequence, rows⟩ := h
  exact ⟨t, table, sequence, rows⟩

theorem stores (h : d.Archives records) : d.Stores (records.map Record.row) := h

/-- Only the table counts. -/
theorem of_eq (h : d.Archives records) (same : d'.catalog = d.catalog) : d'.Archives records := by
  unfold Archives
  rwa [same]

/-- The ids of the records ascend. -/
theorem ascending (h : d.Archives records) : records.Pairwise fun a b => a.id < b.id := by
  obtain ⟨t, -, -, -, rows⟩ := h
  have order := t.ascending
  rw [rows] at order
  exact (List.pairwise_map (R := fun a b : Row => a.id < b.id)).mp order

/-- **Listing** gives the records. -/
theorem list (h : d.Archives records) : Service.list ⟨.database d, false⟩ =
    ⟨.returned (.ok records), ⟨.database d, false⟩, [.recordsListed records.length]⟩ := by
  unfold Service.list
  rw [h.lists.list]

/-- **A pick** is one of the records. -/
theorem pick (h : d.Archives records) (g : Generator) : Service.pick g ⟨.database d, false⟩ =
    ⟨.returned (.ok (Service.pickFrom g records)), ⟨.database d, false⟩,
      pickEvents g (records.map Record.id)⟩ := by
  have listed : Repository.list ⟨.database d, false⟩ = .ok records := h.lists.list
  cases records with
  | nil =>
      rw [Service.pick, listed]
      rfl
  | cons first rest =>
      obtain ⟨a, drawn, picked⟩ := Service.pick_of_listed listed (List.cons_ne_nil first rest) g
      have id : ((first :: rest).map Record.id).getD (g.below (first :: rest).length).1 first.id =
          a.id := by
        rw [List.getD_map, List.getD_eq_getElem?_getD, drawn, Option.getD_some]
      rw [picked, Service.pickFrom_of_drawn drawn]
      simp only [List.map_cons, pickEvents, List.length_cons, List.length_map] at id ⊢
      rw [id]

/-- **Adding a draft** returns its id, and the draft is the last record under it; or the draft is
refused, and nothing changes. -/
theorem add (h : d.Archives records) (draft : Draft) :
    ∃ d', Service.add draft ⟨.database d, false⟩ = ⟨.returned (addition draft records),
        ⟨.database d', false⟩, draft.additionEvents (addition draft records)⟩ ∧
      d'.Archives (records ++ draft.added (addition draft records)) ∧
      d'.userVersion = d.userVersion := by
  have kept : d.Archives (records ++ []) := by rwa [List.append_nil]
  have ⟨t, table, constraints, sequence, rows⟩ := h
  have next := Table.nextId_of_rows sequence rows
  unfold addition
  cases check : draft.check with
  | error cause => exact ⟨d, Service.add_of_excess check _, kept, rfl⟩
  | ok _ =>
      by_cases le : t.nextId ≤ Cell.greatestInteger
      · obtain ⟨t', added⟩ := Table.add_null_of_unconstrained constraints (.text draft.name)
          (.text draft.state) le
        have inserted : d.catalog.insert .null (.text draft.name) (.text draft.state) =
            .ok (t.nextId, { d.catalog with fractals := .table t' }) :=
          Catalog.insert_of_add table added
        let d' : Database := { d with catalog := { d.catalog with fractals := .table t' } }
        have stores : d'.Stores (records.map Record.row ++ [(draft.withId t.nextId).row]) :=
          h.stores.insert inserted
        simp only [← next, if_pos le]
        refine ⟨d', Service.add_of_inserted check inserted, ?_, rfl⟩
        rwa [← List.map_singleton, ← List.map_append] at stores
      · have refused : d.catalog.insert .null (.text draft.name) (.text draft.state) =
            .error .full := by
          unfold Catalog.insert Table.add
          simp only [table]
          rw [if_pos (by omega)]
          rfl
        simp only [← next, if_neg le]
        exact ⟨d, Service.add_of_refused check refused, kept, rfl⟩

end Database.Archives

end FractalArchive
