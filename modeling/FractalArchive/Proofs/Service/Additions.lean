import FractalArchive.Proofs.Database.Reading
import FractalArchive.Proofs.Service.Archiving

/-!
# Additions to a table

What adding a draft does to a table as the archive makes it, whatever its rows are (`append_law`).

* A draft that is too long is refused, for its name if that is too long, and nothing changes.
* Any other draft gets an id above all ids.  From then on this id is looked up as the draft, every
  other id as before; the count is one more, and a complete listing has the draft as a further last
  record.
* The ids that a run of additions gives ascend strictly, and each of them is still looked up as its
  draft when the run is over.

One addition appends a row or changes nothing (`Stores.add`), so a run appends the rows of the
drafts that it accepts (`Stores.addAll`); that ids ascend is then the order of the table.
-/

namespace FractalArchive

/-! ### Checks -/

namespace Draft

variable {draft : Draft}

theorem check_of_long_name (long : 256 < draft.name.length) :
    draft.check = .error (.name draft.name.length) :=
  if_pos long

theorem check_of_long_state (name : draft.name.length ≤ 256) (long : 4096 < draft.state.length) :
    draft.check = .error (.state draft.state.length) := by
  have short : ¬ draft.name.length > maxNameChars := Nat.not_lt.mpr name
  unfold check
  rw [if_neg short]
  exact if_pos long

end Draft

/-! ### Reading what was added -/

/-- The row of a record is read as the record. -/
theorem Row.read_row (a : Record) : a.row.read = .ok a := rfl

namespace Catalog.Answers

variable {d d' : Database} {rows : List Row} {records : List Record} {a : Record}
  {readOnly readOnly' : Bool}

/-- **A further row** is looked up under its id, and every other id as before. -/
theorem found_append (h : d.catalog.Answers rows) (h' : d'.catalog.Answers (rows ++ [a.row])) :
    Repository.find? a.id ⟨.database d', readOnly'⟩ = .ok (some a) ∧
      ∀ id, id ≠ a.id → Repository.find? id ⟨.database d', readOnly'⟩ =
        Repository.find? id ⟨.database d, readOnly⟩ := by
  constructor
  · exact h'.found_of_mem (r := a.row) (List.mem_append_right _ List.mem_cons_self)
  · intro id other
    have apart : [a.row].find? (fun r => r.id == id) = none :=
      List.find?_cons_of_neg (by simpa [Record.row] using Ne.symm other)
    rw [h.found, h'.found, List.find?_append, apart, Option.or_none]

/-- A complete listing stays complete, with one more record. -/
theorem listed_append (h : d.catalog.Answers rows) (h' : d'.catalog.Answers (rows ++ [a.row]))
    (listed : Repository.list ⟨.database d, readOnly⟩ = .ok records) :
    Repository.list ⟨.database d', readOnly'⟩ = .ok (records ++ [a]) := by
  have read := Tuple.records_eq_ok_iff.mp (h.listed.symm.trans listed)
  rw [h'.listed, Tuple.records_eq_ok_iff]
  exact List.rel_append read (.cons (Row.read_row a) .nil)

end Catalog.Answers

/-! ### One addition -/

namespace Database.Stores

variable {d : Database} {rows : List Row} {draft : Draft}

theorem answers (h : d.Stores rows) : d.catalog.Answers rows := by
  obtain ⟨t, table, -, -, rfl⟩ := h
  exact Catalog.answers_table table

/-- **An addition** changes nothing or appends the draft. -/
theorem add (h : d.Stores rows) (draft : Draft) :
    (∃ e, Repository.add draft ⟨.database d, false⟩ = (.error e, ⟨.database d, false⟩)) ∨
      ∃ d' id, Repository.add draft ⟨.database d, false⟩ = (.ok id, ⟨.database d', false⟩) ∧
        d'.Stores (rows ++ [(draft.withId id).row]) := by
  rcases Repository.add_cases draft ⟨.database d, false⟩ with
    refused | ⟨d₀, id, catalog, same, inserted, added⟩
  · exact .inl refused
  · cases same
    exact .inr ⟨{ d with catalog }, id, added, h.insert inserted⟩

/-- **A draft that is short enough** is appended, as long as there is an id for it. -/
theorem add_short (h : d.Stores rows) (room : ∀ r ∈ rows, r.id < Cell.greatestInteger)
    (short : draft.check = .ok ()) :
    ∃ d' id, Repository.add draft ⟨.database d, false⟩ = (.ok id, ⟨.database d', false⟩) ∧
      d'.Stores (rows ++ [(draft.withId id).row]) := by
  have ⟨t, table, constraints, sequence, same⟩ := h
  have takes := (Table.TakesDrafts.iff_of_unconstrained constraints sequence).mpr
    (same.symm ▸ room)
  obtain ⟨t', added⟩ := Table.add_null_of_unconstrained constraints (.text draft.name)
    (.text draft.state) takes.nextId_le
  have inserted := Catalog.insert_of_add table added
  exact ⟨{ d with catalog := { d.catalog with fractals := .table t' } }, t.nextId,
    Repository.add_of_inserted short inserted, h.insert inserted⟩

/-- The row that was appended has the greatest id. -/
theorem lt_of_append {r : Row} (h : d.Stores (rows ++ [r])) : ∀ a ∈ rows, a.id < r.id :=
  fun a ha => (List.pairwise_append.mp h.answers.ascending).2.2 a ha r List.mem_cons_self

end Database.Stores

/-! ### Runs of additions -/

/-- Adds drafts one after another; the answer to each of them comes first. -/
def Repository.addAll : List Draft → Connection → List (Except RepositoryError Int) × Connection
  | [], c => ([], c)
  | draft :: rest, c =>
    let (result, c) := add draft c
    let (results, c) := addAll rest c
    (result :: results, c)

/-- The records that drafts become, from the answers to them. -/
def Draft.accepted : List Draft → List (Except RepositoryError Int) → List Record
  | draft :: rest, result :: results => draft.added result ++ accepted rest results
  | _, _ => []

/-- The ids of these records are the ids that were given. -/
theorem Repository.ids_accepted (drafts : List Draft) (c : Connection) :
    (Draft.accepted drafts (addAll drafts c).1).map Record.id =
      (addAll drafts c).1.filterMap Except.toOption := by
  induction drafts generalizing c with
  | nil => rfl
  | cons draft rest ih =>
      unfold addAll Draft.accepted
      simp only [List.map_append, ih]
      cases (add draft c).1 with
      | ok id => rfl
      | error e => rfl

/-- **A run of additions** appends the drafts that it accepts. -/
theorem Database.Stores.addAll {d : Database} {rows : List Row} (h : d.Stores rows)
    (drafts : List Draft) :
    ∃ d', (Repository.addAll drafts ⟨.database d, false⟩).2 = ⟨.database d', false⟩ ∧
      d'.Stores (rows ++ (Draft.accepted drafts
        (Repository.addAll drafts ⟨.database d, false⟩).1).map Record.row) := by
  induction drafts generalizing d rows with
  | nil => exact ⟨d, rfl, by simpa [Draft.accepted, Repository.addAll] using h⟩
  | cons draft rest ih =>
      unfold Repository.addAll Draft.accepted
      rcases h.add draft with ⟨e, refused⟩ | ⟨d₁, id, added, stores⟩
      · simp only [refused]
        exact ih h
      · simp only [added]
        obtain ⟨d', left, stores'⟩ := ih stores
        refine ⟨d', left, ?_⟩
        rwa [List.append_assoc, ← List.map_singleton, ← List.map_append] at stores'

/-! ### The law -/

/-- The service adds as the repository does. -/
theorem Service.add_returned (draft : Draft) (c : Connection) :
    ∃ events, add draft c =
      ⟨.returned (Repository.add draft c).1, (Repository.add draft c).2, events⟩ := by
  unfold add
  split
  next id c' added => exact ⟨_, by rw [added]⟩
  next e c' refused => exact ⟨_, by rw [refused]⟩

namespace Repository

/-- **Adding appends.**  The table is as the archive makes it, with any rows, the last id below the
greatest one.

A draft whose name is too long is refused for its name, any other whose state is too long for its
state, and nothing changes.  Any other draft is added: its id is above all ids, the id is looked up
as the draft and every other one as before, the count is one more, and a complete listing is
complete with the draft at its end.  The service adds as the repository does.

The ids that a run of additions gives ascend strictly and are above those that were there, and after
the run each of them is looked up as its draft. -/
theorem append_law {d : Database} {t : Table} (table : d.catalog.fractals = .table t)
    (constraints : t.constraints = {}) (sequence : t.sequence = none)
    (room : ∀ r ∈ t.rows, r.id < Cell.greatestInteger) :
    let c : Connection := ⟨.database d, false⟩
    (∀ draft : Draft,
      (256 < draft.name.length →
        add draft c = (.error (.excess (.name draft.name.length)), c)) ∧
      (draft.name.length ≤ 256 → 4096 < draft.state.length →
        add draft c = (.error (.excess (.state draft.state.length)), c)) ∧
      (draft.name.length ≤ 256 → draft.state.length ≤ 4096 →
        ∃ id c', add draft c = (.ok id, c') ∧ (∀ r ∈ t.rows, r.id < id) ∧
          find? id c' = .ok (some ⟨id, draft.name, draft.state⟩) ∧
          (∀ other, other ≠ id → find? other c' = find? other c) ∧
          (∃ n, count c = .ok n ∧ count c' = .ok (n + 1)) ∧
          ∀ records, list c = .ok records →
            list c' = .ok (records ++ [⟨id, draft.name, draft.state⟩])) ∧
      ∃ events, Service.add draft c = ⟨.returned (add draft c).1, (add draft c).2, events⟩) ∧
    ∀ drafts : List Draft,
      let run := addAll drafts c
      let ids := run.1.filterMap Except.toOption
      ids.Pairwise (· < ·) ∧ (∀ id ∈ ids, ∀ r ∈ t.rows, r.id < id) ∧
        ids = (Draft.accepted drafts run.1).map Record.id ∧
        ∀ a ∈ Draft.accepted drafts run.1, find? a.id run.2 = .ok (some a) := by
  intro c
  have stores : d.Stores t.rows := ⟨t, table, constraints, sequence, rfl⟩
  refine ⟨fun draft => ⟨fun long => ?_, fun name long => ?_, fun name state => ?_,
    Service.add_returned draft c⟩, fun drafts => ?_⟩
  · exact add_of_excess (Draft.check_of_long_name long) c
  · exact add_of_excess (Draft.check_of_long_state name long) c
  · obtain ⟨d', id, added, stores'⟩ := stores.add_short room
      ((Draft.check_eq_ok_iff draft).mpr ⟨name, state⟩)
    obtain ⟨found, others⟩ := stores.answers.found_append stores'.answers
    refine ⟨id, _, added, stores'.lt_of_append, found, others,
      ⟨t.rows.length, stores.answers.counted, ?_⟩,
      fun records => stores.answers.listed_append stores'.answers⟩
    rw [stores'.answers.counted, List.length_append]
    rfl
  · obtain ⟨d', left, stores'⟩ := stores.addAll drafts
    intro run ids
    have given : ids = (Draft.accepted drafts run.1).map Record.id := (ids_accepted drafts c).symm
    have rowIds : (Draft.accepted drafts run.1).map Record.id =
        ((Draft.accepted drafts run.1).map Record.row).map Row.id := by
      rw [List.map_map]
      rfl
    -- The ids are those of the last rows, in the order of the table.
    obtain ⟨-, ascending, above⟩ := List.pairwise_append.mp stores'.answers.ascending
    refine ⟨?_, fun id hid r hr => ?_, given, fun a ha => ?_⟩
    · rw [given, rowIds]
      exact List.pairwise_map.mpr ascending
    · rw [given, rowIds] at hid
      obtain ⟨a, ha, rfl⟩ := List.mem_map.mp hid
      exact above r hr a ha
    · have left : run.2 = ⟨.database d', false⟩ := left
      rw [left]
      exact stores'.answers.found_of_mem (r := a.row)
        (List.mem_append_right _ (List.mem_map_of_mem ha))

/-- A table with a negative id, a gap after it, and a row that cannot be read. -/
def gapSample : Table where
  rows := [⟨-7, .null, .blob [0xFF]⟩, ⟨3, .text "a", .text ""⟩]
  ascending := by decide

/-- A text of so many characters. -/
def textSample (chars : Nat) : String :=
  String.ofList (List.replicate chars 'é')

theorem length_textSample (chars : Nat) : (textSample chars).length = chars := by
  rw [textSample, String.length_ofList, List.length_replicate]

/-- Drafts of which the second is too long. -/
def draftsSample : List Draft :=
  [⟨"b", "c"⟩, ⟨textSample 257, "d"⟩, ⟨"e", "f"⟩]

theorem append_law_gapSample :
    let c : Connection := ⟨.database ⟨1, { fractals := .table gapSample }⟩, false⟩
    add ⟨textSample 257, "b"⟩ c = (.error (.excess (.name 257)), c) ∧
      (∃ id c', add ⟨"é", ""⟩ c = (.ok id, c') ∧ 3 < id ∧
        find? id c' = .ok (some ⟨id, "é", ""⟩) ∧ find? (-7) c' = find? (-7) c) ∧
      ((addAll draftsSample c).1.filterMap Except.toOption).Pairwise (· < ·) := by
  intro c
  obtain ⟨one, runs⟩ := append_law (d := ⟨1, { fractals := .table gapSample }⟩) (t := gapSample) rfl
    rfl rfl (by decide)
  obtain ⟨-, -, short, -⟩ := one ⟨"é", ""⟩
  obtain ⟨id, c', added, above, found, others, -⟩ := short (by decide) (by decide)
  have last : 3 < id := above ⟨3, .text "a", .text ""⟩ (.tail _ (.head _))
  have long := (one ⟨textSample 257, "b"⟩).1 (by simp only [length_textSample]; decide)
  exact ⟨by rw [long, length_textSample], ⟨id, c', added, last, found, others (-7) (by omega)⟩,
    (runs draftsSample).1⟩

end Repository

end FractalArchive
