import FractalArchive.Proofs.Service.Operations
import Mathlib.Data.List.Forall2
import Mathlib.Data.List.Nodup

/-!
# Reading a table

Counting, listing and looking up are queries of their own, and they agree on every table, whichever
order its rows were written in (`reads_agree`).

* The count is the number of rows.
* Looking up an id reads the row of that id, and finds nothing where there is none.
* The listing is complete or fails.  It is complete if and only if every row can be read; then it
  holds one record for each row, in the strict order of the ids, and looking up is looking up in the
  listing.
* A listing that fails does so as looking up does for the least id for which it fails.

All of this is drawn from one description of the queries: they are answered from the same rows in
the order of their ids (`Catalog.Answers`).
-/

namespace FractalArchive

/-! ### Rows -/

/-- The record of a row. -/
def Row.read (r : Row) : Except RepositoryError Record :=
  (Catalog.tupleOf r).record

/-- A record has the id of its row and the texts of its columns. -/
theorem Row.read_eq_ok_iff {r : Row} {a : Record} :
    r.read = .ok a ↔ a.id = r.id ∧ Tuple.readText 1 "name" r.id r.name = .ok a.name ∧
      Tuple.readText 2 "state" r.id r.state = .ok a.state := by
  obtain ⟨id, name, state⟩ := a
  unfold read Tuple.record
  simp only [Catalog.tupleOf, Tuple.readId]
  cases Tuple.readText 1 "name" r.id r.name with
  | error e => simp
  | ok name' =>
      cases Tuple.readText 2 "state" r.id r.state with
      | error e => simp
      | ok state' => simp [eq_comm]

/-- These records are read from these rows, one from each. -/
abbrev Row.Read (rows : List Row) (records : List Record) : Prop :=
  List.Forall₂ (fun r a => r.read = .ok a) rows records

namespace Row.Read

variable {rows : List Row} {records : List Record}

theorem ids (h : Read rows records) : records.map Record.id = rows.map Row.id := by
  induction h with
  | nil => rfl
  | cons read _ ih => rw [List.map_cons, List.map_cons, ih, (read_eq_ok_iff.mp read).1]

theorem readable (h : Read rows records) : ∀ r ∈ rows, ∃ a, r.read = .ok a := by
  induction h with
  | nil => exact fun r hr => absurd hr List.not_mem_nil
  | cons read _ ih => exact List.forall_mem_cons.mpr ⟨⟨_, read⟩, ih⟩

end Row.Read

namespace Tuple

variable {rows : List Row} {records : List Record}

theorem records_cons (r : Row) (rest : List Row) :
    Tuple.records ((r :: rest).map Catalog.tupleOf) = match r.read with
      | .error e => .error e
      | .ok a => (Tuple.records (rest.map Catalog.tupleOf)).map (a :: ·) :=
  rfl

/-- Rows are read if each of them is. -/
theorem records_eq_ok_iff : Tuple.records (rows.map Catalog.tupleOf) = .ok records ↔
    Row.Read rows records := by
  induction rows generalizing records with
  | nil => simp [Tuple.records, eq_comm]
  | cons r rest ih =>
      rw [records_cons, Row.Read, List.forall₂_cons_left_iff]
      cases first : r.read with
      | error e => simp
      | ok a =>
          cases more : Tuple.records (rest.map Catalog.tupleOf) with
          | error e => simp [Except.map, ← ih, more]
          | ok others => simp [Except.map, ← ih, more, eq_comm (a := records)]

/-- The first row that cannot be read decides the error. -/
theorem records_eq_error {e : RepositoryError}
    (h : Tuple.records (rows.map Catalog.tupleOf) = .error e) :
    ∃ before r after, rows = before ++ r :: after ∧ (∀ b ∈ before, ∃ a, b.read = .ok a) ∧
      r.read = .error e := by
  induction rows with
  | nil => cases h
  | cons r rest ih =>
      rw [records_cons] at h
      cases first : r.read with
      | error e' =>
          rw [first] at h
          cases h
          exact ⟨[], r, rest, rfl, fun b hb => absurd hb List.not_mem_nil, first⟩
      | ok a =>
          rw [first] at h
          cases more : Tuple.records (rest.map Catalog.tupleOf) with
          | ok others => rw [more] at h; cases h
          | error e' =>
              rw [more] at h
              cases h
              obtain ⟨before, bad, after, rfl, readable, failed⟩ := ih more
              exact ⟨r :: before, bad, after, rfl,
                List.forall_mem_cons.mpr ⟨⟨a, first⟩, readable⟩, failed⟩

end Tuple

/-- Under distinct ids, the row of an id is the one that has it. -/
theorem Row.find?_eq_some_iff {rows : List Row} (distinct : (rows.map Row.id).Nodup) {id : Int}
    {r : Row} : rows.find? (fun a => a.id == id) = some r ↔ r ∈ rows ∧ r.id = id := by
  constructor
  · exact fun h => ⟨List.mem_of_find?_eq_some h, by simpa using List.find?_some h⟩
  · rintro ⟨mem, rfl⟩
    cases h : rows.find? (fun a => a.id == r.id) with
    | none => exact absurd (beq_self_eq_true r.id) (List.find?_eq_none.mp h r mem)
    | some a =>
        have same : a.id = r.id := by simpa using List.find?_some h
        rw [List.inj_on_of_nodup_map distinct (List.mem_of_find?_eq_some h) mem same]

/-- The order of rows does not matter to looking up. -/
theorem Row.find?_eq_of_perm {rows rows' : List Row} (perm : rows.Perm rows')
    (distinct : (rows'.map Row.id).Nodup) (id : Int) :
    rows.find? (fun a => a.id == id) = rows'.find? (fun a => a.id == id) := by
  ext r
  rw [find?_eq_some_iff ((perm.map _).nodup_iff.mpr distinct), find?_eq_some_iff distinct,
    perm.mem_iff]

theorem Ascending.distinct {rows : List Row} (h : Ascending rows) : (rows.map Row.id).Nodup :=
  List.pairwise_map.mpr (h.imp Int.ne_of_lt)

/-! ### Tables -/

/-- The name denotes a table of these rows under distinct integers, in whatever order they were
written. -/
def Relation.Keeps : Relation → List Row → Prop
  | .table t, rows => t.rows.Perm rows
  | .keyed t, rows =>
    t.rows.map Catalog.keyedTuple = rows.map Catalog.tupleOf ∧ (rows.map Row.id).Nodup
  | _, _ => False

namespace Catalog

/-- Queries are answered from these rows, which stand in the order of their ids. -/
structure Answers (c : Catalog) (rows : List Row) : Prop where
  ascending : Ascending rows
  select : c.select = .ok (rows.map tupleOf)
  selectById : ∀ id, c.selectById id = .ok ((rows.find? fun r => r.id == id).map tupleOf)
  count : c.count = .ok rows.length

variable {c : Catalog}

theorem answers_table {t : Table} (table : c.fractals = .table t) : c.Answers t.rows where
  ascending := t.ascending
  select := by unfold Catalog.select; rw [table]
  selectById := fun id => by unfold Catalog.selectById; rw [table]; rfl
  count := by unfold Catalog.count; rw [table]

/-- Integer keys are ordered as integers. -/
theorem keyLe_integer (m n : Int) :
    KeyedTable.keyLe (.integer m) (.integer n) = decide (m ≤ n) := by
  simp [KeyedTable.keyLe, KeyedTable.kindRank, KeyedTable.keyNumber, Cell.kind]

/-- A table with keys of its own sorts them for its answers. -/
theorem answers_keyed {t : KeyedTable} {rows : List Row} (keyed : c.fractals = .keyed t)
    (same : t.rows.map keyedTuple = rows.map tupleOf) (distinct : (rows.map Row.id).Nodup) :
    c.Answers (rows.mergeSort fun a b => decide (a.id ≤ b.id)) := by
  have perm := rows.mergeSort_perm fun a b => decide (a.id ≤ b.id)
  have sorted : t.inOrder.map keyedTuple =
      (rows.mergeSort fun a b => decide (a.id ≤ b.id)).map tupleOf := by
    unfold KeyedTable.inOrder
    let le (a b : Tuple) := KeyedTable.keyLe a.id b.id
    have left : (t.rows.mergeSort fun a b => KeyedTable.keyLe a.id b.id).map keyedTuple =
        (t.rows.map keyedTuple).mergeSort le :=
      List.map_mergeSort fun _ _ _ _ => rfl
    have right : (rows.mergeSort fun a b => decide (a.id ≤ b.id)).map tupleOf =
        (rows.map tupleOf).mergeSort le :=
      List.map_mergeSort fun a _ b _ => (keyLe_integer a.id b.id).symm
    rw [left, right, same]
  refine ⟨?_, ?_, fun id => ?_, ?_⟩
  · have ordered : (rows.mergeSort fun a b => decide (a.id ≤ b.id)).Pairwise
        fun a b => decide (a.id ≤ b.id) = true := by
      refine List.pairwise_mergeSort (fun a b c => ?_) (fun a b => ?_) rows
      · simp only [decide_eq_true_eq]
        omega
      · simp only [Bool.or_eq_true, decide_eq_true_eq]
        omega
    have apart := List.pairwise_map.mp ((perm.map Row.id).nodup_iff.mpr distinct)
    refine (ordered.and apart).imp fun {a b} h => ?_
    have := of_decide_eq_true h.1
    have := h.2
    omega
  · unfold select
    rw [keyed]
    exact congrArg Except.ok sorted
  · have found := congrArg (List.find? fun u : Tuple => u.id == .integer id) same
    rw [List.find?_map, List.find?_map] at found
    unfold selectById
    rw [keyed, Row.find?_eq_of_perm perm distinct]
    refine congrArg Except.ok (found.trans ?_)
    congr
    funext r
    simp [tupleOf]
  · have lengths := congrArg List.length same
    rw [List.length_map, List.length_map] at lengths
    unfold count
    rw [keyed, perm.length_eq]
    exact congrArg Except.ok lengths

theorem answers_of_keeps {rows : List Row} (keeps : c.fractals.Keeps rows) :
    ∃ inOrder, inOrder.Perm rows ∧ c.Answers inOrder := by
  cases h : c.fractals with
  | table t =>
      rw [h] at keeps
      exact ⟨t.rows, keeps, answers_table h⟩
  | keyed t =>
      rw [h] at keeps
      exact ⟨_, rows.mergeSort_perm _, answers_keyed h keeps.1 keeps.2⟩
  | absent | stateless | view | index =>
      rw [h] at keeps
      exact absurd keeps id

end Catalog

/-! ### The operations -/

namespace Catalog.Answers

variable {d : Database} {rows : List Row} {records : List Record} {readOnly : Bool} {id : Int}

theorem counted (h : d.catalog.Answers rows) :
    Repository.count ⟨.database d, readOnly⟩ = .ok rows.length := by
  unfold Repository.count Connection.query
  simp only [h.count]

/-- **Listing** reads the rows in the order of their ids. -/
theorem listed (h : d.catalog.Answers rows) :
    Repository.list ⟨.database d, readOnly⟩ = Tuple.records (rows.map tupleOf) := by
  unfold Repository.list Connection.query
  simp only [h.select]

theorem found (h : d.catalog.Answers rows) (id : Int) :
    Repository.find? id ⟨.database d, readOnly⟩ =
      match rows.find? fun r => r.id == id with
      | none => .ok none
      | some r => r.read.map some := by
  unfold Repository.find? Connection.query
  simp only [h.selectById]
  cases rows.find? fun r => r.id == id with
  | none => rfl
  | some r => rfl

/-- **Looking up** an id reads the row that has it. -/
theorem found_of_mem (h : d.catalog.Answers rows) {r : Row} (mem : r ∈ rows) :
    Repository.find? r.id ⟨.database d, readOnly⟩ = r.read.map some := by
  rw [h.found, (Row.find?_eq_some_iff h.ascending.distinct).mpr ⟨mem, rfl⟩]

/-- Where no row has an id, nothing is found. -/
theorem found_of_forall_ne (h : d.catalog.Answers rows) (other : ∀ r ∈ rows, r.id ≠ id) :
    Repository.find? id ⟨.database d, readOnly⟩ = .ok none := by
  have none : rows.find? (fun r => r.id == id) = none :=
    List.find?_eq_none.mpr fun r hr => by simpa using other r hr
  rw [h.found, none]

/-- Looking up among rows is looking up among the records read from them. -/
theorem found_of_read (h : d.catalog.Answers rows) (read : Row.Read rows records) (id : Int) :
    Repository.find? id ⟨.database d, readOnly⟩ = .ok (records.find? fun a => a.id == id) := by
  rw [h.found]
  clear h
  induction read with
  | nil => rfl
  | @cons r a rest more first _ ih =>
      have same : a.id = r.id := (Row.read_eq_ok_iff.mp first).1
      by_cases here : r.id = id
      · rw [List.find?_cons_of_pos (by simpa using here),
          List.find?_cons_of_pos (by simpa [same] using here)]
        simp only [first]
        rfl
      · rw [List.find?_cons_of_neg (by simpa using here),
          List.find?_cons_of_neg (by simpa [same] using here)]
        exact ih

/-- A row is looked up without an error if and only if it can be read. -/
theorem exists_found_iff (h : d.catalog.Answers rows) {r : Row} (mem : r ∈ rows) :
    (∃ a, Repository.find? r.id ⟨.database d, readOnly⟩ = .ok a) ↔ ∃ a, r.read = .ok a := by
  rw [h.found_of_mem mem]
  cases r.read with
  | ok a => exact iff_of_true ⟨_, rfl⟩ ⟨_, rfl⟩
  | error e => exact iff_of_false nofun nofun

/-- **A listing is complete** if and only if every row is looked up without an error. -/
theorem exists_listed_iff (h : d.catalog.Answers rows) :
    (∃ records, Repository.list ⟨.database d, readOnly⟩ = .ok records) ↔
      ∀ r ∈ rows, ∃ a, Repository.find? r.id ⟨.database d, readOnly⟩ = .ok a := by
  rw [h.listed]
  constructor
  · rintro ⟨records, listed⟩ r mem
    exact (h.exists_found_iff mem).mpr ((Tuple.records_eq_ok_iff.mp listed).readable r mem)
  · intro readable
    cases listed : Tuple.records (rows.map tupleOf) with
    | ok records => exact ⟨records, rfl⟩
    | error e =>
        -- The row at fault would be looked up without an error.
        obtain ⟨before, bad, after, rfl, -, failed⟩ := Tuple.records_eq_error listed
        have mem : bad ∈ before ++ bad :: after := List.mem_append_right _ List.mem_cons_self
        obtain ⟨a, read⟩ := (h.exists_found_iff mem).mp (readable bad mem)
        rw [failed] at read
        cases read

/-- **A listing that fails** does so for the least id that looking up fails for. -/
theorem listed_eq_error (h : d.catalog.Answers rows) {e : RepositoryError}
    (failed : Repository.list ⟨.database d, readOnly⟩ = .error e) :
    ∃ r ∈ rows, Repository.find? r.id ⟨.database d, readOnly⟩ = .error e ∧
      ∀ a ∈ rows, a.id < r.id →
        ∃ found, Repository.find? a.id ⟨.database d, readOnly⟩ = .ok found := by
  rw [h.listed] at failed
  obtain ⟨before, r, after, rfl, readable, failed⟩ := Tuple.records_eq_error failed
  have mem : r ∈ before ++ r :: after := List.mem_append_right _ List.mem_cons_self
  refine ⟨r, mem, by rw [h.found_of_mem mem, failed]; rfl, fun a ha less => ?_⟩
  have order := List.pairwise_append.mp h.ascending
  rcases List.mem_append.mp ha with ha' | ha'
  · exact (h.exists_found_iff ha).mpr (readable a ha')
  · -- No row from the one at fault on has a lesser id.
    rcases List.mem_cons.mp ha' with rfl | ha'
    · omega
    · have := (List.pairwise_cons.mp order.2.1).1 a ha'
      omega

end Catalog.Answers

namespace Repository

/-- **The reading operations agree** on every table.  The count is the number of rows, and looking
up an id reads the row that has it.  The listing is complete if and only if every row is looked up
without an error; then it holds a record for each row in the strict order of the ids, and an id is
looked up as in the listing.  Otherwise its error is that of the least id that fails.  None of this
changes the connection, also when it is done by the service. -/
theorem reads_agree {d : Database} {rows : List Row} (keeps : d.catalog.fractals.Keeps rows)
    (readOnly : Bool) :
    let c : Connection := ⟨.database d, readOnly⟩
    count c = .ok rows.length ∧
      (∀ r ∈ rows, find? r.id c = r.read.map some) ∧
      (∀ id, (∀ r ∈ rows, r.id ≠ id) → find? id c = .ok none) ∧
      ((∃ records, list c = .ok records) ↔ ∀ r ∈ rows, ∃ found, find? r.id c = .ok found) ∧
      (∀ records, list c = .ok records →
        (records.map Record.id).Perm (rows.map Row.id) ∧
          records.Pairwise (fun a b => a.id < b.id) ∧ count c = .ok records.length ∧
          ∀ id, find? id c = .ok (records.find? fun a => a.id == id)) ∧
      (∀ e, list c = .error e → ∃ r ∈ rows, find? r.id c = .error e ∧
        ∀ a ∈ rows, a.id < r.id → ∃ found, find? a.id c = .ok found) ∧
      Service.count c = ⟨.returned (count c), c, []⟩ ∧
      (∃ events, Service.list c = ⟨.returned (list c), c, events⟩) ∧
      ∀ id, Service.find? id c = ⟨.returned (find? id c), c, []⟩ := by
  intro c
  obtain ⟨sorted, perm, answers⟩ := Catalog.answers_of_keeps keeps
  refine ⟨?_, fun r mem => ?_, fun id other => ?_, ?_, fun records listed => ?_, fun e failed => ?_,
    rfl, Service.list_returned c, fun _ => rfl⟩
  · rw [answers.counted, perm.length_eq]
  · exact answers.found_of_mem (perm.mem_iff.mpr mem)
  · exact answers.found_of_forall_ne fun r mem => other r (perm.mem_iff.mp mem)
  · rw [answers.exists_listed_iff]
    exact forall_congr' fun r => imp_congr_left perm.mem_iff
  · have read := Tuple.records_eq_ok_iff.mp (answers.listed.symm.trans listed)
    have ordered := List.pairwise_map.mpr answers.ascending
    rw [← read.ids] at ordered
    refine ⟨read.ids ▸ perm.map _, List.pairwise_map.mp ordered, ?_, answers.found_of_read read⟩
    rw [answers.counted, read.length_eq]
  · obtain ⟨r, mem, error, least⟩ := answers.listed_eq_error failed
    exact ⟨r, perm.mem_iff.mp mem, error, fun a ha => least a (perm.mem_iff.mpr ha)⟩

/-- Rows that were written in the reverse order of their ids; two of them cannot be read. -/
def unsortedRows : List Row :=
  [⟨5, .text "a", .text ""⟩, ⟨1, .text "b", .blob [0xFF]⟩, ⟨-2, .null, .null⟩]

/-- A table of these rows with a key column of its own. -/
def unsortedTable : KeyedTable :=
  ⟨unsortedRows.zipIdx.map fun (r, i) => ⟨i + 1, .integer r.id, r.name, r.state⟩⟩

theorem reads_agree_unsortedTable :
    let c : Connection := ⟨.database ⟨1, { fractals := .keyed unsortedTable }⟩, true⟩
    count c = .ok 3 ∧ find? 5 c = .ok (some ⟨5, "a", ""⟩) ∧ find? 4 c = .ok none ∧
      list c = .error (.invalidData "NULL fractals.name for id -2") := by
  intro c
  have keeps : (Relation.keyed unsortedTable).Keeps unsortedRows := ⟨by decide, by decide⟩
  obtain ⟨counted, found, absent, complete, -, failed, -⟩ :=
    reads_agree (d := ⟨1, { fractals := .keyed unsortedTable }⟩) keeps true
  have first : find? 5 c = .ok (some ⟨5, "a", ""⟩) := found _ (.head _)
  have last : find? (-2) c = .error (.invalidData "NULL fractals.name for id -2") :=
    found _ (.tail _ (.tail _ (.head _)))
  refine ⟨counted, first, absent 4 (by decide), ?_⟩
  cases listed : list c with
  | ok records =>
      obtain ⟨a, found⟩ := complete.mp ⟨records, listed⟩ _ (.tail _ (.tail _ (.head _)))
      rw [last] at found
      cases found
  | error e =>
      obtain ⟨r, mem, error, least⟩ := failed e listed
      simp only [unsortedRows, List.mem_cons, List.not_mem_nil, or_false] at mem
      rcases mem with rfl | rfl | rfl
      · rw [first] at error
        cases error
      · obtain ⟨a, found⟩ := least _ (.tail _ (.tail _ (.head _))) (by decide)
        rw [last] at found
        cases found
      · rw [last] at error
        cases error
        rfl

end Repository

end FractalArchive
