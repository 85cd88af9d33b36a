import FractalArchive.Repository

/-!
# Adding rows and listing them

Rows stand in the order of their ids and a new row gets an id above all of them, so it goes to the
end: an insertion without an id that succeeds appends one row and does nothing else
(`Table.add_null_eq_ok`).

A database *lists* records when its table consists of their rows (`Database.Lists`).  Then the
records are what a listing gives, and a draft that is inserted comes after them
(`Database.Lists.list`, `Database.Lists.insert`).  It *stores* rows when its table consists of them
and is as the archive makes it (`Database.Stores`).
-/

namespace FractalArchive

/-! ### Rows -/

namespace Table

theorem insertRow_of_lt {r : Row} {rows : List Row} (h : ∀ a ∈ rows, a.id < r.id) :
    insertRow r rows = rows ++ [r] := by
  induction rows with
  | nil => rfl
  | cons a rest ih =>
      have ha := h a List.mem_cons_self
      rw [insertRow, if_neg (by omega), ih fun b hb => h b (List.mem_cons_of_mem _ hb)]
      rfl

variable {t t' : Table} {name state : Cell} {id : Int}

/-- The last id is the greatest. -/
theorem le_lastId {last : Int} (h : t.lastId? = some last) : ∀ a ∈ t.rows, a.id ≤ last := by
  intro a ha
  obtain ⟨l, hl, rfl⟩ := Option.map_eq_some_iff.mp h
  obtain ⟨rest, e⟩ := List.getLast?_eq_some_iff.mp hl
  have order := t.ascending
  rw [e] at ha order
  rcases List.mem_append.mp ha with ha | ha
  · have := (List.pairwise_append.mp order).2.2 a ha l List.mem_cons_self
    omega
  · obtain rfl := List.mem_singleton.mp ha
    exact Int.le_refl _

/-- The next id is above all ids. -/
theorem lt_nextId : ∀ a ∈ t.rows, a.id < t.nextId := by
  intro a ha
  have above : ∀ {last : Int}, t.lastId? = some last → a.id < last + 1 := by
    intro last e
    have := le_lastId e a ha
    omega
  unfold nextId
  cases e : t.lastId? with
  | none =>
      have : t.rows = [] := List.getLast?_eq_none_iff.mp (Option.map_eq_none_iff.mp e)
      rw [this] at ha
      exact absurd ha List.not_mem_nil
  | some last =>
      have := above e
      cases t.sequence with
      | none => exact this
      | some given =>
          show a.id < max (last + 1) (given + 1)
          omega

/-- **An insertion without an id** that succeeds appends a row under the next id. -/
theorem add_null_eq_ok (h : t.add .null name state = .ok (id, t')) :
    id = t.nextId ∧ t.nextId ≤ Cell.greatestInteger ∧ t'.constraints = t.constraints ∧
      t'.sequence = t.sequence.map (max · id) ∧
      t'.rows = t.rows ++ [⟨id, name.asText, state.asText⟩] := by
  unfold add at h
  simp only at h
  split at h
  · cases h
  next bounded =>
    obtain ⟨t₁, inserted, e⟩ : ∃ t₁, t.insert ⟨t.nextId, name.asText, state.asText⟩ = .ok t₁ ∧
        (t.nextId, t₁) = (id, t') := by
      cases inserted : t.insert ⟨t.nextId, name.asText, state.asText⟩ with
      | error e => rw [inserted] at h; cases h
      | ok t₁ => rw [inserted] at h; exact ⟨t₁, rfl, Except.ok.inj h⟩
    obtain ⟨rfl, rfl⟩ := Prod.mk.inj e
    unfold insert at inserted
    split at inserted
    · cases inserted
    · cases inserted
      exact ⟨rfl, by omega, rfl, rfl, insertRow_of_lt lt_nextId⟩

/-- A row without an id is added if there is an id for it and no constraint stands against it. -/
theorem add_null_of_violation (name state : Cell) (le : t.nextId ≤ Cell.greatestInteger)
    (free : t.violation ⟨t.nextId, name.asText, state.asText⟩ = none) :
    ∃ t', t.add .null name state = .ok (t.nextId, t') := by
  obtain ⟨t', inserted⟩ : ∃ t', t.insert ⟨t.nextId, name.asText, state.asText⟩ = .ok t' := by
    unfold insert
    split
    next e violated =>
      rw [free] at violated
      cases violated
    · exact ⟨_, rfl⟩
  refine ⟨t', ?_⟩
  unfold add
  simp only [inserted]
  rw [if_neg (by omega)]
  rfl

/-- No constraint stands against a row with an id that is not taken, if names may repeat and there
is nothing that has to be given and is missing. -/
theorem violation_eq_none {r : Row} (fresh : ∀ a ∈ t.rows, a.id ≠ r.id)
    (repeats : t.constraints.uniqueName = false)
    (given : t.constraints.required = false ∨ r.name.kind ≠ .null ∧ r.state.kind ≠ .null)
    (filled : t.constraints.stateNotEmpty = false ∨ r.state ≠ .text "") : t.violation r = none := by
  have new : t.rows.any (fun a => a.id == r.id) = false := by
    rw [List.any_eq_false]
    intro a ha
    simpa using fresh a ha
  unfold violation
  rcases given with optional | ⟨name, state⟩
  · rcases filled with e | e
    · simp [new, repeats, optional, e]
    · simp [new, repeats, optional, e]
  · rcases filled with e | e
    · simp [new, repeats, name, state, e]
    · simp [new, repeats, name, state, e]

/-- Without constraints a row without an id is added if there is an id for it. -/
theorem add_null_of_unconstrained (constraints : t.constraints = {}) (name state : Cell)
    (le : t.nextId ≤ Cell.greatestInteger) : ∃ t', t.add .null name state = .ok (t.nextId, t') :=
  add_null_of_violation name state le
    (violation_eq_none (fun a ha => Int.ne_of_lt (lt_nextId a ha)) (by rw [constraints])
      (.inl (by rw [constraints])) (.inl (by rw [constraints])))

end Table

/-! ### Drafts in a table -/

/-- A table that takes drafts: names may repeat, and there is an id above those given. -/
structure Table.TakesDrafts (t : Table) : Prop where
  repeats : t.constraints.uniqueName = false
  rows : ∀ row ∈ t.rows, row.id < Cell.greatestInteger
  given : ∀ id, t.sequence = some id → id < Cell.greatestInteger

namespace Table.TakesDrafts

variable {t : Table}

/-- A table as the archive makes it, with any rows, takes drafts until the greatest id is given. -/
theorem iff_of_unconstrained (constraints : t.constraints = {}) (sequence : t.sequence = none) :
    t.TakesDrafts ↔ ∀ row ∈ t.rows, row.id < Cell.greatestInteger := by
  constructor
  · exact fun h => h.rows
  · intro rows
    exact ⟨by rw [constraints], rows, fun id e => by rw [sequence] at e; cases e⟩

theorem nextId_le (h : t.TakesDrafts) : t.nextId ≤ Cell.greatestInteger := by
  have afterLast : ∀ {last : Int}, t.lastId? = some last → last + 1 ≤ Cell.greatestInteger := by
    intro last e
    obtain ⟨row, last, rfl⟩ := Option.map_eq_some_iff.mp e
    exact h.rows row (List.mem_of_getLast? last)
  have afterGiven : ∀ {given : Int}, t.sequence = some given →
      given + 1 ≤ Cell.greatestInteger :=
    fun e => h.given _ e
  unfold nextId
  cases last : t.lastId? with
  | none =>
      cases sequence : t.sequence with
      | none => decide
      | some given => exact Int.max_le.mpr ⟨by decide, afterGiven sequence⟩
  | some id =>
      cases sequence : t.sequence with
      | none => exact afterLast last
      | some given => exact Int.max_le.mpr ⟨afterLast last, afterGiven sequence⟩

/-- **A draft is added** as the last row. -/
theorem add (h : t.TakesDrafts) (name : String) {state : String} (some : state ≠ "") :
    ∃ t', t.add .null (.text name) (.text state) = .ok (t.nextId, t') ∧
      t'.rows = t.rows ++ [⟨t.nextId, .text name, .text state⟩] := by
  have filled : Cell.asText (.text state) ≠ .text "" := fun e => some (Cell.text.inj e)
  obtain ⟨t', added⟩ := add_null_of_violation (.text name) (.text state) h.nextId_le
    (violation_eq_none (fun a ha => Int.ne_of_lt (lt_nextId a ha)) h.repeats
      (.inr ⟨nofun, nofun⟩) (.inr filled))
  obtain ⟨-, -, -, -, rows⟩ := add_null_eq_ok added
  exact ⟨t', added, rows⟩

end Table.TakesDrafts

/-! ### Insertions -/

theorem Catalog.insert_of_add {c : Catalog} {t t' : Table} {id name state : Cell} {n : Int}
    (table : c.fractals = .table t) (added : t.add id name state = .ok (n, t')) :
    c.insert id name state = .ok (n, { c with fractals := .table t' }) := by
  unfold insert
  simp only [table, added]
  rfl

/-- An insertion into a table goes to the table. -/
theorem Catalog.insert_eq_ok {c c' : Catalog} {t : Table} {id name state : Cell} {n : Int}
    (table : c.fractals = .table t) (h : c.insert id name state = .ok (n, c')) :
    ∃ t', t.add id name state = .ok (n, t') ∧ c' = { c with fractals := .table t' } := by
  unfold insert at h
  simp only [table] at h
  cases added : t.add id name state with
  | error e => rw [added] at h; cases h
  | ok new =>
      obtain ⟨n', t'⟩ := new
      rw [added] at h
      obtain ⟨rfl, rfl⟩ := Prod.mk.inj (Except.ok.inj h)
      exact ⟨t', rfl, rfl⟩

namespace Repository

variable {draft : Draft} {d : Database}

/-- A draft that is too long is refused before the database is touched. -/
theorem add_of_excess {cause : Excess} (h : draft.check = .error cause) (c : Connection) :
    add draft c = (.error (.excess cause), c) := by
  unfold add
  rw [h]

/-- A draft that is short enough is added if the catalog takes it. -/
theorem add_of_inserted {id : Int} {catalog : Catalog} (h : draft.check = .ok ())
    (inserted : d.catalog.insert .null (.text draft.name) (.text draft.state) = .ok (id, catalog)) :
    add draft ⟨.database d, false⟩ = (.ok id, ⟨.database { d with catalog }, false⟩) := by
  unfold add Connection.executeOnCatalog Connection.execute
  simp only [h, inserted]
  rfl

/-- Nothing changes if the catalog refuses the draft. -/
theorem add_of_refused {e : SqlError} (h : draft.check = .ok ())
    (refused : d.catalog.insert .null (.text draft.name) (.text draft.state) = .error e) :
    add draft ⟨.database d, false⟩ = (.error (.ofSql e), ⟨.database d, false⟩) := by
  unfold add Connection.executeOnCatalog Connection.execute
  simp only [h, refused]
  rfl

/-- **What adding a draft comes to**: the connection stays as it is, or its database, which may be
changed, takes the draft. -/
theorem add_cases (draft : Draft) (c : Connection) :
    (∃ e, add draft c = (.error e, c)) ∨
      ∃ d id catalog, c = ⟨.database d, false⟩ ∧
        d.catalog.insert .null (.text draft.name) (.text draft.state) = .ok (id, catalog) ∧
        add draft c = (.ok id, ⟨.database { d with catalog }, false⟩) := by
  obtain ⟨contents, readOnly⟩ := c
  unfold add Connection.executeOnCatalog Connection.execute
  cases draft.check with
  | error cause => exact .inl ⟨_, rfl⟩
  | ok _ =>
      cases contents with
      | octets _ | unreadable _ => exact .inl ⟨_, rfl⟩
      | database d =>
          cases inserted : d.catalog.insert .null (.text draft.name) (.text draft.state) with
          | error e =>
              simp only [inserted]
              exact .inl ⟨_, rfl⟩
          | ok new =>
              obtain ⟨id, catalog⟩ := new
              simp only [inserted]
              cases readOnly with
              | true => exact .inl ⟨_, rfl⟩
              | false => exact .inr ⟨d, id, catalog, rfl, inserted, rfl⟩

end Repository

/-! ### Records -/

/-- The row of a record. -/
def Record.row (r : Record) : Row :=
  ⟨r.id, .text r.name, .text r.state⟩

theorem Tuple.records_row (records : List Record) :
    Tuple.records ((records.map Record.row).map Catalog.tupleOf) = .ok records := by
  induction records with
  | nil => rfl
  | cons r rest ih =>
      rw [List.map_cons, List.map_cons, Tuple.records, ih]
      rfl

/-- The table of a database consists of the rows of these records; ids are not reserved. -/
def Database.Lists (d : Database) (records : List Record) : Prop :=
  ∃ t : Table, d.catalog.fractals = .table t ∧ t.sequence = none ∧ t.rows = records.map Record.row

/-- The id after those of records: one more than the last, or 1. -/
def nextIdAfter (records : List Record) : Int :=
  match records.getLast? with
  | some r => r.id + 1
  | none => 1

/-- The next id of a table is the one after its records. -/
theorem Table.nextId_of_rows {t : Table} {records : List Record} (sequence : t.sequence = none)
    (rows : t.rows = records.map Record.row) : t.nextId = nextIdAfter records := by
  rw [nextId, lastId?, rows, sequence, List.getLast?_map, nextIdAfter]
  cases records.getLast? with
  | none => rfl
  | some last => rfl

namespace Database.Lists

variable {d d' : Database} {records : List Record} {id : Int}

theorem list (h : d.Lists records) {readOnly : Bool} :
    Repository.list ⟨.database d, readOnly⟩ = .ok records := by
  obtain ⟨t, table, -, rows⟩ := h
  unfold Repository.list Connection.query Catalog.select
  simp only [table, rows, Tuple.records_row]

/-- A draft that is inserted becomes the last record, under the next id. -/
theorem insert (h : d.Lists records) (draft : Draft)
    (inserted : d.catalog.insert .null (.text draft.name) (.text draft.state) =
      .ok (id, d'.catalog)) :
    id = nextIdAfter records ∧ d'.Lists (records ++ [draft.withId id]) := by
  obtain ⟨t, table, sequence, rows⟩ := h
  obtain ⟨t', added, catalog⟩ := Catalog.insert_eq_ok table inserted
  obtain ⟨next, -, -, sequence', rows'⟩ := Table.add_null_eq_ok added
  refine ⟨?_, t', by rw [catalog], by rw [sequence', sequence]; rfl, ?_⟩
  · rw [next, Table.nextId_of_rows sequence rows]
  · rw [rows', rows, List.map_append]
    rfl

end Database.Lists

/-! ### Tables of the archive -/

/-- The table of a database is as the archive makes it, and has these rows. -/
def Database.Stores (d : Database) (rows : List Row) : Prop :=
  ∃ t : Table, d.catalog.fractals = .table t ∧ t.constraints = {} ∧ t.sequence = none ∧
    t.rows = rows

/-- A draft that the catalog takes is the last row. -/
theorem Database.Stores.insert {d d' : Database} {rows : List Row} {draft : Draft} {id : Int}
    (h : d.Stores rows)
    (inserted : d.catalog.insert .null (.text draft.name) (.text draft.state) =
      .ok (id, d'.catalog)) : d'.Stores (rows ++ [(draft.withId id).row]) := by
  obtain ⟨t, table, constraints, sequence, rfl⟩ := h
  obtain ⟨t', added, catalog⟩ := Catalog.insert_eq_ok table inserted
  obtain ⟨-, -, constraints', sequence', rows⟩ := Table.add_null_eq_ok added
  exact ⟨t', by rw [catalog], constraints'.trans constraints, by rw [sequence', sequence]; rfl,
    rows⟩

end FractalArchive
