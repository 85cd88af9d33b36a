import FractalArchive.Proofs.Service.Archiving

/-!
# Jobs

A job performs operations of the repository one after another, each chosen from the results of
those before, and at the end returns a value, returns an error or panics.  Whichever way it ends,
the records that it has added are in the table (`Job.work_hasRows`), and nothing else has changed
(`Job.work_grows`).

Jobs that are performed on one connection, each on what the last one left, are the measure for
sessions of a store (`performAll`).
-/

namespace FractalArchive

/-! ### Connections -/

/-- The database of a connection has a table of records with these rows. -/
def Connection.HasRows (c : Connection) (rows : List Row) : Prop :=
  ∃ d t, c.contents = .database d ∧ d.catalog.fractals = .table t ∧ t.rows = rows

/-- A connection after another: nothing has changed, or the database may be changed and has
something of the name `fractals`. -/
def Connection.Grows (c c' : Connection) : Prop :=
  c' = c ∨ ∃ d d', c = ⟨.database d, false⟩ ∧ c' = ⟨.database d', false⟩ ∧
    d.catalog.fractals ≠ .absent

namespace Connection.Grows

variable {c c₁ c₂ : Connection}

theorem trans (h : c.Grows c₁) (h' : c₁.Grows c₂) : c.Grows c₂ := by
  rcases h with rfl | ⟨d, d₁, rfl, rfl, some⟩
  · exact h'
  rcases h' with rfl | ⟨_, d₂, -, rfl, -⟩
  · exact .inr ⟨d, d₁, rfl, rfl, some⟩
  · exact .inr ⟨d, d₂, rfl, rfl, some⟩

theorem readOnly (h : c.Grows c₁) : c₁.readOnly = c.readOnly := by
  rcases h with rfl | ⟨d, d₁, rfl, rfl, -⟩
  · rfl
  · rfl

end Connection.Grows

namespace Repository

variable {c : Connection} {rows : List Row}

/-- Adding a draft adds the row of its record, if it succeeds. -/
theorem add_hasRows (h : c.HasRows rows) (draft : Draft) :
    (add draft c).2.HasRows (rows ++ (draft.added (add draft c).1).map Record.row) := by
  rcases add_cases draft c with ⟨e, refused⟩ | ⟨d, id, catalog, rfl, inserted, added⟩
  · rw [refused]
    show c.HasRows (rows ++ [])
    rwa [List.append_nil]
  · obtain ⟨_, t, e, table, rfl⟩ := h
    cases e
    obtain ⟨t', new, rfl⟩ := Catalog.insert_eq_ok table inserted
    obtain ⟨-, -, -, -, rows'⟩ := Table.add_null_eq_ok new
    rw [added]
    exact ⟨_, t', rfl, rfl, rows'⟩

theorem add_grows (draft : Draft) (c : Connection) : c.Grows (add draft c).2 := by
  rcases add_cases draft c with ⟨e, refused⟩ | ⟨d, id, catalog, rfl, inserted, added⟩
  · rw [refused]
    exact .inl rfl
  · rw [added]
    refine .inr ⟨d, _, rfl, rfl, fun absent => ?_⟩
    unfold Catalog.insert at inserted
    rw [absent] at inserted
    cases inserted

end Repository

/-! ### Jobs -/

/-- Operations of the repository, each chosen from the results of those before, and an end. -/
inductive Job (ε α : Type) where
  | finish (result : Except ε α)
  | panic (message : String)
  | add (draft : Draft) (next : Except RepositoryError Int → Job ε α)
  | find (id : Int) (next : Except RepositoryError (Option Record) → Job ε α)
  | list (next : Except RepositoryError (List Record) → Job ε α)
  | count (next : Except RepositoryError Nat → Job ε α)

namespace Job

variable {ε α : Type} {c : Connection} {rows : List Row}

/-- The work of a job. -/
def work : Job ε α → Work ε α
  | .finish result, c => ⟨.returned result, c, []⟩
  | .panic message, c => ⟨.panicked message, c, []⟩
  | .add draft next, c => (next (Repository.add draft c).1).work (Repository.add draft c).2
  | .find id next, c => (next (Repository.find? id c)).work c
  | .list next, c => (next (Repository.list c)).work c
  | .count next, c => (next (Repository.count c)).work c

/-- The records that a job adds. -/
def added : Job ε α → Connection → List Record
  | .finish _, _ => []
  | .panic _, _ => []
  | .add draft next, c => draft.added (Repository.add draft c).1 ++
    (next (Repository.add draft c).1).added (Repository.add draft c).2
  | .find id next, c => (next (Repository.find? id c)).added c
  | .list next, c => (next (Repository.list c)).added c
  | .count next, c => (next (Repository.count c)).added c

/-- **A job adds its records** to the table, however it ends. -/
theorem work_hasRows (t : Job ε α) (h : c.HasRows rows) :
    (t.work c).connection.HasRows (rows ++ (t.added c).map Record.row) := by
  induction t generalizing c rows with
  | finish result | panic message =>
      show c.HasRows (rows ++ [])
      rwa [List.append_nil]
  | add draft next ih =>
      rw [added, List.map_append, ← List.append_assoc]
      exact ih _ (Repository.add_hasRows h draft)
  | find id next ih => exact ih _ h
  | list next ih => exact ih _ h
  | count next ih => exact ih _ h

/-- **A job changes nothing else** than to add, where there is something to add to. -/
theorem work_grows (t : Job ε α) (c : Connection) : c.Grows (t.work c).connection := by
  induction t generalizing c with
  | finish result | panic message => exact .inl rfl
  | add draft next ih => exact (Repository.add_grows draft c).trans (ih _ _)
  | find id next ih => exact ih _ c
  | list next ih => exact ih _ c
  | count next ih => exact ih _ c

/-! ### Jobs one after another -/

/-- What jobs leave that are performed one after another. -/
structure Performance (ε α : Type) where
  outcomes : List (Outcome ε α)
  connection : Connection
  /-- The records that they added. -/
  added : List Record

/-- Performs jobs one after another, each on what the last one left. -/
def performAll : List (Job ε α) → Connection → Performance ε α
  | [], c => ⟨[], c, []⟩
  | t :: rest, c =>
    let w := t.work c
    let after := performAll rest w.connection
    ⟨w.outcome :: after.outcomes, after.connection, t.added c ++ after.added⟩

/-- **Jobs add their records** to the table, one after another. -/
theorem performAll_hasRows (jobs : List (Job ε α)) (h : c.HasRows rows) :
    (performAll jobs c).connection.HasRows (rows ++ (performAll jobs c).added.map Record.row) := by
  induction jobs generalizing c rows with
  | nil =>
      show c.HasRows (rows ++ [])
      rwa [List.append_nil]
  | cons t rest ih =>
      rw [performAll, List.map_append, ← List.append_assoc]
      exact ih (t.work_hasRows h)

end Job

end FractalArchive
