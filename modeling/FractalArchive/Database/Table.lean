import FractalArchive.Database.Error

/-!
# The table of records

Rows under distinct integer ids, kept in ascending order of the ids.  A new row without an id gets
the number after the greatest id.  The invariant of the order is part of the type, so every
operation keeps it; `mem_insertRow` says that an insertion adds its row and nothing else.
-/

namespace FractalArchive

/-- A row. -/
structure Row where
  id : Int
  name : Cell
  state : Cell
  deriving DecidableEq, Repr

/-- Whether ids ascend. -/
abbrev Ascending (rows : List Row) : Prop :=
  rows.Pairwise fun a b => a.id < b.id

/-- The constraints on the columns. -/
structure Constraints where
  /-- No two rows have the same name. -/
  uniqueName : Bool := false
  /-- Name and state are not null. -/
  required : Bool := false
  /-- The state is not the empty text. -/
  stateNotEmpty : Bool := false
  deriving DecidableEq, Repr

/-- The table of records. -/
structure Table where
  constraints : Constraints := ⟨false, false, false⟩
  /-- The greatest id ever given, where ids are never given twice. -/
  sequence : Option Int := none
  rows : List Row := []
  ascending : Ascending rows := by exact List.Pairwise.nil
  deriving DecidableEq

namespace Table

/-- A row among ascending rows. -/
def insertRow (r : Row) : List Row → List Row
  | [] => [r]
  | a :: rest => if r.id < a.id then r :: a :: rest else a :: insertRow r rest

theorem mem_insertRow {r a : Row} {rows : List Row} :
    a ∈ insertRow r rows ↔ a = r ∨ a ∈ rows := by
  induction rows with
  | nil => simp [insertRow]
  | cons b rest ih =>
    unfold insertRow
    split
    · simp
    · simp only [List.mem_cons, ih]
      constructor
      · rintro (h | h | h) <;> simp [h]
      · rintro (h | h | h) <;> simp [h]

theorem ascending_insertRow {r : Row} {rows : List Row} (h : Ascending rows)
    (fresh : ∀ a ∈ rows, a.id ≠ r.id) : Ascending (insertRow r rows) := by
  induction rows with
  | nil => simp [insertRow, Ascending]
  | cons b rest ih =>
    obtain ⟨hb, hrest⟩ := List.pairwise_cons.mp h
    unfold insertRow
    split
    case isTrue lt =>
      refine List.pairwise_cons.mpr ⟨fun a ha => ?_, h⟩
      rcases List.mem_cons.mp ha with rfl | ha
      · exact lt
      · exact Int.lt_trans lt (hb a ha)
    case isFalse ge =>
      refine List.pairwise_cons.mpr
        ⟨fun a ha => ?_, ih hrest fun a ha => fresh a (List.mem_cons_of_mem _ ha)⟩
      rcases mem_insertRow.mp ha with rfl | ha
      · have := fresh b List.mem_cons_self
        omega
      · exact hb a ha

/-- The row of an id. -/
def find? (t : Table) (id : Int) : Option Row :=
  t.rows.find? fun r => r.id == id

/-- The greatest id. -/
def lastId? (t : Table) : Option Int :=
  t.rows.getLast?.map Row.id

/-- The id of the next row that comes without one: the number after the greatest id, or 1. -/
def nextId (t : Table) : Int :=
  let next := match t.lastId? with
    | some id => id + 1
    | none => 1
  match t.sequence with
  | some given => max next (given + 1)
  | none => next

/-- Why a row breaks the constraints, the first cause in the order they are checked. -/
def violation (t : Table) (r : Row) : Option SqlError :=
  if t.constraints.required && r.name.kind == .null then some (.notNull "fractals" "name")
  else if t.constraints.required && r.state.kind == .null then some (.notNull "fractals" "state")
  else if t.constraints.stateNotEmpty && r.state == .text "" then some (.check "state <> ''")
  else if t.rows.any (fun a => a.id == r.id) then some (.unique "fractals" "id")
  else if t.constraints.uniqueName && r.name.kind != .null && t.rows.any (fun a => a.name == r.name)
  then some (.unique "fractals" "name")
  else none

theorem fresh_of_violation {t : Table} {r : Row} (h : t.violation r = none) :
    ∀ a ∈ t.rows, a.id ≠ r.id := by
  intro a ha heq
  have taken : t.rows.any (fun a => a.id == r.id) = true := by
    rw [List.any_eq_true]
    exact ⟨a, ha, by simpa using heq⟩
  unfold violation at h
  rw [taken] at h
  repeat' split at h
  all_goals simp_all

/-- The table with one more row, if the row breaks no constraint. -/
def insert (t : Table) (r : Row) : Except SqlError Table :=
  match h : t.violation r with
  | some e => .error e
  | none =>
    .ok { t with
      rows := insertRow r t.rows
      ascending := ascending_insertRow t.ascending (fresh_of_violation h)
      sequence := t.sequence.map fun given => max given r.id }

/-- A new row with values for its columns; without an id it gets the next one. -/
def add (t : Table) (id : Cell) (name state : Cell) : Except SqlError (Int × Table) :=
  match id with
  | .null =>
    if Cell.greatestInteger < t.nextId then .error .full
    else (t.insert ⟨t.nextId, name.asText, state.asText⟩).map fun t' => (t.nextId, t')
  | id => match id.asInteger? with
    | some n => (t.insert ⟨n, name.asText, state.asText⟩).map fun t' => (n, t')
    | none => .error .datatypeMismatch

/-- The table without the row of an id. -/
def remove (t : Table) (id : Int) : Table :=
  { t with
    rows := t.rows.filter fun r => r.id != id
    ascending := t.ascending.sublist List.filter_sublist }

/-- How many rows have an id: one or none. -/
def occurrences (t : Table) (id : Int) : Nat :=
  t.rows.countP fun r => r.id == id

end Table

end FractalArchive
