import FractalArchive.Database.Table

/-!
# A table with a key column of its own

A table whose column `id` is an ordinary column with unique values, so that it may hold any value
and be left out.  Each row also has a row number, which is what an insertion reports.
-/

namespace FractalArchive

/-- A row with its row number. -/
structure KeyedRow where
  number : Int
  id : Cell
  name : Cell
  state : Cell
  deriving DecidableEq, Repr

/-- A table with a key column; the rows stand in the order of their numbers. -/
structure KeyedTable where
  rows : List KeyedRow := []
  deriving DecidableEq, Repr

namespace KeyedTable

/-- The order of types among keys: null, numbers, texts, blobs. -/
def kindRank : Cell.Kind → Nat
  | .null => 0
  | .integer => 1
  | .real => 1
  | .text => 2
  | .blob => 3

/-- The octets by which texts and blobs are ordered. -/
def keyOctets : Cell → Octets
  | .text s => octetsOf s
  | .malformed octets => octets
  | .blob octets => octets
  | _ => []

/-- A number as a signed quotient. -/
def keyNumber : Cell → Int × Nat
  | .integer n => (n, 1)
  | .real x => let (a, b) := x.magnitude; (if x.negative then -(a : Int) else a, b)
  | _ => (0, 1)

/-- Whether a key comes before another or is equal to it. -/
def keyLe (a b : Cell) : Bool :=
  let ra := kindRank a.kind
  let rb := kindRank b.kind
  if ra < rb then true
  else if rb < ra then false
  else if ra = 1 then
    let (p, q) := keyNumber a
    let (u, v) := keyNumber b
    p * v ≤ u * q
  else !(keyOctets b < keyOctets a)

/-- The rows in the order of their keys. -/
def inOrder (t : KeyedTable) : List KeyedRow :=
  t.rows.mergeSort fun a b => keyLe a.id b.id

/-- The row with an integer key. -/
def find? (t : KeyedTable) (id : Int) : Option KeyedRow :=
  t.rows.find? fun r => r.id == .integer id

/-- The number of the next row: after the last one, or 1. -/
def nextNumber (t : KeyedTable) : Int :=
  match t.rows.getLast? with
  | some r => r.number + 1
  | none => 1

/-- A new row; a key other than null must be new. -/
def add (t : KeyedTable) (id name state : Cell) : Except SqlError (Int × KeyedTable) :=
  let key := id.asInteger
  if key.kind != .null && t.rows.any (fun r => r.id == key) then .error (.unique "fractals" "id")
  else .ok (t.nextNumber, ⟨t.rows ++ [⟨t.nextNumber, key, name.asText, state.asText⟩]⟩)

/-- The table without the row of an integer key. -/
def remove (t : KeyedTable) (id : Int) : KeyedTable :=
  ⟨t.rows.filter fun r => r.id != .integer id⟩

/-- How many rows have an integer key. -/
def occurrences (t : KeyedTable) (id : Int) : Nat :=
  t.rows.countP fun r => r.id == .integer id

end KeyedTable

end FractalArchive
