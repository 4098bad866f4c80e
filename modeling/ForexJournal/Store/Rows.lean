import ForexJournal.Store.Codec

/-!
# Reading and writing rows

The store's statements, over the relational model: each selects rows of one table by a
condition, orders them, and reads the named columns in order; each write inserts or updates
rows with reference checks on. Errors of the database become `DatabaseQuery` errors with the
database's message.
-/

namespace ForexJournal

namespace Rows

def queryError (message : String) : JournalError := .databaseQuery message

def lift {α : Type} : Except String α → Except JournalError α
  | .ok a => .ok a
  | .error m => .error (queryError m)

/-- The named columns of a table's row, in the given order. -/
def project (t : Table) (cols : List String) (row : Row) : Codec.Selected :=
  ⟨cols, cols.map (t.get row)⟩

/-- The rows of a table satisfying `pred`, in row-number order, ordered by `key` (a stable
sort when `key` is given), with the named columns. -/
def selectOrdered (db : Database) (table : String) (cols : List String) (pred : Table → Row → Bool)
    (before : Table → Row → Row → Bool) : Except JournalError (List Codec.Selected) := do
  let t ← lift (db.requireTable table)
  let rows := ((t.rows.mergeSort fun a b => a.1 ≤ b.1).map (·.2)).filter (pred t)
  return (rows.mergeSort (before t)).map (project t cols)

def noOrder (_ : Table) (_ _ : Row) : Bool := true

/-- Rows in ascending order of the given columns, compared in turn. -/
def byColumns (cols : List String) (t : Table) (a b : Row) : Bool :=
  let rec go : List String → Bool
    | [] => true
    | c :: cs =>
      match SqlValue.compare (t.get a c) (t.get b c) with
      | .lt => true
      | .gt => false
      | .eq => go cs
  go cols

def whereText (col value : String) (t : Table) (row : Row) : Bool :=
  SqlValue.sqlEq (t.get row col) (.text value)

/-- Decodes every row with `decode`, stopping at the first failure. -/
def decodeAll {α : Type} (decode : Codec.Selected → Except String α) (rows : List Codec.Selected) :
    Except JournalError (List α) :=
  lift (rows.mapM decode)

/-- Decodes the first row, if there is one. -/
def decodeFirst {α : Type} (decode : Codec.Selected → Except String α)
    (rows : List Codec.Selected) : Except JournalError (Option α) :=
  match rows with
  | [] => .ok none
  | r :: _ => (lift (decode r)).map some

end Rows

end ForexJournal
