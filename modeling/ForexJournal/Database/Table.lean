import ForexJournal.Database.Schema

/-!
# Tables and their changes

A database is a list of tables and a list of triggers. A table keeps its rows with their row
numbers, in insertion order. Inserting, updating and deleting rows apply the database's rules
in its order: triggers that run before the change, then not-null checks, column checks and
unique keys, then references to parent tables (when reference checks are on), then triggers
that run after the change. A trigger either raises an error, which fails the statement, or
says to ignore the row, which skips it silently.

Every change is a function from the old database to the new one or to the error message, so
a failed statement leaves nothing behind.
-/

namespace ForexJournal

abbrev Row := List SqlValue

/-- A table with its rows, each with its row number, and the next row number to use. -/
structure Table where
  schema : TableDef
  rows : List (Nat × Row)
  nextRowid : Nat

/-- When a trigger runs. -/
inductive TriggerTiming where
  | before
  | after
  deriving DecidableEq, Repr

/-- What a trigger watches; an update trigger may name the columns it watches. -/
inductive TriggerEvent where
  | insert
  | update (columns : List String)
  | delete
  deriving DecidableEq, Repr

/-- What a trigger does. -/
inductive RaiseAction where
  /-- skip the row -/
  | ignore
  /-- fail the statement with this message -/
  | abort (message : String)
  deriving DecidableEq, Repr

/-- A trigger on a table. -/
structure Trigger where
  name : String
  table : String
  timing : TriggerTiming
  event : TriggerEvent
  action : RaiseAction
  deriving DecidableEq, Repr

/-- A database: its tables and its triggers, in creation order. -/
structure Database where
  tables : List Table
  triggers : List Trigger

/-- How an insert treats a row that breaks a unique key (or a not-null or column check). -/
inductive ConflictMode where
  | abort
  | ignore
  | replace
  deriving DecidableEq, Repr

def sameName (a b : String) : Bool := a.map Char.toLower == b.map Char.toLower

namespace Table

def empty (schema : TableDef) : Table := ⟨schema, [], 1⟩

/-- A column's value in a row of this table. -/
def get (t : Table) (row : Row) (col : String) : SqlValue :=
  match t.schema.columnIndex? col with
  | some i => row.getD i .null
  | none => .null

def values (t : Table) : List Row := t.rows.map (·.2)

end Table

namespace Database

def empty : Database := ⟨[], []⟩

def table? (db : Database) (name : String) : Option Table :=
  db.tables.find? fun t => sameName t.schema.name name

def noSuchTable (name : String) : String := "no such table: " ++ name

/-- The table with the given name, or the error for a missing one. -/
def requireTable (db : Database) (name : String) : Except String Table :=
  match db.table? name with
  | some t => .ok t
  | none => .error (noSuchTable name)

def putTable (db : Database) (t : Table) : Database :=
  { db with tables := db.tables.map fun u => if sameName u.schema.name t.schema.name then t else u }

def createTable (db : Database) (schema : TableDef) : Database :=
  if (db.table? schema.name).isSome then db
  else { db with tables := db.tables ++ [Table.empty schema] }

/-- The first action of the triggers that fire on a table at a moment for an event touching
the given columns, the latest created first. -/
def triggerAction (db : Database) (table : String) (timing : TriggerTiming)
    (event : TriggerEvent) (changed : List String) : Option RaiseAction :=
  let fires (tr : Trigger) : Bool :=
    sameName tr.table table && tr.timing == timing &&
      match tr.event, event with
      | .insert, .insert => true
      | .delete, .delete => true
      | .update cols, .update _ => cols.isEmpty || cols.any fun c => changed.any (sameName c)
      | _, _ => false
  (db.triggers.reverse.find? fires).map (·.action)

/-- Whether some row of the parent table has this value in its key column; `none` when the
parent table is missing. -/
def parentHas (db : Database) (parent pcol : String) (v : SqlValue) : Option Bool :=
  (db.table? parent).map fun p => p.values.any fun r => SqlValue.sqlEq (p.get r pcol) v

/-- Checks the references of a row's columns (only the columns in `cols`) to their parents. -/
def checkReferences (db : Database) (t : Table) (row : Row) (cols : List String) :
    Except String Unit :=
  t.schema.columns.forM fun c =>
    match c.references with
    | some (parent, pcol) =>
      let v := t.get row c.name
      if !cols.any (sameName c.name) || v == .null then .ok ()
      else
        match db.parentHas parent pcol v with
        | none => .error (noSuchTable ("main." ++ parent))
        | some true => .ok ()
        | some false => .error "FOREIGN KEY constraint failed"
    | none => .ok ()

/-- Checks that no row of another table still refers to a key value of `t` that is gone:
`before` are the table's rows before the change and `after` its rows after it. -/
def checkReferrers (db : Database) (t : Table) (before after : List Row) : Except String Unit :=
  db.tables.forM fun child =>
    child.schema.columns.forM fun c =>
      match c.references with
      | some (parent, pcol) =>
        if !sameName parent t.schema.name then .ok ()
        else
          let gone := (before.map fun r => t.get r pcol).filter fun v =>
            v != .null && !(after.any fun r => SqlValue.sqlEq (t.get r pcol) v)
          let orphaned := child.values.any fun r =>
            let v := child.get r c.name
            gone.any (SqlValue.sqlEq v)
          if orphaned then .error "FOREIGN KEY constraint failed" else .ok ()
      | none => .ok ()

/-- Checks a row against the not-null and column checks; gives the first message. -/
def checkColumns (t : Table) (row : Row) : Option String :=
  let notNull := t.schema.columns.find? fun c => c.notNull && t.get row c.name == .null
  match notNull with
  | some c => some ("NOT NULL constraint failed: " ++ t.schema.name ++ "." ++ c.name)
  | none =>
    let failed := t.schema.columns.find? fun c =>
      match c.check with
      | some (chk, _) => !chk.passes (t.get row c.name)
      | none => false
    match failed with
    | some c => some ("CHECK constraint failed: " ++ ((c.check.map (·.2)).getD c.name))
    | none => none

/-- The unique keys a row breaks against the given other rows, with the rows it clashes with. -/
def clashes (t : Table) (row : Row) (others : List (Nat × Row)) : List (List String × List Nat) :=
  t.schema.uniqueKeys.filterMap fun key =>
    let keyVals := key.map (t.get row)
    if keyVals.any (· == .null) then none
    else
      let hits := others.filter fun (_, r) =>
        (key.zip keyVals).all fun (k, v) => SqlValue.sqlEq (t.get r k) v
      if hits.isEmpty then none else some (key, hits.map (·.1))

def uniqueMessage (table : String) (key : List String) : String :=
  "UNIQUE constraint failed: " ++ ", ".intercalate (key.map fun k => table ++ "." ++ k)

/-- The first unique key on which two of the rows agree (rows with a null in the key never
clash). -/
def duplicateKey (t : Table) (rows : List Row) : Option (List String) :=
  t.schema.uniqueKeys.find? fun key =>
    let keyOf (r : Row) : List SqlValue := key.map (t.get r)
    let vals := (rows.filter fun r => !(keyOf r).any (· == SqlValue.null)).map keyOf
    vals.zipIdx.any fun (v, i) =>
      (vals.drop (i + 1)).any fun w => (v.zip w).all fun (a, b) => SqlValue.sqlEq a b

end Database

/-- The value given for a column, null when none is. -/
def ColumnDef.givenValue (c : ColumnDef) (values : List (String × SqlValue)) : SqlValue :=
  match values.find? fun (n, _) => sameName n c.name with
  | some (_, v) => v
  | none => .null

namespace TableDef

/-- The given column values in column order, each with its column's affinity. -/
def givenRow (d : TableDef) (values : List (String × SqlValue)) : Row :=
  d.columns.map fun c => (c.givenValue values).withAffinity c.affinity

/-- A row with the assigned columns set, each value with its column's affinity, and the other
columns as they were. -/
def assignedRow (d : TableDef) (vals : List (String × SqlValue)) (old : Row) : Row :=
  d.columns.map fun c =>
    match vals.find? fun (k, _) => sameName k c.name with
    | some (_, v) => v.withAffinity c.affinity
    | none => d.get old c.name

end TableDef

namespace Table

/-- The row an insert of the given column values writes, with its row number. A value for an
unknown column is refused. The numbering column, if the table has one, takes the next row
number when it is not given. -/
def newRow (t : Table) (values : List (String × SqlValue)) : Except String (Nat × Row) := do
  if let some (c, _) := values.find? fun (c, _) => !(t.schema.columns.any fun d => sameName d.name c) then
    throw ("table " ++ t.schema.name ++ " has no column named " ++ c)
  let row0 := t.schema.givenRow values
  match t.schema.rowNumber with
  | some rc =>
    match t.get row0 rc with
    | .null =>
      let n := t.nextRowid
      pure (n, t.schema.columns.map fun c => if c.name == rc then .integer n else t.get row0 c.name)
    | .integer n => if n < 0 then throw "datatype mismatch" else pure (n.toNat, row0)
    | _ => throw "datatype mismatch"
  | none => pure (t.nextRowid, row0)

end Table

namespace Database

/-- Inserts a row given as column values (missing columns are null), applying each column's
affinity. Gives the new database and whether a row was written; a row skipped by a trigger
or by `ignore` is not written. -/
def insert (db : Database) (table : String) (values : List (String × SqlValue))
    (mode : ConflictMode) (fk : Bool) : Except String (Database × Bool) := do
  let t ← db.requireTable table
  let (rowid, row) ← t.newRow values
  match db.triggerAction t.schema.name .before .insert [] with
  | some .ignore => return (db, false)
  | some (.abort m) => throw m
  | none => pure ()
  if let some m := checkColumns t row then
    if mode == .ignore then return (db, false) else throw m
  let hits := clashes t row t.rows
  let kept ← match hits.head?, mode with
    | none, _ => pure t.rows
    | some _, .ignore => return (db, false)
    | some (key, _), .abort => throw (uniqueMessage t.schema.name key)
    | some _, .replace =>
      let dropped := hits.flatMap (·.2)
      pure (t.rows.filter fun (n, _) => !dropped.contains n)
  if fk then db.checkReferences t row (t.schema.columns.map (·.name))
  let t' := { t with rows := kept ++ [(rowid, row)], nextRowid := Nat.max t.nextRowid (rowid + 1) }
  match db.triggerAction t.schema.name .after .insert [] with
  | some (.abort m) => throw m
  | _ => pure ()
  return (db.putTable t', true)

/-- One row of an update, added to the rows done so far and their count of changes: a row
that `pred` refuses or a trigger skips is kept, any other is replaced by its assigned row. -/
def updateRow (db : Database) (t : Table) (changed : List String)
    (assign : Row → Except String (List (String × SqlValue))) (pred : Row → Except String Bool)
    (acc : List (Nat × Row) × Nat) (entry : Nat × Row) :
    Except String (List (Nat × Row) × Nat) := do
  let (done, count) := acc
  let (n, old) := entry
  if !(← pred old) then return (done ++ [entry], count)
  match db.triggerAction t.schema.name .before (.update changed) changed with
  | some .ignore => return (done ++ [entry], count)
  | some (.abort m) => throw m
  | none => pure ()
  let new := t.schema.assignedRow (← assign old) old
  if let some m := checkColumns t new then throw m
  return (done ++ [(n, new)], count + 1)

/-- Updates the rows that satisfy `pred`, each with the column values `assign` gives for it.
Gives the new database and the number of rows changed. -/
def update (db : Database) (table : String) (changed : List String)
    (assign : Row → Except String (List (String × SqlValue))) (pred : Row → Except String Bool)
    (fk : Bool) : Except String (Database × Nat) := do
  let t ← db.requireTable table
  if let some c := changed.find? fun c => !(t.schema.columns.any fun d => sameName d.name c) then
    throw ("no such column: " ++ c)
  let (rows, count) ← t.rows.foldlM (db.updateRow t changed assign pred) ([], 0)
  let t' := { t with rows := rows }
  if let some key := duplicateKey t t'.values then throw (uniqueMessage t.schema.name key)
  if fk then
    t'.values.forM fun r => db.checkReferences t r changed
    db.checkReferrers t t.values t'.values
  match db.triggerAction t.schema.name .after (.update changed) changed with
  | some (.abort m) => if count > 0 then throw m else pure ()
  | _ => pure ()
  return (db.putTable t', count)

/-- Deletes the rows that satisfy `pred`. Gives the new database and the number deleted. -/
def delete (db : Database) (table : String) (pred : Row → Except String Bool) (fk : Bool) :
    Except String (Database × Nat) := do
  let t ← db.requireTable table
  let step (acc : List (Nat × Row) × Nat) (entry : Nat × Row) :
      Except String (List (Nat × Row) × Nat) := do
    let (kept, count) := acc
    if !(← pred entry.2) then return (kept ++ [entry], count)
    match db.triggerAction t.schema.name .before .delete [] with
    | some .ignore => return (kept ++ [entry], count)
    | some (.abort m) => throw m
    | none => return (kept, count + 1)
  let (kept, count) ← t.rows.foldlM step ([], 0)
  let t' := { t with rows := kept }
  if fk then db.checkReferrers t t.values t'.values
  return (db.putTable t', count)

/-- Drops a table and its triggers; with reference checks on, the table's rows must not be
referred to. -/
def dropTable (db : Database) (name : String) (ifExists : Bool) (fk : Bool) :
    Except String Database := do
  match db.table? name with
  | none => if ifExists then return db else throw (noSuchTable name)
  | some t =>
    if fk then db.checkReferrers t t.values []
    return { tables := db.tables.filter fun u => !sameName u.schema.name name,
             triggers := db.triggers.filter fun tr => !sameName tr.table name }

/-- The rows of a table that satisfy `pred`, in row-number order. -/
def select (db : Database) (table : String) (pred : Row → Bool) : Except String (List Row) := do
  let t ← db.requireTable table
  return (t.rows.mergeSort (fun a b => a.1 ≤ b.1)).map (·.2) |>.filter pred

def initializeSchema (db : Database) : Database := journalSchema.foldl createTable db

end Database

end ForexJournal
