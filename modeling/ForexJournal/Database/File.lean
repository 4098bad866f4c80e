import ForexJournal.Database.Table

/-!
# The database file

A database is kept in a text file, one record a line: a `table` line for each table with its
name and next row number, a `row` line for each of its rows with the row number and the cells,
and a `trigger` line for each trigger. Fields are separated by tabs. A cell is `n` for null,
`i` and the digits of an integer, `r` and the text of a real, or `t` and a text; a backslash,
a tab or a line break inside a text is written `\\`, `\t` or `\n`.

A table's columns and keys come from the journal's schema, found by the table's name;
`Database.decode` refuses a file naming another table or a line it cannot read.
-/

namespace ForexJournal

namespace DatabaseFile

/-- A text with its backslashes, tabs and line breaks escaped. -/
def escape (s : String) : String :=
  String.join (s.toList.map fun c =>
    if c == '\\' then "\\\\" else if c == '\t' then "\\t" else if c == '\n' then "\\n"
    else String.singleton c)

/-- The text an escaped text stands for. -/
def unescape : List Char → List Char
  | '\\' :: 't' :: rest => '\t' :: unescape rest
  | '\\' :: 'n' :: rest => '\n' :: unescape rest
  | '\\' :: c :: rest => c :: unescape rest
  | c :: rest => c :: unescape rest
  | [] => []

/-- A cell as a field. -/
def cell : SqlValue → String
  | .null => "n"
  | .integer n => "i" ++ toString n
  | .real x => "r" ++ toString x.bits.toNat
  | .text s => "t" ++ escape s

/-- The cell a field stands for. -/
def readCell (f : String) : Option SqlValue :=
  match f.toList with
  | ['n'] => some .null
  | 'i' :: ds => (SqlValue.integerText? (String.ofList ds)).map .integer
  | 'r' :: ds => (String.ofList ds).toNat?.map fun n => .real ⟨UInt64.ofNat n⟩
  | 't' :: cs => some (.text (String.ofList (unescape cs)))
  | _ => none

def timingField : TriggerTiming → String
  | .before => "before"
  | .after => "after"

/-- A trigger's event as a field: the watched columns follow `update` after colons. -/
def eventField : TriggerEvent → String
  | .insert => "insert"
  | .delete => "delete"
  | .update cols => ":".intercalate ("update" :: cols)

def actionField : RaiseAction → String
  | .ignore => "ignore"
  | .abort m => "abort:" ++ escape m

def tableLines (t : Table) : List String :=
  ("table\t" ++ t.schema.name ++ "\t" ++ toString t.nextRowid) ::
    t.rows.map fun (n, row) => "\t".intercalate ("row" :: toString n :: row.map cell)

def triggerLine (tr : Trigger) : String :=
  "\t".intercalate ["trigger", escape tr.name, tr.table, timingField tr.timing,
    eventField tr.event, actionField tr.action]

/-- Reads a trigger's fields. -/
def readTrigger (fields : List String) : Option Trigger := do
  let [name, table, timing, event, action] := fields | none
  let timing ← if timing == "before" then some TriggerTiming.before
    else if timing == "after" then some .after else none
  let event ← match event.splitOn ":" with
    | ["insert"] => some TriggerEvent.insert
    | ["delete"] => some .delete
    | "update" :: cols => some (.update cols)
    | _ => none
  let action ← if action == "ignore" then some RaiseAction.ignore
    else if action.startsWith "abort:" then some (.abort (String.ofList (unescape (action.drop 6).toString.toList)))
    else none
  return ⟨String.ofList (unescape name.toList), table, timing, event, action⟩

/-- Reads one line into the database read so far. -/
def readLine (db : Database) (line : String) : Option Database :=
  match line.splitOn "\t" with
  | ["table", name, next] => do
    let schema ← journalSchema.find? (·.name == name)
    let n ← (SqlValue.integerText? next).map Int.toNat
    return { db with tables := db.tables ++ [⟨schema, [], n⟩] }
  | "row" :: n :: cells => do
    let t ← db.tables.getLast?
    let n ← (SqlValue.integerText? n).map Int.toNat
    let row ← cells.mapM readCell
    if row.length != t.schema.columns.length then none
    else return db.putTable { t with rows := t.rows ++ [(n, row)] }
  | "trigger" :: fields => do
    let tr ← readTrigger fields
    return { db with triggers := db.triggers ++ [tr] }
  | [""] => some db
  | _ => none

end DatabaseFile

namespace Database

def encode (db : Database) : String :=
  String.join ((db.tables.flatMap DatabaseFile.tableLines ++
    db.triggers.map DatabaseFile.triggerLine).map (· ++ "\n"))

/-- The database a file holds, or `none` for a file that is no database. -/
def decode (text : String) : Option Database :=
  (text.splitOn "\n").foldlM DatabaseFile.readLine Database.empty

end Database

end ForexJournal
