import ForexJournal.Database.Statement.Syntax

/-!
# Running statements

A connection holds a database and its own switch for reference checks. Statements of a
script run one after another; the first that fails stops the script, and the statements
before it keep their effect. A statement that fails changes nothing.

Expressions are evaluated over one row with the database's rules: comparisons apply the
column's affinity to a literal on the other side, a null operand makes most results null,
and a condition holds when its value is a nonzero number. Arithmetic stays on 64-bit integers
while both operands are integers and the result fits, and is done on binary64 reals otherwise.
-/

namespace ForexJournal

/-- A connection to a database: the data and whether references are checked. -/
structure Connection where
  db : Database
  foreignKeys : Bool

namespace Expr

/-- A condition's value holds: a nonzero number, a text counting as the number of its
numeric prefix. -/
def truthy (v : SqlValue) : Bool :=
  match v with
  | .integer n => n != 0
  | v => !v.realValue.isZero

def ofBool (b : Bool) : SqlValue := .integer (if b then 1 else 0)

/-- The affinity an expression carries: a column's, or none. -/
def affinity (t : TableDef) : Expr → Option Affinity
  | .col n => (t.columns.find? fun c => sameName c.name n).map (·.affinity)
  | _ => none

/-- Applies the affinity of one side of a comparison to the other side. -/
def coerce (fa fb : Option Affinity) (a b : SqlValue) : SqlValue × SqlValue :=
  let numeric (x : Option Affinity) : Bool := x == some .integer
  if numeric fa && !numeric fb then (a, b.withAffinity .integer)
  else if numeric fb && !numeric fa then (a.withAffinity .integer, b)
  else if fa == some .text && fb == none then (a, b.withAffinity .text)
  else if fb == some .text && fa == none then (a.withAffinity .text, b)
  else (a, b)

/-- The outcome of comparing two values under an operator. -/
def holds (op : String) (o : Ordering) : Bool :=
  match op with
  | "=" | "is" => o == .eq
  | "!=" | "is not" => o != .eq
  | "<" => o == .lt
  | "<=" => o != .gt
  | ">" => o == .gt
  | _ => o != .lt

/-- Arithmetic on reals: the operands as reals, except that a remainder is taken of their
integer values; a division or remainder by zero, or a result that is not a number, is null. -/
def realArith (op : String) (a b : SqlValue) : SqlValue :=
  let ra := a.realValue
  let rb := b.realValue
  let real (x : Binary64) : SqlValue := if x.isNaN then .null else .real x
  match op with
  | "+" => real (ra.add rb)
  | "-" => real (ra.sub rb)
  | "*" => real (ra.mul rb)
  | "/" => if rb.isZero then .null else real (ra.div rb)
  | _ =>
    let ia := a.integerValue
    let ib := b.integerValue
    if ib == 0 then .null
    else real (Binary64.ofInt (ia.tmod (if ib == -1 then 1 else ib)))

/-- Arithmetic on two 64-bit integers; a result outside 64 bits is computed on reals, and a
division or remainder by zero is null. Quotients and remainders are cut toward zero. -/
def integerArith (op : String) (a b : SqlValue) (x y : Int) : SqlValue :=
  let checked (r : Int) : SqlValue :=
    if SqlValue.fitsInt64 r then .integer r else realArith op a b
  match op with
  | "+" => checked (x + y)
  | "-" => checked (x - y)
  | "*" => checked (x * y)
  | "/" =>
    if y == 0 then .null
    else if y == -1 && x == SqlValue.int64Min then realArith op a b
    else .integer (x.tdiv y)
  | _ => if y == 0 then .null else .integer (x.tmod (if y == -1 then 1 else y))

/-- Arithmetic as the database does it: null if either operand is null; on integers when
both operands are or read as integers (see `SqlValue.toNumber`); on reals otherwise. -/
def arith (op : String) (a b : SqlValue) : SqlValue :=
  match a.toNumber, b.toNumber with
  | some (.integer x), some (.integer y) => integerArith op a b x y
  | some _, some _ => realArith op a b
  | _, _ => .null

/-- Applies a binary operator to the values of its operands, whose affinities are `fa` and
`fb`. -/
def combine (op : String) (fa fb : Option Affinity) (a b : SqlValue) : SqlValue :=
  match op with
  | "or" =>
    if (a != .null && truthy a) || (b != .null && truthy b) then ofBool true
    else if a == .null || b == .null then .null else ofBool false
  | "and" =>
    if (a != .null && !truthy a) || (b != .null && !truthy b) then ofBool false
    else if a == .null || b == .null then .null else ofBool true
  | "||" =>
    match a.asText, b.asText with
    | some x, some y => .text (x ++ y)
    | _, _ => .null
  | "like" | "not like" =>
    match a.asText, b.asText with
    | some x, some y => ofBool (SqlValue.like x y == (op == "like"))
    | _, _ => .null
  | "is" | "is not" =>
    let (a, b) := coerce fa fb a b
    let same := if a == .null || b == .null then a == b else SqlValue.compare a b == .eq
    ofBool (same == (op == "is"))
  | "=" | "!=" | "<" | "<=" | ">" | ">=" =>
    let (a, b) := coerce fa fb a b
    if a == .null || b == .null then .null else ofBool (holds op (SqlValue.compare a b))
  | _ => arith op a b

def negate (v : SqlValue) : SqlValue := arith "-" (.integer 0) v

/-- The value of `v IN items` from the comparisons with each item. -/
def memberValue (v : SqlValue) (items : List SqlValue) (negated : Bool) : SqlValue :=
  if v == .null then .null
  else if items.any (SqlValue.sqlEq v) then ofBool !negated
  else if items.any (· == .null) then .null
  else ofBool negated

mutual

/-- The value of an expression over a row of a table. -/
def eval (t : TableDef) (row : List SqlValue) : Expr → Except String SqlValue
  | .lit v => .ok v
  | .col n =>
    match t.columns.findIdx? fun c => sameName c.name n with
    | some i => .ok (row.getD i .null)
    | none => .error ("no such column: " ++ n)
  | .neg e => negate <$> eval t row e
  | .not e => do
    let v ← eval t row e
    return if v == .null then .null else ofBool !(truthy v)
  | .binary op a b => do
    let va ← eval t row a
    let vb ← eval t row b
    return combine op (affinity t a) (affinity t b) va vb
  | .inList e items negated => do
    let v ← eval t row e
    return memberValue v (← evalAll t row items) negated

def evalAll (t : TableDef) (row : List SqlValue) : List Expr → Except String (List SqlValue)
  | [] => .ok []
  | e :: es => do return (← eval t row e) :: (← evalAll t row es)

end

mutual

/-- The first column an expression names that the table lacks. -/
def unknownColumn? (t : TableDef) : Expr → Option String
  | .lit _ => none
  | .col n => if t.columns.any (fun c => sameName c.name n) then none else some n
  | .neg e | .not e => unknownColumn? t e
  | .binary _ a b => (unknownColumn? t a).orElse fun _ => unknownColumn? t b
  | .inList e items _ => (unknownColumn? t e).orElse fun _ => unknownColumnIn? t items

def unknownColumnIn? (t : TableDef) : List Expr → Option String
  | [] => none
  | e :: es => (unknownColumn? t e).orElse fun _ => unknownColumnIn? t es

end

/-- Refuses expressions that name a column the table lacks. -/
def checkColumns (t : TableDef) (es : List Expr) : Except String Unit :=
  match unknownColumnIn? t es with
  | some n => .error ("no such column: " ++ n)
  | none => .ok ()

end Expr

namespace Connection

def table (c : Connection) (name : String) : Except String Table := c.db.requireTable name

/-- Whether a row satisfies an optional condition. -/
def satisfies (t : TableDef) (cond : Option Expr) (row : List SqlValue) : Except String Bool :=
  match cond with
  | none => .ok true
  | some e => Expr.truthy <$> e.eval t row

/-- Inserts rows of values for the given columns, one after another. -/
def insertRows (c : Connection) (table : String) (mode : ConflictMode) (cols : List String)
    (rows : List (List SqlValue)) : Except String Connection := do
  let db ← rows.foldlM (fun db vals => (·.1) <$> db.insert table (cols.zip vals) mode c.foreignKeys)
    c.db
  return { c with db }

/-- The columns an insert fills, checked against the number of values. -/
def insertColumns (t : Table) (cols : Option (List String)) (width : Nat) :
    Except String (List String) :=
  match cols with
  | some cs =>
    if cs.length == width then .ok cs
    else .error (toString width ++ " values for " ++ toString cs.length ++ " columns")
  | none =>
    let cs := t.schema.columnNames
    if cs.length == width then .ok cs
    else .error ("table " ++ t.schema.name ++ " has " ++ toString cs.length ++
      " columns but " ++ toString width ++ " values were supplied")

/-- Runs one statement. -/
def run (c : Connection) : Statement → Except String Connection
  | .foreignKeys on => .ok { c with foreignKeys := on }
  | .noEffect => .ok c
  | .dropTable n ifExists => do return { c with db := ← c.db.dropTable n ifExists c.foreignKeys }
  | .dropTrigger n ifExists =>
    if c.db.triggers.any (fun tr => sameName tr.name n) then
      .ok { c with db := { c.db with triggers := c.db.triggers.filter fun tr => !sameName tr.name n } }
    else if ifExists then .ok c
    else .error ("no such trigger: " ++ n)
  | .update table sets cond => do
    let t ← c.table table
    if let some (k, _) := sets.find? fun (k, _) => !(t.schema.columns.any fun col => sameName col.name k) then
      throw ("no such column: " ++ k)
    Expr.checkColumns t.schema (sets.map (·.2) ++ cond.toList)
    let assign (row : List SqlValue) := sets.mapM fun (k, e) => do return (k, ← e.eval t.schema row)
    let (db, _) ← c.db.update table (sets.map (·.1)) assign (satisfies t.schema cond) c.foreignKeys
    return { c with db }
  | .insertValues mode table cols rows => do
    let t ← c.table table
    let noColumns : TableDef := ⟨table, [], none, []⟩
    let width := (rows.head?.map List.length).getD 0
    if rows.any (·.length != width) then throw "all VALUES must have the same number of terms"
    let cs ← insertColumns t cols width
    let vals ← rows.mapM fun r => do
      Expr.checkColumns noColumns r
      Expr.evalAll noColumns [] r
    c.insertRows table mode cs vals
  | .insertSelect mode table cols items source cond => do
    let t ← c.table table
    let s ← c.table source
    let cs ← insertColumns t cols items.length
    Expr.checkColumns s.schema (items ++ cond.toList)
    let rows := (s.rows.mergeSort fun a b => a.1 ≤ b.1).map (·.2)
    let chosen ← rows.filterM (satisfies s.schema cond)
    let vals ← chosen.mapM fun row => Expr.evalAll s.schema row items
    c.insertRows table mode cs vals
  | .delete table cond => do
    let t ← c.table table
    Expr.checkColumns t.schema cond.toList
    let (db, _) ← c.db.delete table (satisfies t.schema cond) c.foreignKeys
    return { c with db }
  | .createTrigger tr ifNotExists =>
    if c.db.triggers.any (fun u => sameName u.name tr.name) then
      if ifNotExists then .ok c else .error ("trigger " ++ tr.name ++ " already exists")
    else if (c.db.table? tr.table).isNone then .error ("no such table: main." ++ tr.table)
    else .ok { c with db := { c.db with triggers := c.db.triggers ++ [tr] } }

/-- Runs the statements of a token list; `fuel` bounds their number. Gives the connection
after the statements that ran and the error that stopped them, if any. -/
def runTokens (c : Connection) : Nat → List Token → Connection × Option String
  | 0, _ => (c, none)
  | fuel + 1, ts =>
    match ts.dropWhile (· == .sym ";") with
    | [] => (c, none)
    | ts =>
      match Syntax.statement (Syntax.fuelFor ts) ts with
      | .error e => (c, some e)
      | .ok (st, rest) =>
        match rest with
        | t :: _ =>
          if t != .sym ";" then (c, some ("near \"" ++ t.source ++ "\": syntax error"))
          else
            match c.run st with
            | .ok c' => c'.runTokens fuel rest
            | .error e => (c, some e)
        | [] =>
          match c.run st with
          | .ok c' => (c', none)
          | .error e => (c, some e)

/-- Runs a script of statements separated by `;`. -/
def runScript (c : Connection) (script : String) : Connection × Option String :=
  match Token.scanText script with
  | .error e => (c, some e)
  | .ok ts => c.runTokens (ts.length + 1) ts

end Connection

end ForexJournal
