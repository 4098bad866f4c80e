import ForexJournal.Database.Statement.Token
import ForexJournal.Database.Table

/-!
# Statements and their grammar

The statements a database accepts from outside: switching reference checks, dropping tables
and triggers, updating, inserting (literal rows or rows selected from a table), deleting, and
creating triggers that refuse or skip a change. Expressions cover literals, columns,
arithmetic, concatenation, comparisons, `LIKE`, `IS [NOT]`, `IN` lists and the connectives.

The parser is recursive descent over the tokens, one function per precedence level. Each
call passes on one unit of fuel less; the fuel given is ten per token, more than any nesting
of the levels needs, and a parse that runs out reports the parser's stack overflow.
-/

namespace ForexJournal

/-- An expression over the columns of one row. -/
inductive Expr where
  | lit (v : SqlValue)
  | col (name : String)
  | neg (e : Expr)
  | not (e : Expr)
  | binary (op : String) (a b : Expr)
  | inList (e : Expr) (items : List Expr) (negated : Bool)
  deriving Repr

/-- A statement. -/
inductive Statement where
  | foreignKeys (on : Bool)
  | dropTable (name : String) (ifExists : Bool)
  | dropTrigger (name : String) (ifExists : Bool)
  | update (table : String) (sets : List (String × Expr)) (cond : Option Expr)
  | insertValues (mode : ConflictMode) (table : String) (cols : Option (List String))
      (rows : List (List Expr))
  | insertSelect (mode : ConflictMode) (table : String) (cols : Option (List String))
      (items : List Expr) (source : String) (cond : Option Expr)
  | delete (table : String) (cond : Option Expr)
  | createTrigger (trigger : Trigger) (ifNotExists : Bool)
  /-- a statement with no effect on the stored data -/
  | noEffect
  deriving Repr

namespace Syntax

/-- The error for an unexpected token, or for the end of the text. -/
def unexpected {α : Type} : List Token → Except String α
  | t :: _ => .error ("near \"" ++ t.source ++ "\": syntax error")
  | [] => .error "incomplete input"

def keyword (k : String) : List Token → Except String (Unit × List Token)
  | t :: rest => if t.isKeyword k then .ok ((), rest) else unexpected (t :: rest)
  | [] => unexpected []

def optKeyword (k : String) : List Token → Bool × List Token
  | t :: rest => if t.isKeyword k then (true, rest) else (false, t :: rest)
  | [] => (false, [])

def symbol (s : String) : List Token → Except String (Unit × List Token)
  | .sym t :: rest => if t == s then .ok ((), rest) else unexpected (.sym t :: rest)
  | ts => unexpected ts

/-- Takes a name, bare or quoted; a name qualified by a schema keeps its last part. -/
def name : List Token → Except String (String × List Token)
  | .word _ :: .sym "." :: rest => name rest
  | .quoted _ :: .sym "." :: rest => name rest
  | .word w :: rest => .ok (w, rest)
  | .quoted q :: rest => .ok (q, rest)
  | .str s :: rest => .ok (s, rest)
  | ts => unexpected ts

/-- Names separated by commas. -/
def names : Nat → List Token → Except String (List String × List Token)
  | 0, ts => unexpected ts
  | fuel + 1, ts => do
    let (n, rest) ← name ts
    match rest with
    | .sym "," :: rest' => let (ns, r) ← names fuel rest'; return (n :: ns, r)
    | _ => return ([n], rest)

/-- The value of a numeric literal: an integer while it has neither point nor exponent and
fits in 64 bits, else a real. -/
def numberValue (n : String) : SqlValue :=
  match SqlValue.integerText? n with
  | some i => .integer i
  | none => .real (SqlValue.realLiteral n)

/-- The binary operators of a precedence level (0 is the loosest), each with the tokens it
takes and the operator it makes. -/
def levelOp (level : Nat) : List Token → Option (String × List Token)
  | t :: rest =>
    match level, t with
    | 0, _ => if t.isKeyword "OR" then some ("or", rest) else none
    | 1, _ => if t.isKeyword "AND" then some ("and", rest) else none
    | 3, .sym "=" => some ("=", rest)
    | 3, .sym "==" => some ("=", rest)
    | 3, .sym "!=" => some ("!=", rest)
    | 3, .sym "<>" => some ("!=", rest)
    | 3, _ =>
      if t.isKeyword "IS" then
        match rest with
        | u :: rest' => if u.isKeyword "NOT" then some ("is not", rest') else some ("is", rest)
        | [] => some ("is", rest)
      else if t.isKeyword "LIKE" then some ("like", rest)
      else if t.isKeyword "NOT" then
        match rest with
        | u :: rest' => if u.isKeyword "LIKE" then some ("not like", rest') else none
        | [] => none
      else none
    | 4, .sym "<" => some ("<", rest)
    | 4, .sym "<=" => some ("<=", rest)
    | 4, .sym ">" => some (">", rest)
    | 4, .sym ">=" => some (">=", rest)
    | 5, .sym "+" => some ("+", rest)
    | 5, .sym "-" => some ("-", rest)
    | 6, .sym "*" => some ("*", rest)
    | 6, .sym "/" => some ("/", rest)
    | 6, .sym "%" => some ("%", rest)
    | 7, .sym "||" => some ("||", rest)
    | _, _ => none
  | [] => none

/-- The `IN` or `NOT IN` that may follow an operand at the comparison level. -/
def inOp : List Token → Option (Bool × List Token)
  | t :: rest =>
    if t.isKeyword "IN" then some (false, rest)
    else if t.isKeyword "NOT" then
      match rest with
      | u :: rest' => if u.isKeyword "IN" then some (true, rest') else none
      | [] => none
    else none
  | [] => none

mutual

/-- An expression at a precedence level: 0 `OR`, 1 `AND`, 2 `NOT`, 3 equality, `IS`, `LIKE`
and `IN`, 4 order, 5 sums, 6 products, 7 concatenation, 8 signs and operands. -/
def expr : Nat → Nat → List Token → Except String (Expr × List Token)
  | 0, _, _ => .error "parser stack overflow"
  | fuel + 1, level, ts =>
    if level == 2 then
      match ts with
      | t :: rest =>
        if t.isKeyword "NOT" then (expr fuel 2 rest).map fun (e, r) => (.not e, r)
        else expr fuel 3 ts
      | [] => unexpected []
    else if level ≥ 8 then operand fuel ts
    else do
      let (lhs, rest) ← expr fuel (level + 1) ts
      tail fuel level lhs rest

/-- The operators that follow a left operand at a level, applied from the left. -/
def tail : Nat → Nat → Expr → List Token → Except String (Expr × List Token)
  | 0, _, _, _ => .error "parser stack overflow"
  | fuel + 1, level, lhs, ts =>
    match levelOp level ts with
    | some (op, rest) => do
      let (rhs, rest') ← expr fuel (level + 1) rest
      tail fuel level (.binary op lhs rhs) rest'
    | none =>
      if level == 3 then
        match inOp ts with
        | some (negated, rest) => do
          let ((), rest) ← symbol "(" rest
          let (items, rest) ← exprs fuel rest
          let ((), rest) ← symbol ")" rest
          tail fuel level (.inList lhs items negated) rest
        | none => .ok (lhs, ts)
      else .ok (lhs, ts)

/-- A sign applied to an operand, or an operand: a literal, `NULL`, a column or an
expression in brackets. -/
def operand : Nat → List Token → Except String (Expr × List Token)
  | 0, _ => .error "parser stack overflow"
  | fuel + 1, ts =>
    match ts with
    | .sym "-" :: rest => (operand fuel rest).map fun (e, r) => (.neg e, r)
    | .sym "+" :: rest => operand fuel rest
    | .sym "(" :: rest => do
      let (e, rest) ← expr fuel 0 rest
      let ((), rest) ← symbol ")" rest
      return (e, rest)
    | .num n :: rest => .ok (.lit (numberValue n), rest)
    | .str s :: rest => .ok (.lit (.text s), rest)
    | .word w :: .sym "(" :: _ => .error ("no such function: " ++ w)
    | t :: rest =>
      if t.isKeyword "NULL" then .ok (.lit .null, rest)
      else
        match name (t :: rest) with
        | .ok (n, r) => .ok (.col n, r)
        | .error e => .error e
    | [] => unexpected []

/-- Expressions separated by commas. -/
def exprs : Nat → List Token → Except String (List Expr × List Token)
  | 0, _ => .error "parser stack overflow"
  | fuel + 1, ts => do
    let (e, rest) ← expr fuel 0 ts
    match rest with
    | .sym "," :: rest' => let (es, r) ← exprs fuel rest'; return (e :: es, r)
    | _ => return ([e], rest)

end

/-- An optional `WHERE` clause. -/
def whereClause (fuel : Nat) : List Token → Except String (Option Expr × List Token)
  | t :: rest =>
    if t.isKeyword "WHERE" then (expr fuel 0 rest).map fun (e, r) => (some e, r)
    else .ok (none, t :: rest)
  | [] => .ok (none, [])

/-- The assignments of an `UPDATE`. -/
def assignments : Nat → List Token → Except String (List (String × Expr) × List Token)
  | 0, ts => unexpected ts
  | fuel + 1, ts => do
    let (c, rest) ← name ts
    let ((), rest) ← symbol "=" rest
    let (e, rest) ← expr fuel 0 rest
    match rest with
    | .sym "," :: rest' => let (more, r) ← assignments fuel rest'; return ((c, e) :: more, r)
    | _ => return ([(c, e)], rest)

/-- Bracketed rows of expressions after `VALUES`. -/
def valueRows : Nat → List Token → Except String (List (List Expr) × List Token)
  | 0, ts => unexpected ts
  | fuel + 1, ts => do
    let ((), rest) ← symbol "(" ts
    let (es, rest) ← exprs fuel rest
    let ((), rest) ← symbol ")" rest
    match rest with
    | .sym "," :: rest' => let (more, r) ← valueRows fuel rest'; return (es :: more, r)
    | _ => return ([es], rest)

/-- The tokens up to the end of the statement (a `;` or the end of the text). -/
def skipStatement (ts : List Token) : List Token := ts.dropWhile (· != .sym ";")

/-- The conflict mode of `OR IGNORE`, `OR REPLACE` and the like. -/
def conflictMode : List Token → Except String (ConflictMode × List Token)
  | t :: u :: rest =>
    if t.isKeyword "OR" then
      if u.isKeyword "IGNORE" then .ok (.ignore, rest)
      else if u.isKeyword "REPLACE" then .ok (.replace, rest)
      else if u.isKeyword "ABORT" || u.isKeyword "FAIL" || u.isKeyword "ROLLBACK" then
        .ok (.abort, rest)
      else unexpected (u :: rest)
    else .ok (.abort, t :: u :: rest)
  | ts => .ok (.abort, ts)

/-- The rest of an `INSERT` after its mode: target, columns and rows. -/
def insertBody (fuel : Nat) (mode : ConflictMode) (ts : List Token) : Except String (Statement × List Token) := do
  let ((), rest) ← keyword "INTO" ts
  let (table, rest) ← name rest
  let (cols, rest) ← match rest with
    | .sym "(" :: rest' => do
      let (cs, r) ← names fuel rest'
      let ((), r) ← symbol ")" r
      pure (some cs, r)
    | _ => pure (none, rest)
  match rest with
  | t :: rest' =>
    if t.isKeyword "VALUES" then
      let (rows, r) ← valueRows fuel rest'
      return (.insertValues mode table cols rows, r)
    else if t.isKeyword "SELECT" then
      let (items, r) ← exprs fuel rest'
      let ((), r) ← keyword "FROM" r
      let (source, r) ← name r
      let (cond, r) ← whereClause fuel r
      return (.insertSelect mode table cols items source cond, r)
    else unexpected (t :: rest')
  | [] => unexpected []

/-- The action of a trigger body `SELECT RAISE(...); END`; a body of another form has no
action the journal can observe. -/
def triggerBody : List Token → Except String (Option RaiseAction × List Token)
  | s :: r :: .sym "(" :: a :: rest =>
    if s.isKeyword "SELECT" && r.isKeyword "RAISE" then
      if a.isKeyword "IGNORE" then do
        let ((), rest) ← symbol ")" rest
        let ((), rest) ← symbol ";" rest
        let ((), rest) ← keyword "END" rest
        return (some .ignore, rest)
      else if a.isKeyword "ABORT" || a.isKeyword "FAIL" || a.isKeyword "ROLLBACK" then
        match rest with
        | .sym "," :: .str m :: rest => do
          let ((), rest) ← symbol ")" rest
          let ((), rest) ← symbol ";" rest
          let ((), rest) ← keyword "END" rest
          return (some (.abort m), rest)
        | ts => unexpected ts
      else unexpected (a :: rest)
    else
      let rest := (s :: r :: .sym "(" :: a :: rest).dropWhile fun t => !t.isKeyword "END"
      (keyword "END" rest).map fun ((), r) => (none, r)
  | ts =>
    let rest := ts.dropWhile fun t => !t.isKeyword "END"
    (keyword "END" rest).map fun ((), r) => (none, r)

/-- The rest of a `CREATE TRIGGER`. -/
def triggerStatement (fuel : Nat) (ts : List Token) : Except String (Statement × List Token) := do
  let (ifNot, rest) ← match ts with
    | i :: n :: e :: rest =>
      if i.isKeyword "IF" && n.isKeyword "NOT" && e.isKeyword "EXISTS" then pure (true, rest)
      else pure (false, ts)
    | _ => pure (false, ts)
  let (tname, rest) ← name rest
  let (timing, rest) := match rest with
    | t :: r =>
      if t.isKeyword "BEFORE" then (TriggerTiming.before, r)
      else if t.isKeyword "AFTER" then (.after, r)
      else (.before, t :: r)
    | [] => (.before, [])
  let (event, rest) ← match rest with
    | t :: r =>
      if t.isKeyword "INSERT" then pure (TriggerEvent.insert, r)
      else if t.isKeyword "DELETE" then pure (.delete, r)
      else if t.isKeyword "UPDATE" then
        match r with
        | o :: r' =>
          if o.isKeyword "OF" then do
            let (cs, r'') ← names fuel r'
            pure (.update cs, r'')
          else pure (.update [], r)
        | [] => pure (.update [], r)
      else unexpected (t :: r)
    | [] => unexpected []
  let ((), rest) ← keyword "ON" rest
  let (table, rest) ← name rest
  let rest := match rest with
    | f :: e :: r :: rest' =>
      if f.isKeyword "FOR" && e.isKeyword "EACH" && r.isKeyword "ROW" then rest' else rest
    | _ => rest
  let rest ← match rest with
    | w :: r =>
      if w.isKeyword "WHEN" then (expr fuel 0 r).map (·.2) else pure (w :: r)
    | [] => pure []
  let ((), rest) ← keyword "BEGIN" rest
  let (action, rest) ← triggerBody rest
  match action with
  | some a => return (.createTrigger ⟨tname, table, timing, event, a⟩ ifNot, rest)
  | none => return (.noEffect, rest)

/-- Reads `IF EXISTS` and a name. -/
def dropTarget (ts : List Token) : Except String ((String × Bool) × List Token) := do
  match ts with
  | i :: e :: rest =>
    if i.isKeyword "IF" && e.isKeyword "EXISTS" then
      let (n, r) ← name rest
      return ((n, true), r)
    else let (n, r) ← name ts; return ((n, false), r)
  | _ => let (n, r) ← name ts; return ((n, false), r)

/-- Whether a word switches a setting on or off. -/
def switchWord (w : String) : Option Bool :=
  let w := w.map Char.toUpper
  if w == "ON" || w == "TRUE" || w == "YES" then some true
  else if w == "OFF" || w == "FALSE" || w == "NO" then some false
  else none

/-- Whether a pragma value switches a setting on. -/
def switchValue (t : Token) : Option Bool :=
  match t with
  | .num "1" => some true
  | .num "0" => some false
  | .word w => switchWord w
  | .str s => switchWord s
  | _ => none

/-- One statement, from its first keyword. -/
def statement (fuel : Nat) : List Token → Except String (Statement × List Token)
  | [] => unexpected []
  | t :: rest =>
    if t.isKeyword "PRAGMA" then do
      let (n, r) ← name rest
      match r with
      | .sym "=" :: v :: r' =>
        if n.map Char.toLower == "foreign_keys" then
          match switchValue v with
          | some b => return (.foreignKeys b, r')
          | none => return (.noEffect, r')
        else return (.noEffect, r')
      | _ => return (.noEffect, skipStatement r)
    else if t.isKeyword "DROP" then
      match rest with
      | k :: r =>
        if k.isKeyword "TABLE" then
          (dropTarget r).map fun ((n, e), r') => (.dropTable n e, r')
        else if k.isKeyword "TRIGGER" then
          (dropTarget r).map fun ((n, e), r') => (.dropTrigger n e, r')
        else if k.isKeyword "INDEX" || k.isKeyword "VIEW" then
          (dropTarget r).map fun (_, r') => (.noEffect, r')
        else unexpected (k :: r)
      | [] => unexpected []
    else if t.isKeyword "UPDATE" then do
      let (_, r) ← conflictMode rest
      let (table, r) ← name r
      let ((), r) ← keyword "SET" r
      let (sets, r) ← assignments fuel r
      let (cond, r) ← whereClause fuel r
      return (.update table sets cond, r)
    else if t.isKeyword "INSERT" then do
      let (mode, r) ← conflictMode rest
      insertBody fuel mode r
    else if t.isKeyword "REPLACE" then insertBody fuel .replace rest
    else if t.isKeyword "DELETE" then do
      let ((), r) ← keyword "FROM" rest
      let (table, r) ← name r
      let (cond, r) ← whereClause fuel r
      return (.delete table cond, r)
    else if t.isKeyword "CREATE" then
      match rest with
      | k :: r =>
        if k.isKeyword "TRIGGER" then triggerStatement fuel r
        else if k.isKeyword "TEMP" || k.isKeyword "TEMPORARY" then
          match r with
          | k' :: r' => if k'.isKeyword "TRIGGER" then triggerStatement fuel r' else
              .ok (.noEffect, skipStatement r)
          | [] => unexpected []
        else .ok (.noEffect, skipStatement r)
      | [] => unexpected []
    else if t.isKeyword "SELECT" || t.isKeyword "BEGIN" || t.isKeyword "COMMIT" ||
        t.isKeyword "END" || t.isKeyword "ANALYZE" || t.isKeyword "VACUUM" then
      .ok (.noEffect, skipStatement rest)
    else unexpected (t :: rest)

def fuelFor (ts : List Token) : Nat := 10 * (ts.length + 1)

end Syntax

end ForexJournal
