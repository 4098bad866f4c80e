import ForexJournal.Database.Value

/-!
# Table definitions

A table has typed columns, a primary key, unique keys and references to other tables. The
journal's six tables are defined here: accounts, candles, indicators, trades, executions and
rule results. Every stored decimal, identifier and timestamp is text; leverages, versions and
volumes are integers.

Column checks are the two kinds the journal uses: a number above zero and a text from a fixed
list. A check passes on null, as in the database. The text of a check is kept for its error
message.
-/

namespace ForexJournal

/-- A check on a column's value. -/
inductive ColumnCheck where
  /-- the value is above zero (any text counts as above every number) -/
  | positive
  /-- the value is one of these texts -/
  | oneOf (values : List String)
  deriving DecidableEq, Repr

/-- One column. -/
structure ColumnDef where
  name : String
  affinity : Affinity
  notNull : Bool
  check : Option (ColumnCheck × String)
  /-- the parent table and column this column refers to -/
  references : Option (String × String)
  deriving DecidableEq, Repr

/-- One table: its columns, the column that numbers the rows (if any), and its unique keys,
the primary key first. -/
structure TableDef where
  name : String
  columns : List ColumnDef
  rowNumber : Option String
  uniqueKeys : List (List String)
  deriving DecidableEq, Repr

namespace ColumnCheck

/-- Whether a value passes the check. -/
def passes : ColumnCheck → SqlValue → Bool
  | _, .null => true
  | .positive, .integer n => 0 < n
  | .positive, .real x => Binary64.compareInt 0 x == .lt
  | .positive, .text _ => true
  | .oneOf vs, v => vs.any fun s => SqlValue.sqlEq v (.text s)

end ColumnCheck

namespace TableDef

def columnIndex? (t : TableDef) (col : String) : Option Nat := t.columns.findIdx? (·.name == col)

/-- A column's value in a row of this table (null for an unknown column). -/
def get (t : TableDef) (row : List SqlValue) (col : String) : SqlValue :=
  match t.columnIndex? col with
  | some i => row.getD i .null
  | none => .null

def columnNames (t : TableDef) : List String := t.columns.map (·.name)

end TableDef

def textCol (name : String) : ColumnDef := ⟨name, .text, true, none, none⟩

def optCol (name : String) : ColumnDef := ⟨name, .text, false, none, none⟩

def choiceCol (name : String) (values : List String) (notNull : Bool) : ColumnDef :=
  let quoted := ", ".intercalate (values.map fun v => "'" ++ v ++ "'")
  ⟨name, .text, notNull, some (.oneOf values, name ++ " IN (" ++ quoted ++ ")"), none⟩

def refCol (name parent : String) : ColumnDef := ⟨name, .text, true, none, some (parent, "id")⟩

/-- The accounts table. -/
def accountsTable : TableDef :=
  ⟨"accounts", [optCol "id", textCol "name", textCol "balance",
    ⟨"leverage", .integer, true, some (.positive, "leverage > 0"), none⟩,
    textCol "max_risk_pct", textCol "timezone", textCol "created_at"], none, [["id"]]⟩

/-- The candles table. -/
def candlesTable : TableDef :=
  ⟨"candles", [optCol "id", textCol "symbol", textCol "timeframe", textCol "timestamp",
    textCol "open", textCol "high", textCol "low", textCol "close",
    ⟨"volume", .integer, false, none, none⟩], none,
    [["id"], ["symbol", "timeframe", "timestamp"]]⟩

/-- The indicators table. -/
def indicatorsTable : TableDef :=
  ⟨"indicators", [⟨"candle_id", .text, false, none, some ("candles", "id")⟩,
    optCol "ema20", optCol "ema50", optCol "ema200", textCol "range_size",
    textCol "body_size", textCol "upper_wick", textCol "lower_wick", textCol "mid_price",
    optCol "last_swing_high", optCol "last_swing_low"], none, [["candle_id"]]⟩

/-- The trades table. -/
def tradesTable : TableDef :=
  ⟨"trades", [optCol "id", refCol "account_id" "accounts", refCol "candle_id" "candles",
    textCol "symbol", textCol "timeframe", choiceCol "bias" ["long", "short"] true,
    textCol "balance_at_setup", ⟨"leverage_at_setup", .integer, true, none, none⟩,
    textCol "max_risk_pct_at_setup", textCol "timezone_at_setup", textCol "planned_entry",
    textCol "planned_sl", textCol "planned_tp", textCol "planned_rr", textCol "planned_risk_pct",
    textCol "planned_risk_amount", textCol "planned_position_size", textCol "reason",
    textCol "created_at", choiceCol "terminal_marker" ["cancelled", "invalidated"] false,
    optCol "terminal_reason", optCol "terminal_at"], none, [["id"]]⟩

/-- The executions table; `seq` numbers the rows in insertion order. -/
def executionsTable : TableDef :=
  ⟨"executions", [⟨"seq", .integer, false, none, none⟩, textCol "id", refCol "trade_id" "trades",
    choiceCol "kind" ["entry", "partial_close", "tp_hit", "sl_hit", "manual_close"] true,
    textCol "price", textCol "position_size", optCol "pnl", optCol "pnl_pips",
    textCol "executed_at", optCol "reason"], some "seq", [["seq"], ["id"]]⟩

/-- The rule results table. -/
def ruleResultsTable : TableDef :=
  ⟨"rule_results", [textCol "rule_code", ⟨"rule_version", .integer, true, none, none⟩,
    refCol "candle_id" "candles", choiceCol "outcome" ["PASS", "FAIL"] true, textCol "confidence",
    textCol "conditions_met", textCol "conditions_failed", textCol "evaluated_at"], none,
    [["rule_code", "rule_version", "candle_id"]]⟩

def journalSchema : List TableDef :=
  [accountsTable, candlesTable, indicatorsTable, tradesTable, executionsTable, ruleResultsTable]

end ForexJournal
