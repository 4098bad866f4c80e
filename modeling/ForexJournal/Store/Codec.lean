import ForexJournal.Database.Table
import ForexJournal.Trade.Plan
import ForexJournal.Market.Indicators
import ForexJournal.Signal.Rule

/-!
# Row codecs

Each stored record is a row of the journal's tables. Writing a record turns its decimals,
identifiers and timestamps into text; reading it back reads the columns in the order the
store selects them and reports the first column it cannot read.

A column is read with an expected type: text, optional text, a 32-bit or 64-bit integer.
A value of another type is an "invalid column type"; an integer out of range is reported as
such; a text that does not read as the expected kind of value is a "conversion error" with
the reader's own message. Timestamps are written with six fraction digits and `Z`.
-/

namespace ForexJournal

namespace Codec

/-- A text that does not read as the expected kind of value. -/
def conversionError (idx : Nat) (inner : String) : String :=
  "Conversion error from type Text at index: " ++ toString idx ++ ", " ++ inner

def invalidColumnType (idx : Nat) (name : String) (v : SqlValue) : String :=
  "Invalid column type " ++ v.typeName ++ " at index: " ++ toString idx ++ ", name: " ++ name

/-- A selected row: the column names and the values, in the order of the selection. -/
structure Selected where
  names : List String
  values : Row

def Selected.at (r : Selected) (idx : Nat) : SqlValue × String :=
  (r.values.getD idx .null, r.names.getD idx "")

/-- Reads a text column. -/
def text (r : Selected) (idx : Nat) : Except String String :=
  match r.at idx with
  | (.text s, _) => .ok s
  | (v, name) => .error (invalidColumnType idx name v)

/-- Reads a text column that may be null. -/
def optText (r : Selected) (idx : Nat) : Except String (Option String) :=
  match r.at idx with
  | (.null, _) => .ok none
  | (.text s, _) => .ok (some s)
  | (v, name) => .error (invalidColumnType idx name v)

/-- Reads a non-negative 32-bit integer column. -/
def natBelow32 (r : Selected) (idx : Nat) : Except String Nat :=
  match r.at idx with
  | (.integer n, _) =>
    if 0 ≤ n ∧ n < 4294967296 then .ok n.toNat
    else .error ("Integer " ++ toString n ++ " out of range at index " ++ toString idx)
  | (v, name) => .error (invalidColumnType idx name v)

/-- Reads a 64-bit integer column that may be null. -/
def optInteger (r : Selected) (idx : Nat) : Except String (Option Int) :=
  match r.at idx with
  | (.null, _) => .ok none
  | (.integer n, _) => .ok (some n)
  | (v, name) => .error (invalidColumnType idx name v)

/-- Reads a text column with a reader for its value. -/
def parsed {α : Type} (read : String → Except String α) (r : Selected) (idx : Nat) :
    Except String α := do
  match read (← text r idx) with
  | .ok a => .ok a
  | .error e => .error (conversionError idx e)

/-- Reads a text column that may be null with a reader for its value. -/
def optParsed {α : Type} (read : String → Except String α) (r : Selected) (idx : Nat) :
    Except String (Option α) := do
  match ← optText r idx with
  | none => .ok none
  | some s =>
    match read s with
    | .ok a => .ok (some a)
    | .error e => .error (conversionError idx e)

def viaMessage {α : Type} (read : String → Except JournalError α) (s : String) :
    Except String α :=
  (read s).mapError (·.message)

def uuid : Selected → Nat → Except String Uuid := parsed Uuid.parse

def decimal : Selected → Nat → Except String Decimal := parsed Decimal.parse

def optDecimal : Selected → Nat → Except String (Option Decimal) := optParsed Decimal.parse

def instant : Selected → Nat → Except String Instant :=
  parsed fun s => (readInstantText s).mapError (·.message)

/-- Reads a list of condition codes separated by commas; empty items are skipped. -/
def codes (r : Selected) (idx : Nat) : Except String (List ConditionCode) := do
  let s ← text r idx
  (((s.split ',').toList.map (·.copy)).filter (!·.isEmpty)).mapM fun c =>
    match ConditionCode.parse c with
    | .ok code => .ok code
    | .error e => .error (conversionError idx e.message)

def joinCodes (cs : List ConditionCode) : String := ",".intercalate (cs.map (·.name))

def txt (s : String) : SqlValue := .text s

def dec (d : Decimal) : SqlValue := .text d.toText

def optDec : Option Decimal → SqlValue
  | some d => .text d.toText
  | none => .null

def ts (t : Instant) : SqlValue := .text t.toStoredText

def uuidCell (u : Uuid) : SqlValue := .text u.toText

end Codec

open Codec

def accountColumns : List String :=
  ["id", "name", "balance", "leverage", "max_risk_pct", "timezone", "created_at"]

/-- The columns the store selects for a trade. -/
def tradeColumns : List String :=
  ["id", "account_id", "candle_id", "symbol", "timeframe", "bias", "balance_at_setup",
    "leverage_at_setup", "max_risk_pct_at_setup", "timezone_at_setup", "planned_entry",
    "planned_sl", "planned_tp", "planned_rr", "planned_risk_pct", "planned_risk_amount",
    "planned_position_size", "reason", "created_at", "terminal_marker", "terminal_reason",
    "terminal_at"]

def executionColumns : List String :=
  ["id", "trade_id", "kind", "price", "position_size", "pnl", "pnl_pips", "executed_at", "reason"]

def candleColumns : List String :=
  ["id", "symbol", "timeframe", "timestamp", "open", "high", "low", "close", "volume"]

def indicatorColumns : List String :=
  ["candle_id", "ema20", "ema50", "ema200", "range_size", "body_size", "upper_wick",
    "lower_wick", "mid_price", "last_swing_high", "last_swing_low"]

def ruleResultColumns : List String :=
  ["rule_code", "rule_version", "outcome", "confidence", "conditions_met", "conditions_failed"]

namespace Account

/-- The account's row. -/
def toRow (a : Account) : List (String × SqlValue) :=
  [("id", uuidCell a.id), ("name", txt a.name), ("balance", dec a.balance),
    ("leverage", .integer a.leverage), ("max_risk_pct", dec a.maxRiskPct),
    ("timezone", txt a.timezone), ("created_at", ts a.createdAt)]

def ofRow (r : Selected) : Except String Account := do
  return ⟨← uuid r 0, ← text r 1, ← decimal r 2, ← natBelow32 r 3, ← decimal r 4, ← text r 5,
    ← instant r 6⟩

end Account

namespace Trade

/-- The trade's row. -/
def toRow (t : Trade) : List (String × SqlValue) :=
  [("id", uuidCell t.id), ("account_id", uuidCell t.accountId), ("candle_id", uuidCell t.candleId),
    ("symbol", txt t.symbol), ("timeframe", txt t.timeframe.name), ("bias", txt t.bias.name),
    ("balance_at_setup", dec t.setup.balance), ("leverage_at_setup", .integer t.setup.leverage),
    ("max_risk_pct_at_setup", dec t.setup.maxRiskPct),
    ("timezone_at_setup", txt t.setup.timezone), ("planned_entry", dec t.plannedEntry),
    ("planned_sl", dec t.plannedSl), ("planned_tp", dec t.plannedTp),
    ("planned_rr", dec t.plannedRr), ("planned_risk_pct", dec t.plannedRiskPct),
    ("planned_risk_amount", dec t.plannedRiskAmount),
    ("planned_position_size", dec t.plannedPositionSize), ("reason", txt t.reason),
    ("created_at", ts t.createdAt),
    ("terminal_marker", match t.terminal with
      | some r => txt r.marker.name
      | none => .null),
    ("terminal_reason", match t.terminal with
      | some r => txt r.reason
      | none => .null),
    ("terminal_at", match t.terminal with
      | some r => ts r.markedAt
      | none => .null)]

/-- Reads a trade from its selected row; the terminal columns are read first. -/
def ofRow (r : Selected) : Except String Trade := do
  let terminal ← match ← optParsed (viaMessage TerminalMarker.parse) r 19 with
    | some marker =>
      let reason := (← optText r 20).getD ""
      pure (some ⟨marker, reason, ← instant r 21⟩)
    | none => pure none
  let id ← uuid r 0
  let accountId ← uuid r 1
  let candleId ← uuid r 2
  let symbol ← text r 3
  let timeframe ← parsed (viaMessage Timeframe.parse) r 4
  let bias ← parsed (viaMessage Bias.parse) r 5
  let setup : AccountSnapshot := ⟨← decimal r 6, ← natBelow32 r 7, ← decimal r 8, ← text r 9⟩
  return ⟨id, accountId, candleId, symbol, timeframe, bias, setup, ← decimal r 10,
    ← decimal r 11, ← decimal r 12, ← decimal r 13, ← decimal r 14, ← decimal r 15,
    ← decimal r 16, ← text r 17, ← instant r 18, terminal⟩

end Trade

namespace Execution

/-- The execution's row. -/
def toRow (e : Execution) : List (String × SqlValue) :=
  [("id", uuidCell e.id), ("trade_id", uuidCell e.tradeId), ("kind", txt e.kind.name), ("price", dec e.price),
    ("position_size", dec e.positionSize), ("pnl", optDec e.pnl), ("pnl_pips", optDec e.pnlPips),
    ("executed_at", ts e.executedAt),
    ("reason", match e.reason with
      | some s => txt s
      | none => .null)]

def ofRow (r : Selected) : Except String Execution := do
  return ⟨← uuid r 0, ← uuid r 1, ← parsed (viaMessage ExecutionKind.parse) r 2, ← decimal r 3,
    ← decimal r 4, ← optDecimal r 5, ← optDecimal r 6, ← instant r 7, ← optText r 8⟩

end Execution

namespace Candle

/-- The candle's row. -/
def toRow (c : Candle) : List (String × SqlValue) :=
  [("id", uuidCell c.id), ("symbol", txt c.symbol), ("timeframe", txt c.timeframe.name),
    ("timestamp", ts c.timestamp), ("open", dec c.openPrice), ("high", dec c.high),
    ("low", dec c.low), ("close", dec c.close),
    ("volume", match c.volume with
      | some v => .integer v
      | none => .null)]

def ofRow (r : Selected) : Except String Candle := do
  return ⟨← uuid r 0, ← text r 1, ← parsed (viaMessage Timeframe.parse) r 2, ← instant r 3,
    ← decimal r 4, ← decimal r 5, ← decimal r 6, ← decimal r 7, ← optInteger r 8⟩

end Candle

namespace Indicators

/-- The indicators' row. -/
def toRow (i : Indicators) : List (String × SqlValue) :=
  [("candle_id", uuidCell i.candleId), ("ema20", optDec i.ema20), ("ema50", optDec i.ema50),
    ("ema200", optDec i.ema200), ("range_size", dec i.rangeSize), ("body_size", dec i.bodySize),
    ("upper_wick", dec i.upperWick), ("lower_wick", dec i.lowerWick),
    ("mid_price", dec i.midPrice), ("last_swing_high", optDec i.lastSwingHigh),
    ("last_swing_low", optDec i.lastSwingLow)]

/-- Reads indicators from their selected row. -/
def ofRow (r : Selected) : Except String Indicators := do
  return ⟨← uuid r 0, ← optDecimal r 1, ← optDecimal r 2, ← optDecimal r 3, ← decimal r 4,
    ← decimal r 5, ← decimal r 6, ← decimal r 7, ← decimal r 8, ← optDecimal r 9,
    ← optDecimal r 10⟩

end Indicators

namespace RuleResult

/-- The result's row for a candle, stamped with the time of evaluation. -/
def toRow (r : RuleResult) (candle : Uuid) (now : Instant) : List (String × SqlValue) :=
  [("rule_code", txt r.ruleCode), ("rule_version", .integer r.ruleVersion),
    ("candle_id", uuidCell candle), ("outcome", txt r.outcome.name), ("confidence", dec r.confidence),
    ("conditions_met", txt (joinCodes r.conditionsMet)),
    ("conditions_failed", txt (joinCodes r.conditionsFailed)), ("evaluated_at", ts now)]

def ofRow (r : Selected) : Except String RuleResult := do
  return ⟨← text r 0, ← natBelow32 r 1, ← parsed (viaMessage RuleOutcome.parse) r 2,
    ← decimal r 3, ← codes r 4, ← codes r 5⟩

end RuleResult

end ForexJournal
