import ForexJournal.Store.Journal

/-!
# Market data in the store

Candles, indicators and rule results are written one statement at a time, outside the
journal's transactions. A candle is written unless its series already has one at that instant;
indicators replace earlier ones of the same candle; a rule result is written only once per rule
version and candle. Writes fail with a conflict while another connection holds the write lock;
reads do not wait for it.
-/

namespace ForexJournal

namespace Store

/-- Runs a write statement, failing while the write lock is held elsewhere. -/
def write {α : Type} (s : Store) (f : Database → Except String (Database × α)) :
    Except JournalError (α × Store) :=
  if s.writeLocked then .error (.conflict "database is locked")
  else
    match f s.db with
    | .ok (db', a) => .ok (a, { s with db := db' })
    | .error m => .error (Rows.queryError m)

/-- Stores a candle unless its series has one at the same instant; tells whether it was
written. -/
def insertCandle (s : Store) (c : Candle) : Except JournalError (Bool × Store) :=
  s.write fun db => db.insert "candles" c.toRow .ignore true

/-- The candles of a series, oldest first. -/
def listCandles (s : Store) (symbol : String) (tf : Timeframe) : Except JournalError (List Candle) := do
  let rows ← Rows.selectOrdered s.db "candles" candleColumns
    (fun t r => Rows.whereText "symbol" symbol t r && Rows.whereText "timeframe" tf.name t r)
    (Rows.byColumns ["timestamp"])
  Rows.decodeAll Candle.ofRow rows

/-- The candle with the given id, or `NotFound`. -/
def getCandle (s : Store) (id : Uuid) : Except JournalError Candle := do
  let rows ← Rows.selectOrdered s.db "candles" candleColumns (Rows.whereText "id" id.toText)
    Rows.noOrder
  match ← Rows.decodeFirst Candle.ofRow rows with
  | some c => .ok c
  | none => .error (.notFound "candle" id.toText)

/-- Stores the indicators of a candle, replacing earlier ones. -/
def saveIndicators (s : Store) (i : Indicators) : Except JournalError Store :=
  (s.write fun db => db.insert "indicators" i.toRow .replace true).map (·.2)

/-- The indicators of a candle, if stored. -/
def getIndicators (s : Store) (candle : Uuid) : Except JournalError (Option Indicators) := do
  let rows ← Rows.selectOrdered s.db "indicators" indicatorColumns
    (Rows.whereText "candle_id" candle.toText) Rows.noOrder
  Rows.decodeFirst Indicators.ofRow rows

/-- The indicators of the latest candle of the same series strictly before the given one, if
that candle has indicators. -/
def getPreviousIndicators (s : Store) (c : Candle) : Except JournalError (Option Indicators) := do
  let ind ← Rows.lift (s.db.requireTable "indicators")
  let candles ← Rows.lift (s.db.requireTable "candles")
  let stamp := SqlValue.text c.timestamp.toStoredText
  let earlier := candles.values.filter fun r =>
    Rows.whereText "symbol" c.symbol candles r && Rows.whereText "timeframe" c.timeframe.name candles r &&
      SqlValue.compare (candles.get r "timestamp") stamp == .lt && candles.get r "timestamp" != .null
  let latest := earlier.foldl (fun best r =>
    match best with
    | some b => if SqlValue.compare (candles.get b "timestamp") (candles.get r "timestamp") == .lt
        then some r else some b
    | none => some r) none
  match latest with
  | none => return none
  | some r =>
    let key := candles.get r "id"
    let rows := ((ind.rows.mergeSort fun a b => a.1 ≤ b.1).map (·.2)).filter fun row =>
      SqlValue.sqlEq (ind.get row "candle_id") key
    Rows.decodeFirst Indicators.ofRow (rows.map (Rows.project ind indicatorColumns))

/-- Stores a rule result for a candle unless one is stored for that rule version; tells
whether it was written. -/
def insertRuleResult (s : Store) (candle : Uuid) (r : RuleResult) (now : Instant) :
    Except JournalError (Bool × Store) :=
  s.write fun db => db.insert "rule_results" (r.toRow candle now) .ignore true

/-- The stored rule results of a candle, by rule code and version. -/
def ruleResults (s : Store) (candle : Uuid) : Except JournalError (List RuleResult) := do
  let rows ← Rows.selectOrdered s.db "rule_results" ruleResultColumns
    (Rows.whereText "candle_id" candle.toText) (Rows.byColumns ["rule_code", "rule_version"])
  Rows.decodeAll RuleResult.ofRow rows

end Store

end ForexJournal
