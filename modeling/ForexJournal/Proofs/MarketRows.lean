import Mathlib
import ForexJournal.Proofs.StoredRows
import ForexJournal.Proofs.StampOrder
/-!
# The rows of market data

A candle, the indicators of a candle and a rule result are written as rows of cells, one per
column, and read back column by column, as trades and executions are. Decimals come back with
a plus sign on zero, which keeps their value and their scale. A candle's time is written to
the microsecond, and nothing cuts it to the microsecond before it is written: it comes back
truncated (`Candle.stored`).

The condition lists of a rule result are written joined by commas and read back split at the
commas, skipping empty items: no condition's code is empty or holds a comma, so every list,
the empty one included, comes back as it was (`Codec.codes_of_at`).
-/
namespace ForexJournal

/-! ## What is read back -/

namespace Decimal

/-- Reading a decimal back keeps its scale and its value: only the sign of a zero may
change. -/
theorem plusZero_same (d : Decimal) : d.plusZero.scale = d.scale ∧ d.plusZero.sameValue d = true := by
  refine ⟨rfl, ?_⟩
  cases hn : d.negative <;> cases hm : d.mantissa == 0 <;>
    simp_all [plusZero, sameValue, compare, scaledTo, signedMantissa]

end Decimal

/-- The candle as the store reads it back: its time cut to the microsecond, every decimal
with a plus sign on zero. -/
def Candle.stored (c : Candle) : Candle :=
  { c with
    timestamp := c.timestamp.truncMicros
    openPrice := c.openPrice.plusZero
    high := c.high.plusZero
    low := c.low.plusZero
    close := c.close.plusZero }

/-- The indicators as the store reads them back: every decimal with a plus sign on zero. -/
def Indicators.stored (i : Indicators) : Indicators :=
  { i with
    ema20 := i.ema20.map Decimal.plusZero
    ema50 := i.ema50.map Decimal.plusZero
    ema200 := i.ema200.map Decimal.plusZero
    rangeSize := i.rangeSize.plusZero
    bodySize := i.bodySize.plusZero
    upperWick := i.upperWick.plusZero
    lowerWick := i.lowerWick.plusZero
    midPrice := i.midPrice.plusZero
    lastSwingHigh := i.lastSwingHigh.map Decimal.plusZero
    lastSwingLow := i.lastSwingLow.map Decimal.plusZero }

/-- The rule result as the store reads it back: its confidence with a plus sign on zero. -/
def RuleResult.stored (r : RuleResult) : RuleResult :=
  { r with confidence := r.confidence.plusZero }

@[simp] theorem Candle.stored_id (c : Candle) : c.stored.id = c.id := rfl

@[simp] theorem Indicators.stored_candleId (i : Indicators) : i.stored.candleId = i.candleId := rfl

/-! ## Condition lists -/

namespace ConditionCode

theorem parse_name (c : ConditionCode) : parse c.name = .ok c := by
  cases c <;> rfl

theorem comma_not_mem_name (c : ConditionCode) : ',' ∉ c.name.toList := by
  cases c <;> decide

theorem name_isEmpty (c : ConditionCode) : c.name.isEmpty = false := by
  cases c <;> rfl

end ConditionCode

namespace Codec

theorem split_joinCodes (cs : List ConditionCode) :
    (((joinCodes cs).split ',').toList.map (·.copy)).filter (!·.isEmpty) = cs.map (·.name) := by
  have hsep : ∀ s ∈ cs.map (·.name), ',' ∉ s.toList := by
    simp only [List.mem_map]
    rintro s ⟨c, -, rfl⟩
    exact c.comma_not_mem_name
  rw [joinCodes, show "," = String.singleton ',' from rfl, String.toList_split_intercalate hsep]
  split
  · simp_all
  · exact List.filter_eq_self.2 fun s hs => by
      obtain ⟨c, -, rfl⟩ := List.mem_map.1 hs
      simp [c.name_isEmpty]

theorem mapM_names {ε : Type} {read : String → Except ε ConditionCode}
    (hread : ∀ c : ConditionCode, read c.name = .ok c) (cs : List ConditionCode) :
    (cs.map (·.name)).mapM read = .ok cs := by
  induction cs with
  | nil => rfl
  | cons c cs ih =>
    simp only [List.map_cons, List.mapM_cons, hread, ih]
    rfl

variable {r : Selected} {idx : Nat}

theorem codes_of_at {cs : List ConditionCode} (h : r.values[idx]? = some (.text (joinCodes cs))) :
    codes r idx = .ok cs := by
  simp only [codes, text_of_at h, ok_bind, split_joinCodes]
  exact mapM_names (fun c => by simp only [ConditionCode.parse_name]) cs

theorem instant_of_at_truncMicros {t : Instant} (h : r.values[idx]? = some (.text t.toStoredText))
    (ht : t.Representable) : instant r idx = .ok t.truncMicros :=
  parsed_of_at h (by simp [Instant.readInstantText_toStoredText_eq ht, Except.mapError])

theorem optInteger_of_at {o : Option Int}
    (h : r.values[idx]? = some (match o with
      | some v => .integer v
      | none => .null)) : optInteger r idx = .ok o := by
  cases o <;> simp_all [optInteger, Selected.at, List.getD_eq_getElem?_getD]

end Codec

/-! ## Candle rows -/

def Candle.cells (c : Candle) : Row := c.toRow.map (·.2)

theorem candlesTable_givenRow (c : Candle) : candlesTable.givenRow c.toRow = c.cells := by
  cases hv : c.volume <;>
    simp +decide [TableDef.givenRow, ColumnDef.givenValue, candlesTable, Candle.toRow,
      Candle.cells, sameName_eq, hv, textCol, optCol, SqlValue.withAffinity, Codec.txt,
      Codec.dec, Codec.ts, Codec.uuidCell]

/-- A candle's row names only columns of its table, and is written under the next row
number. -/
theorem Candle.newRow_toRow {tbl : Table} (h : tbl.schema = candlesTable) (c : Candle) :
    tbl.newRow c.toRow = .ok (tbl.nextRowid, c.cells) := by
  rw [Table.newRow_of_names (by rw [h]; rfl) (by rw [h]; rfl), h, candlesTable_givenRow]

theorem project_candle_cells {tbl : Table} (h : tbl.schema = candlesTable) (c : Candle) :
    Rows.project tbl candleColumns c.cells = ⟨candleColumns, c.cells⟩ := by
  simp +decide [Rows.project, Table.get, h, TableDef.columnIndex?, List.findIdx?_cons,
    candlesTable, candleColumns, Candle.toRow, Candle.cells, textCol, optCol]

theorem Candle.get_id {tbl : Table} (h : tbl.schema = candlesTable) (c : Candle) :
    tbl.get c.cells "id" = .text c.id.toText := by
  simp +decide [Table.get, h, TableDef.columnIndex?, List.findIdx?_cons, candlesTable,
    Candle.cells, Candle.toRow, optCol, Codec.uuidCell]

/-- The columns of a candle's row read back as its fields: the time cut to the microsecond,
every decimal with a plus sign on zero. -/
theorem Candle.ofRow_cells {c : Candle} (hc : c.timestamp.Representable) :
    Candle.ofRow ⟨candleColumns, c.cells⟩ = .ok c.stored := by
  have hid := @Codec.uuid_of_at ⟨candleColumns, c.cells⟩ 0 c.id rfl
  have hsym := @Codec.text_of_at ⟨candleColumns, c.cells⟩ 1 c.symbol rfl
  have htf := @Codec.parsed_of_at ⟨candleColumns, c.cells⟩ 2 _ _ _ _ rfl
    (Codec.viaMessage_of_ok (Timeframe.parse_name c.timeframe))
  have hat := @Codec.instant_of_at_truncMicros ⟨candleColumns, c.cells⟩ 3 c.timestamp rfl hc
  have hopen := @Codec.decimal_of_at ⟨candleColumns, c.cells⟩ 4 c.openPrice rfl
  have hhigh := @Codec.decimal_of_at ⟨candleColumns, c.cells⟩ 5 c.high rfl
  have hlow := @Codec.decimal_of_at ⟨candleColumns, c.cells⟩ 6 c.low rfl
  have hclose := @Codec.decimal_of_at ⟨candleColumns, c.cells⟩ 7 c.close rfl
  have hvol := @Codec.optInteger_of_at ⟨candleColumns, c.cells⟩ 8 c.volume rfl
  simp only [Candle.ofRow, hid, hsym, htf, hat, hopen, hhigh, hlow, hclose, hvol, ok_bind]
  rfl

/-! ## Indicator rows -/

def Indicators.cells (i : Indicators) : Row := i.toRow.map (·.2)

theorem indicatorsTable_givenRow (i : Indicators) :
    indicatorsTable.givenRow i.toRow = i.cells := by
  simp +decide [TableDef.givenRow, indicatorsTable, Indicators.toRow, Indicators.cells,
    ColumnDef.givenValue, sameName_eq, textCol, optCol, Codec.dec, Codec.uuidCell]

theorem Indicators.newRow_toRow {tbl : Table} (h : tbl.schema = indicatorsTable)
    (i : Indicators) : tbl.newRow i.toRow = .ok (tbl.nextRowid, i.cells) := by
  rw [Table.newRow_of_names (by rw [h]; rfl) (by rw [h]; rfl), h, indicatorsTable_givenRow]

theorem project_indicators_cells {tbl : Table} (h : tbl.schema = indicatorsTable)
    (i : Indicators) :
    Rows.project tbl indicatorColumns i.cells = ⟨indicatorColumns, i.cells⟩ := by
  simp only [Rows.project, Codec.Selected.mk.injEq, true_and]
  simp +decide [Table.get, h, TableDef.columnIndex?, List.findIdx?_cons, indicatorsTable,
    indicatorColumns, Indicators.toRow, Indicators.cells, textCol, optCol]

theorem Indicators.get_candleId {tbl : Table} (h : tbl.schema = indicatorsTable)
    (i : Indicators) : tbl.get i.cells "candle_id" = .text i.candleId.toText := by
  simp +decide [Table.get, h, TableDef.columnIndex?, List.findIdx?_cons, indicatorsTable,
    Indicators.cells, Indicators.toRow, Codec.uuidCell]

/-- The columns of the indicators' row read back as their fields, every decimal with a plus
sign on zero. -/
theorem Indicators.ofRow_cells (i : Indicators) :
    Indicators.ofRow ⟨indicatorColumns, i.cells⟩ = .ok i.stored := by
  have hid := @Codec.uuid_of_at ⟨indicatorColumns, i.cells⟩ 0 i.candleId rfl
  have h20 := @Codec.optDecimal_of_at ⟨indicatorColumns, i.cells⟩ 1 i.ema20 rfl
  have h50 := @Codec.optDecimal_of_at ⟨indicatorColumns, i.cells⟩ 2 i.ema50 rfl
  have h200 := @Codec.optDecimal_of_at ⟨indicatorColumns, i.cells⟩ 3 i.ema200 rfl
  have hrange := @Codec.decimal_of_at ⟨indicatorColumns, i.cells⟩ 4 i.rangeSize rfl
  have hbody := @Codec.decimal_of_at ⟨indicatorColumns, i.cells⟩ 5 i.bodySize rfl
  have hupper := @Codec.decimal_of_at ⟨indicatorColumns, i.cells⟩ 6 i.upperWick rfl
  have hlower := @Codec.decimal_of_at ⟨indicatorColumns, i.cells⟩ 7 i.lowerWick rfl
  have hmid := @Codec.decimal_of_at ⟨indicatorColumns, i.cells⟩ 8 i.midPrice rfl
  have hhigh := @Codec.optDecimal_of_at ⟨indicatorColumns, i.cells⟩ 9 i.lastSwingHigh rfl
  have hlow := @Codec.optDecimal_of_at ⟨indicatorColumns, i.cells⟩ 10 i.lastSwingLow rfl
  simp only [Indicators.ofRow, hid, h20, h50, h200, hrange, hbody, hupper, hlower, hmid, hhigh,
    hlow, ok_bind]
  rfl

/-! ## Rule result rows -/

/-- The cells of a rule result's row for a candle, stamped with the time of evaluation. -/
def RuleResult.cells (r : RuleResult) (candle : Uuid) (now : Instant) : Row :=
  (r.toRow candle now).map (·.2)

theorem ruleResultsTable_givenRow (r : RuleResult) (candle : Uuid) (now : Instant) :
    ruleResultsTable.givenRow (r.toRow candle now) = r.cells candle now := by
  simp +decide [TableDef.givenRow, ColumnDef.givenValue, ruleResultsTable, RuleResult.toRow,
    RuleResult.cells, sameName_eq, textCol, refCol, choiceCol, SqlValue.withAffinity, Codec.txt,
    Codec.dec, Codec.ts, Codec.uuidCell]

theorem RuleResult.newRow_toRow {tbl : Table} (h : tbl.schema = ruleResultsTable)
    (r : RuleResult) (candle : Uuid) (now : Instant) :
    tbl.newRow (r.toRow candle now) = .ok (tbl.nextRowid, r.cells candle now) := by
  rw [Table.newRow_of_names (by rw [h]; rfl) (by rw [h]; rfl), h, ruleResultsTable_givenRow]

/-- The columns a rule result's query reads: the candle is not among them. -/
def RuleResult.selectedCells (r : RuleResult) : Row :=
  [.text r.ruleCode, .integer r.ruleVersion, .text r.outcome.name, .text r.confidence.toText,
    .text (Codec.joinCodes r.conditionsMet), .text (Codec.joinCodes r.conditionsFailed)]

theorem project_ruleResult_cells {tbl : Table} (h : tbl.schema = ruleResultsTable)
    (r : RuleResult) (candle : Uuid) (now : Instant) :
    Rows.project tbl ruleResultColumns (r.cells candle now) =
      ⟨ruleResultColumns, r.selectedCells⟩ := by
  simp +decide [Rows.project, Table.get, h, TableDef.columnIndex?, List.findIdx?_cons,
    ruleResultsTable, ruleResultColumns, RuleResult.toRow, RuleResult.cells,
    RuleResult.selectedCells, textCol, refCol, choiceCol, Codec.txt, Codec.dec, Codec.ts,
    Codec.uuidCell]

theorem RuleResult.get_candleId {tbl : Table} (h : tbl.schema = ruleResultsTable)
    (r : RuleResult) (candle : Uuid) (now : Instant) :
    tbl.get (r.cells candle now) "candle_id" = .text candle.toText := by
  simp +decide [Table.get, h, TableDef.columnIndex?, List.findIdx?_cons, ruleResultsTable,
    RuleResult.cells, RuleResult.toRow, textCol, refCol, choiceCol, Codec.uuidCell]

theorem RuleOutcome.parse_name (o : RuleOutcome) : RuleOutcome.parse o.name = .ok o := by
  cases o <;> rfl

/-- The columns of a rule result's row read back as its fields, the confidence with a plus
sign on zero; the version must fit the 32-bit column reader. -/
theorem RuleResult.ofRow_cells {r : RuleResult} (hv : r.ruleVersion < 4294967296) :
    RuleResult.ofRow ⟨ruleResultColumns, r.selectedCells⟩ = .ok r.stored := by
  have hcode := @Codec.text_of_at ⟨ruleResultColumns, r.selectedCells⟩ 0 r.ruleCode rfl
  have hver := @Codec.natBelow32_of_at ⟨ruleResultColumns, r.selectedCells⟩ 1 r.ruleVersion rfl hv
  have hout := @Codec.parsed_of_at ⟨ruleResultColumns, r.selectedCells⟩ 2 _ _ _ _ rfl
    (Codec.viaMessage_of_ok (RuleOutcome.parse_name r.outcome))
  have hconf := @Codec.decimal_of_at ⟨ruleResultColumns, r.selectedCells⟩ 3 r.confidence rfl
  have hmet := @Codec.codes_of_at ⟨ruleResultColumns, r.selectedCells⟩ 4 r.conditionsMet rfl
  have hfailed := @Codec.codes_of_at ⟨ruleResultColumns, r.selectedCells⟩ 5 r.conditionsFailed rfl
  simp only [RuleResult.ofRow, hcode, hver, hout, hconf, hmet, hfailed, ok_bind]
  rfl

end ForexJournal
