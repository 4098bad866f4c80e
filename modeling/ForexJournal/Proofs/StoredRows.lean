import Mathlib
import ForexJournal.Proofs.Tables
import ForexJournal.Proofs.InstantText
import ForexJournal.Proofs.DecimalText
import ForexJournal.Proofs.UuidText
/-!
# The rows of trades and executions

A trade is written as a row of text cells, one per column, in the order of the trades table;
an execution likewise, after the number the table gives it. Reading a row back reads each
column with its codec: identifiers, instants and names come back as they were, and decimals
come back with a plus sign on zero (`Trade.stored`, `Execution.stored`). The instants must be
ones the store keeps exactly (`Instant.Stamp`) and a trade's leverage must fit the 32-bit
column reader (`Trade.Storable`).

Column lookups on the journal's tables are finite computations over the table definitions,
settled by `simp` with the names compared as lowercase character lists (`sameName_eq`).
-/
namespace ForexJournal

/-! ## Names and keys -/

theorem Bias.parse_name (b : Bias) : Bias.parse b.name = .ok b := by
  cases b <;> rfl

theorem TerminalMarker.parse_name (m : TerminalMarker) : TerminalMarker.parse m.name = .ok m := by
  cases m <;> rfl

theorem Timeframe.parse_name (tf : Timeframe) : Timeframe.parse tf.name = .ok tf := by
  cases tf <;> rfl

theorem ExecutionKind.parse_name (k : ExecutionKind) : ExecutionKind.parse k.name = .ok k := by
  cases k <;> rfl

theorem sameName_eq (a b : String) :
    sameName a b = decide (a.toList.map Char.toLower = b.toList.map Char.toLower) := by
  rw [Bool.eq_iff_iff, sameName_iff, decide_eq_true_iff, ← String.toList_map, ← String.toList_map]
  exact ⟨fun h => by rw [h], fun h => String.ext h⟩

theorem SqlValue.sqlEq_text (a b : String) :
    SqlValue.sqlEq (.text a) (.text b) = decide (a = b) := by
  rw [Bool.eq_iff_iff]
  simp [SqlValue.sqlEq, SqlValue.compare]

theorem Uuid.toText_inj {a b : Uuid} : a.toText = b.toText ↔ a = b := by
  constructor
  · intro h
    have := (Uuid.parse_toText a).symm.trans (h ▸ Uuid.parse_toText b)
    exact Except.ok.inj this
  · rintro rfl; rfl

theorem known_column {cols : List ColumnDef} {c : String} (h : c ∈ cols.map (·.name)) :
    (cols.any fun d => sameName d.name c) = true := by
  obtain ⟨d, hd, hname⟩ := List.mem_map.1 h
  exact List.any_eq_true.2 ⟨d, hd, by rw [hname]; exact sameName_refl c⟩

/-- A row that names the columns of its table in order, in a table that numbers no rows, is
written as the given row under the next row number. -/
theorem Table.newRow_of_names {tbl : Table} {values : List (String × SqlValue)}
    (hnames : values.map (·.1) = tbl.schema.columns.map (·.name))
    (hnum : tbl.schema.rowNumber = none) :
    tbl.newRow values = .ok (tbl.nextRowid, tbl.schema.givenRow values) := by
  unfold Table.newRow
  rw [List.find?_eq_none.2 fun ⟨c, v⟩ hx => by
    simpa using known_column (hnames ▸ List.mem_map_of_mem (f := (·.1)) hx), hnum]
  rfl

@[simp] theorem SqlValue.withAffinity_text_text (s : String) :
    (SqlValue.text s).withAffinity .text = .text s := rfl

/-- So does a decimal cell that may be null, whichever it is: the row lemmas below need not
split on it. -/
@[simp] theorem Codec.withAffinity_text_optDec (o : Option Decimal) :
    (Codec.optDec o).withAffinity .text = Codec.optDec o := by
  cases o <;> rfl

/-! ## Reading a column -/

/-- An instant the store keeps exactly: one the calendar can write, in whole microseconds. -/
def Instant.Stamp (t : Instant) : Prop := t.Representable ∧ t.nanos % 1000 = 0

theorem ok_bind {ε α β : Type} (a : α) (f : α → Except ε β) : (Except.ok a >>= f) = f a := rfl

namespace Codec

variable {r : Selected} {idx : Nat}

theorem text_of_at {s : String} (h : r.values[idx]? = some (.text s)) : text r idx = .ok s := by
  simp [text, Selected.at, List.getD_eq_getElem?_getD, h]

theorem parsed_of_at {α : Type} {read : String → Except String α} {s : String} {a : α}
    (h : r.values[idx]? = some (.text s)) (hread : read s = .ok a) : parsed read r idx = .ok a := by
  simp [parsed, text_of_at h, bind, Except.bind, hread]

-- Identifiers, decimals and instants are read by their text readers, which invert their
-- writers.

theorem uuid_of_at {u : Uuid} (h : r.values[idx]? = some (.text u.toText)) :
    uuid r idx = .ok u :=
  parsed_of_at h (Uuid.parse_toText u)

theorem decimal_of_at {d : Decimal} (h : r.values[idx]? = some (.text d.toText)) :
    decimal r idx = .ok d.plusZero :=
  parsed_of_at h (Decimal.parse_toText d)

theorem instant_of_at {t : Instant} (h : r.values[idx]? = some (.text t.toStoredText))
    (ht : t.Stamp) : instant r idx = .ok t :=
  parsed_of_at h (by simp [readInstantText_toStoredText ht.1 ht.2, Except.mapError])

theorem viaMessage_of_ok {α : Type} {read : String → Except JournalError α} {s : String} {a : α}
    (h : read s = .ok a) : viaMessage read s = .ok a := by
  simp [viaMessage, h, Except.mapError]

theorem natBelow32_of_at {n : Nat} (h : r.values[idx]? = some (.integer n)) (hn : n < 4294967296) :
    natBelow32 r idx = .ok n := by
  have : (n : Int) < 4294967296 := by exact_mod_cast hn
  simp [natBelow32, Selected.at, List.getD_eq_getElem?_getD, h, this]

theorem optText_of_null (h : r.values[idx]? = some .null) : optText r idx = .ok none := by
  simp [optText, Selected.at, List.getD_eq_getElem?_getD, h]

theorem optText_of_text {s : String} (h : r.values[idx]? = some (.text s)) :
    optText r idx = .ok (some s) := by
  simp [optText, Selected.at, List.getD_eq_getElem?_getD, h]

theorem optText_of_at {o : Option String}
    (h : r.values[idx]? = some (match o with
      | some s => txt s
      | none => .null)) : optText r idx = .ok o := by
  cases o with
  | none => exact optText_of_null h
  | some s => exact optText_of_text h

theorem optParsed_of_null {α : Type} {read : String → Except String α}
    (h : r.values[idx]? = some .null) : optParsed read r idx = .ok none := by
  simp [optParsed, optText_of_null h, bind, Except.bind]

theorem optParsed_of_text {α : Type} {read : String → Except String α} {s : String} {a : α}
    (h : r.values[idx]? = some (.text s)) (hread : read s = .ok a) :
    optParsed read r idx = .ok (some a) := by
  simp [optParsed, optText_of_text h, bind, Except.bind, hread]

theorem optDecimal_of_at {o : Option Decimal} (h : r.values[idx]? = some (optDec o)) :
    optDecimal r idx = .ok (o.map Decimal.plusZero) := by
  cases o with
  | none => exact optParsed_of_null h
  | some d => exact optParsed_of_text h (Decimal.parse_toText d)

end Codec

/-! ## What is written and what is read back -/

/-- The snapshot as the store reads it back: its decimals with a plus sign on zero. -/
def AccountSnapshot.stored (a : AccountSnapshot) : AccountSnapshot :=
  { a with balance := a.balance.plusZero, maxRiskPct := a.maxRiskPct.plusZero }

/-- The trade as the store reads it back: every decimal with a plus sign on zero. -/
def Trade.stored (t : Trade) : Trade :=
  { t with
    setup := t.setup.stored
    plannedEntry := t.plannedEntry.plusZero
    plannedSl := t.plannedSl.plusZero
    plannedTp := t.plannedTp.plusZero
    plannedRr := t.plannedRr.plusZero
    plannedRiskPct := t.plannedRiskPct.plusZero
    plannedRiskAmount := t.plannedRiskAmount.plusZero
    plannedPositionSize := t.plannedPositionSize.plusZero }

namespace Trade

variable (t : Trade)

@[simp] theorem stored_id : t.stored.id = t.id := rfl
@[simp] theorem stored_accountId : t.stored.accountId = t.accountId := rfl
@[simp] theorem stored_candleId : t.stored.candleId = t.candleId := rfl
@[simp] theorem stored_bias : t.stored.bias = t.bias := rfl
@[simp] theorem stored_terminal : t.stored.terminal = t.terminal := rfl
@[simp] theorem stored_marker : t.stored.marker = t.marker := rfl
@[simp] theorem stored_plannedPositionSize :
    t.stored.plannedPositionSize = t.plannedPositionSize.plusZero := rfl

theorem stored_withTerminal (r : Option TerminalRecord) :
    ({ t with terminal := r } : Trade).stored = { t.stored with terminal := r } := rfl

end Trade

/-- A trade the store can read back: its instants are kept exactly and its leverage fits the
32-bit column reader. -/
structure Trade.Storable (t : Trade) : Prop where
  createdAt : t.createdAt.Stamp
  leverage : t.setup.leverage < 4294967296
  markedAt : ∀ r ∈ t.terminal, r.markedAt.Stamp

/-- The execution as the store reads it back: every decimal with a plus sign on zero. -/
def Execution.stored (e : Execution) : Execution :=
  { e with
    price := e.price.plusZero
    positionSize := e.positionSize.plusZero
    pnl := e.pnl.map Decimal.plusZero
    pnlPips := e.pnlPips.map Decimal.plusZero }

namespace Execution

variable (e : Execution)

@[simp] theorem stored_tradeId : e.stored.tradeId = e.tradeId := rfl
@[simp] theorem stored_kind : e.stored.kind = e.kind := rfl
@[simp] theorem stored_executedAt : e.stored.executedAt = e.executedAt := rfl
@[simp] theorem stored_price : e.stored.price = e.price.plusZero := rfl
@[simp] theorem stored_positionSize : e.stored.positionSize = e.positionSize.plusZero := rfl

end Execution

/-! ## Trade rows -/

def Trade.cells (t : Trade) : Row := t.toRow.map (·.2)

theorem tradesTable_givenRow (t : Trade) : tradesTable.givenRow t.toRow = t.cells := by
  cases h : t.terminal <;>
    simp +decide [TableDef.givenRow, ColumnDef.givenValue, tradesTable, Trade.toRow, Trade.cells,
      sameName_eq, h, textCol, optCol, refCol, choiceCol, SqlValue.withAffinity, Codec.txt,
      Codec.dec, Codec.ts, Codec.uuidCell]

theorem Trade.newRow_toRow {tbl : Table} (h : tbl.schema = tradesTable) (t : Trade) :
    tbl.newRow t.toRow = .ok (tbl.nextRowid, t.cells) := by
  rw [Table.newRow_of_names (by rw [h]; rfl) (by rw [h]; rfl), h, tradesTable_givenRow]

theorem project_trade_cells {tbl : Table} (h : tbl.schema = tradesTable) (t : Trade) :
    Rows.project tbl tradeColumns t.cells = ⟨tradeColumns, t.cells⟩ := by
  cases ht : t.terminal <;>
    simp +decide [Rows.project, Table.get, h, TableDef.columnIndex?, List.findIdx?_cons, tradesTable, tradeColumns,
      Trade.toRow, Trade.cells, ht, textCol, optCol, refCol, choiceCol, Codec.txt, Codec.dec,
      Codec.ts, Codec.uuidCell]

theorem Trade.get_cells {tbl : Table} (h : tbl.schema = tradesTable) (t : Trade) :
    tbl.get t.cells "id" = .text t.id.toText ∧
    tbl.get t.cells "account_id" = .text t.accountId.toText ∧
    tbl.get t.cells "candle_id" = .text t.candleId.toText ∧
    tbl.get t.cells "created_at" = .text t.createdAt.toStoredText ∧
    tbl.get t.cells "terminal_marker" =
      (match t.terminal with
        | some r => .text r.marker.name
        | none => .null) := by
  cases ht : t.terminal <;>
    simp +decide [Table.get, h, TableDef.columnIndex?, List.findIdx?_cons, tradesTable,
      Trade.toRow, Trade.cells, ht, textCol, optCol, refCol, choiceCol, Codec.txt, Codec.dec,
      Codec.ts, Codec.uuidCell]

def TerminalRecord.cells (r : TerminalRecord) : List (String × SqlValue) :=
  [("terminal_marker", .text r.marker.name), ("terminal_reason", .text r.reason),
    ("terminal_at", Codec.ts r.markedAt)]

/-- Setting the marker columns of a trade's row gives the row of the trade with that marker;
every other column stays. -/
theorem Trade.assignedRow_cells (t : Trade) (r : TerminalRecord) :
    tradesTable.assignedRow r.cells t.cells = { t with terminal := some r }.cells := by
  cases ht : t.terminal <;>
    simp +decide [TableDef.assignedRow, TableDef.get, TerminalRecord.cells, tradesTable,
      TableDef.columnIndex?, List.findIdx?_cons, Trade.toRow, Trade.cells, ht, sameName_eq,
      textCol, optCol, refCol, choiceCol, SqlValue.withAffinity, Codec.txt, Codec.dec, Codec.ts,
      Codec.uuidCell]

/-- The columns of a trade's row read back as its fields, every decimal with a plus sign on
zero. -/
theorem Trade.ofRow_cells {t : Trade} (ht : t.Storable) :
    Trade.ofRow ⟨tradeColumns, t.cells⟩ = .ok t.stored := by
  obtain ⟨hc, hlev, hmark⟩ := ht
  have hid := @Codec.uuid_of_at ⟨tradeColumns, t.cells⟩ 0 t.id rfl
  have hacc := @Codec.uuid_of_at ⟨tradeColumns, t.cells⟩ 1 t.accountId rfl
  have hcan := @Codec.uuid_of_at ⟨tradeColumns, t.cells⟩ 2 t.candleId rfl
  have hsym := @Codec.text_of_at ⟨tradeColumns, t.cells⟩ 3 t.symbol rfl
  have htf := @Codec.parsed_of_at ⟨tradeColumns, t.cells⟩ 4 _ _ _ _ rfl
    (Codec.viaMessage_of_ok (Timeframe.parse_name t.timeframe))
  have hbias := @Codec.parsed_of_at ⟨tradeColumns, t.cells⟩ 5 _ _ _ _ rfl
    (Codec.viaMessage_of_ok (Bias.parse_name t.bias))
  have hbal := @Codec.decimal_of_at ⟨tradeColumns, t.cells⟩ 6 t.setup.balance rfl
  have hlv := @Codec.natBelow32_of_at ⟨tradeColumns, t.cells⟩ 7 t.setup.leverage rfl hlev
  have hmax := @Codec.decimal_of_at ⟨tradeColumns, t.cells⟩ 8 t.setup.maxRiskPct rfl
  have htz := @Codec.text_of_at ⟨tradeColumns, t.cells⟩ 9 t.setup.timezone rfl
  have hentry := @Codec.decimal_of_at ⟨tradeColumns, t.cells⟩ 10 t.plannedEntry rfl
  have hsl := @Codec.decimal_of_at ⟨tradeColumns, t.cells⟩ 11 t.plannedSl rfl
  have htp := @Codec.decimal_of_at ⟨tradeColumns, t.cells⟩ 12 t.plannedTp rfl
  have hrr := @Codec.decimal_of_at ⟨tradeColumns, t.cells⟩ 13 t.plannedRr rfl
  have hpct := @Codec.decimal_of_at ⟨tradeColumns, t.cells⟩ 14 t.plannedRiskPct rfl
  have hamt := @Codec.decimal_of_at ⟨tradeColumns, t.cells⟩ 15 t.plannedRiskAmount rfl
  have hsize := @Codec.decimal_of_at ⟨tradeColumns, t.cells⟩ 16 t.plannedPositionSize rfl
  have hreason := @Codec.text_of_at ⟨tradeColumns, t.cells⟩ 17 t.reason rfl
  have hcreated := @Codec.instant_of_at ⟨tradeColumns, t.cells⟩ 18 t.createdAt rfl hc
  cases hterm : t.terminal with
  | none =>
    have hmarker := @Codec.optParsed_of_null ⟨tradeColumns, t.cells⟩ 19 _
      (Codec.viaMessage TerminalMarker.parse) (by simp [Trade.cells, Trade.toRow, hterm, Codec.txt, Codec.ts])
    simp only [Trade.ofRow, hmarker, hid, hacc, hcan, hsym, htf, hbias, hbal, hlv, hmax, htz,
      hentry, hsl, htp, hrr, hpct, hamt, hsize, hreason, hcreated, ok_bind, pure_bind]
    rw [Trade.stored, hterm]
    rfl
  | some r =>
    have hmarker := @Codec.optParsed_of_text ⟨tradeColumns, t.cells⟩ 19 _
      (Codec.viaMessage TerminalMarker.parse) _ _ (by simp [Trade.cells, Trade.toRow, hterm, Codec.txt, Codec.ts])
      (Codec.viaMessage_of_ok (TerminalMarker.parse_name r.marker))
    have hwhy := @Codec.optText_of_text ⟨tradeColumns, t.cells⟩ 20 r.reason
      (by simp [Trade.cells, Trade.toRow, hterm, Codec.txt, Codec.ts])
    have hat := @Codec.instant_of_at ⟨tradeColumns, t.cells⟩ 21 r.markedAt
      (by simp [Trade.cells, Trade.toRow, hterm, Codec.txt, Codec.ts]) (hmark r (by simp [hterm]))
    simp only [Trade.ofRow, hmarker, hwhy, hat, hid, hacc, hcan, hsym, htf, hbias, hbal, hlv,
      hmax, htz, hentry, hsl, htp, hrr, hpct, hamt, hsize, hreason, hcreated, ok_bind, pure_bind,
      Option.getD_some]
    rw [Trade.stored, hterm]
    rfl

/-! ## Execution rows -/

/-- The cells of an execution's row after its number, in column order. -/
def Execution.cells (e : Execution) : Row := e.toRow.map (·.2)

theorem executionsTable_givenRow (e : Execution) :
    executionsTable.givenRow e.toRow = .null :: e.cells := by
  cases hr : e.reason <;>
    simp +decide [TableDef.givenRow, ColumnDef.givenValue, executionsTable, Execution.toRow,
      Execution.cells, sameName_eq, hr, textCol, optCol, refCol, choiceCol, Codec.txt, Codec.dec,
      Codec.ts, Codec.uuidCell]

/-- An execution's row names only columns of its table, and takes the next row number as its
number. -/
theorem Execution.newRow_toRow {tbl : Table} (h : tbl.schema = executionsTable) (e : Execution) :
    tbl.newRow e.toRow = .ok (tbl.nextRowid, .integer tbl.nextRowid :: e.cells) := by
  have hfst : e.toRow.map (·.1) = (executionsTable.columns.map (·.name)).tail := rfl
  unfold Table.newRow
  rw [h, List.find?_eq_none.2 fun ⟨c, v⟩ hx => by
    simpa using known_column
      (List.mem_of_mem_tail (hfst ▸ List.mem_map_of_mem (f := (·.1)) hx)),
    executionsTable_givenRow]
  have hseq : tbl.get (.null :: e.cells) "seq" = .null := by
    simp [Table.get, h, TableDef.columnIndex?, List.findIdx?_cons, executionsTable]
  have hrest : (executionsTable.columns.map fun c => if (c.name == "seq") = true then
      SqlValue.integer tbl.nextRowid else tbl.get (.null :: e.cells) c.name) =
      .integer tbl.nextRowid :: e.cells := by
    simp +decide [Table.get, h, TableDef.columnIndex?, List.findIdx?_cons, executionsTable,
      Execution.cells, Execution.toRow, textCol, optCol, refCol, choiceCol]
  simp only [show executionsTable.rowNumber = some "seq" from rfl, hseq, hrest]
  rfl

theorem project_execution_cells {tbl : Table} (h : tbl.schema = executionsTable) (n : Int)
    (e : Execution) :
    Rows.project tbl executionColumns (.integer n :: e.cells) = ⟨executionColumns, e.cells⟩ := by
  simp +decide [Rows.project, Table.get, h, TableDef.columnIndex?, List.findIdx?_cons,
    executionsTable, executionColumns, Execution.toRow, Execution.cells, textCol, optCol, refCol,
    choiceCol]

theorem Execution.get_cells {tbl : Table} (h : tbl.schema = executionsTable) (n : Int)
    (e : Execution) :
    tbl.get (.integer n :: e.cells) "trade_id" = .text e.tradeId.toText ∧
    tbl.get (.integer n :: e.cells) "executed_at" = .text e.executedAt.toStoredText ∧
    tbl.get (.integer n :: e.cells) "seq" = .integer n := by
  simp +decide [Table.get, h, TableDef.columnIndex?, List.findIdx?_cons, executionsTable,
    Execution.toRow, Execution.cells, textCol, optCol, refCol, choiceCol, Codec.ts, Codec.uuidCell]

/-- The columns of an execution's row read back as its fields, every decimal with a plus sign
on zero. -/
theorem Execution.ofRow_cells {e : Execution} (he : e.executedAt.Stamp) :
    Execution.ofRow ⟨executionColumns, e.cells⟩ = .ok e.stored := by
  have hid := @Codec.uuid_of_at ⟨executionColumns, e.cells⟩ 0 e.id rfl
  have htrade := @Codec.uuid_of_at ⟨executionColumns, e.cells⟩ 1 e.tradeId rfl
  have hkind := @Codec.parsed_of_at ⟨executionColumns, e.cells⟩ 2 _ _ _ _ rfl
    (Codec.viaMessage_of_ok (ExecutionKind.parse_name e.kind))
  have hprice := @Codec.decimal_of_at ⟨executionColumns, e.cells⟩ 3 e.price rfl
  have hsize := @Codec.decimal_of_at ⟨executionColumns, e.cells⟩ 4 e.positionSize rfl
  have hpnl := @Codec.optDecimal_of_at ⟨executionColumns, e.cells⟩ 5 e.pnl rfl
  have hpips := @Codec.optDecimal_of_at ⟨executionColumns, e.cells⟩ 6 e.pnlPips rfl
  have hat := @Codec.instant_of_at ⟨executionColumns, e.cells⟩ 7 e.executedAt rfl he
  have hwhy := @Codec.optText_of_at ⟨executionColumns, e.cells⟩ 8 e.reason rfl
  simp only [Execution.ofRow, hid, htrade, hkind, hprice, hsize, hpnl, hpips, hat, hwhy, ok_bind]
  rfl

end ForexJournal
