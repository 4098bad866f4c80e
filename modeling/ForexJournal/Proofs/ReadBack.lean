import Mathlib
import ForexJournal.Proofs.MarketRows
import ForexJournal.Proofs.JournalRows
import ForexJournal.Store.MarketData
/-!
# Reading back what was written

Each record the store writes is read back by the query that serves it: a trade by its
identifier, the executions of a trade, a candle by its identifier, the indicators of a candle
and the rule results of a candle. On a database with the journal's tables and no trigger, a
write that succeeds is read back as the record that was written, every decimal with a plus sign
on zero (`Decimal.plusZero_same`: same value, same scale) and a candle's time cut to the
microsecond. A query that returns several records returns the ones it returned before and the
new one, in some order.

The argument is the same for every table. A write that writes its row puts back its table with
the new row after the rows it kept, none of which clashes with the new row on a unique key
(`Database.insert_eq_ok`); a selection holds the rows its condition picks, in some order
(`Rows.selectOrdered_perm`). A selection by the column of a one-column unique key thus finds
the new row alone, and a selection by another column finds the old rows and the new one.
-/
namespace ForexJournal

/-! ## What a write leaves -/

namespace Database

theorem clashes_nil (t : Table) (row : Row) : clashes t row [] = [] := by
  simp [clashes]

/-- In `replace` mode an insert drops the rows that clash with the new one; none of the rows
it keeps clashes. -/
theorem clashes_kept (t : Table) (row : Row) (rows : List (Nat × Row)) :
    clashes t row (rows.filter fun e => !((clashes t row rows).flatMap (·.2)).contains e.1) =
      [] := by
  refine List.filterMap_eq_nil_iff.2 fun key hkey => ?_
  dsimp only
  split_ifs with hnull hnone
  · rfl
  · rfl
  obtain ⟨e, he⟩ := List.exists_mem_of_ne_nil _ (by rwa [List.isEmpty_iff] at hnone)
  obtain ⟨hkept, hmatch⟩ := List.mem_filter.1 he
  obtain ⟨hrow, hfresh⟩ := List.mem_filter.1 hkept
  have hhit : e ∈ rows.filter fun e => (key.zip (key.map (t.get row))).all fun kv =>
      SqlValue.sqlEq (t.get e.2 kv.1) kv.2 := List.mem_filter.2 ⟨hrow, hmatch⟩
  have hclash : (key, (rows.filter fun e => (key.zip (key.map (t.get row))).all fun kv =>
      SqlValue.sqlEq (t.get e.2 kv.1) kv.2).map (·.1)) ∈ clashes t row rows := by
    refine List.mem_filterMap.2 ⟨key, hkey, ?_⟩
    simp only [hnull, Bool.false_eq_true, if_false]
    rw [if_neg (by simpa using List.ne_nil_of_mem hhit)]
  have hdropped : e.1 ∈ (clashes t row rows).flatMap (·.2) :=
    List.mem_flatMap.2 ⟨_, hclash, List.mem_map_of_mem hhit⟩
  simp [hdropped] at hfresh

/-- What an insert on a database without triggers can do: in `ignore` mode, write nothing and
leave the database; otherwise write its row after the rows of its table that it keeps, which
are all of them except in `replace` mode, and none of which clashes with the new row. -/
theorem insert_eq_ok {db : Database} {table : String} {values : List (String × SqlValue)}
    {mode : ConflictMode} {fk : Bool} {db' : Database} {w : Bool} (htr : db.triggers = [])
    (h : db.insert table values mode fk = .ok (db', w)) :
    (mode = .ignore ∧ w = false ∧ db' = db) ∨
    (w = true ∧ ∃ t rowid row kept, db.table? table = some t ∧
      t.newRow values = .ok (rowid, row) ∧ clashes t row kept = [] ∧
      (mode ≠ .replace → kept = t.rows) ∧
      db' = db.putTable ⟨t.schema, kept ++ [(rowid, row)], Nat.max t.nextRowid (rowid + 1)⟩) := by
  unfold insert at h
  simp only [bind, Except.bind, triggerAction_of_nil htr] at h
  split at h
  · contradiction
  rename_i t hT
  rw [requireTable_eq_ok] at hT
  split at h
  · contradiction
  rename_i rowid row hrow
  obtain ⟨rowid, row⟩ := row
  cases hc : checkColumns t row with
  | some m =>
    cases mode <;> simp [hc, throw, throwThe, MonadExceptOf.throw, pure, Except.pure] at h
    exact .inl ⟨rfl, h.2, h.1.symm⟩
  | none =>
    cases hk : clashes t row t.rows with
    | nil =>
      refine .inr ⟨?_, t, rowid, row, t.rows, hT, hrow, hk, fun _ => rfl, ?_⟩ <;>
      cases fk <;> simp_all [pure, Except.pure] <;> split at h <;> simp_all
    | cons k ks =>
      cases mode with
      | ignore =>
        simp [hc, hk, pure, Except.pure] at h
        exact .inl ⟨rfl, h.2, h.1.symm⟩
      | abort => simp [hc, hk, throw, throwThe, MonadExceptOf.throw] at h
      | replace =>
        refine .inr ⟨?_, t, rowid, row, _, hT, hrow, clashes_kept t row t.rows,
          fun h => absurd rfl h, ?_⟩ <;>
        cases fk <;> simp_all [pure, Except.pure] <;> split at h <;> simp_all

/-- An insert on a database without triggers whose row passes the column checks, clashes with
no row and, when references are checked, refers to rows that exist, writes its row at the end
of its table. -/
theorem insert_eq_ok_of_checks {db : Database} {table : String}
    {values : List (String × SqlValue)} {mode : ConflictMode} {fk : Bool} {t : Table}
    {rowid : Nat} {row : Row} (htr : db.triggers = []) (hT : db.table? table = some t)
    (hnew : t.newRow values = .ok (rowid, row)) (hc : checkColumns t row = none)
    (hk : clashes t row t.rows = [])
    (hr : fk = true → db.checkReferences t row (t.schema.columns.map (·.name)) = .ok ()) :
    db.insert table values mode fk =
      .ok (db.putTable ⟨t.schema, t.rows ++ [(rowid, row)], Nat.max t.nextRowid (rowid + 1)⟩,
        true) := by
  unfold insert
  simp only [bind, Except.bind, triggerAction_of_nil htr, requireTable, hT, hnew, hc, hk]
  cases fk
  · rfl
  · simp only [hr rfl]
    rfl

theorem table?_putTable_of_ne {db : Database} {u : Table} {name : String}
    (h : sameName u.schema.name name = false) : (db.putTable u).table? name = db.table? name := by
  rw [table?_putTable, h]
  rfl

theorem insert_eq_ok_of_empty {db : Database} {table : String}
    {values : List (String × SqlValue)} {mode : ConflictMode} {fk : Bool} {d : TableDef}
    {row : Row} (htr : db.triggers = []) (hT : db.table? table = some (Table.empty d))
    (hnew : (Table.empty d).newRow values = .ok (1, row))
    (hc : checkColumns (Table.empty d) row = none)
    (hr : fk = true → db.checkReferences (Table.empty d) row (d.columns.map (·.name)) = .ok ()) :
    db.insert table values mode fk = .ok (db.putTable ⟨d, [(1, row)], 2⟩, true) :=
  insert_eq_ok_of_checks htr hT hnew hc (clashes_nil _ _) hr

theorem table?_putTable_self {db : Database} {name : String} {t : Table}
    (hT : db.table? name = some t) (u : Table) (hu : u.schema = t.schema) :
    (db.putTable u).table? name = some u := by
  rw [table?_putTable, hu, if_pos (sameName_of_table? hT), hT]
  rfl

end Database

theorem Store.write_of_eq_ok {α : Type} {s : Store} {f : Database → Except String (Database × α)}
    {db' : Database} {a : α} (hl : s.writeLocked = false) (h : f s.db = .ok (db', a)) :
    s.write f = .ok (a, { s with db := db' }) := by
  simp [Store.write, hl, h]

theorem JournalTx.change_insert_eq_ok {db db' : Database} {table : String}
    {values : List (String × SqlValue)} {w : Bool} (h : db.insert table values .abort true = .ok (db', w)) :
    JournalTx.change (fun db => (db.insert table values .abort true).map fun (db', _) => (db', ())) db =
      .ok ((), db') := by
  simp [JournalTx.change, h, Except.map]

theorem Store.write_eq_ok {α : Type} {s s' : Store} {f : Database → Except String (Database × α)}
    {a : α} (h : s.write f = .ok (a, s')) : ∃ db', f s.db = .ok (db', a) ∧ s' = { s with db := db' } := by
  unfold Store.write at h
  split_ifs at h
  split at h
  · obtain ⟨rfl, rfl⟩ := Prod.mk.inj (Except.ok.inj h)
    exact ⟨_, ‹_›, rfl⟩
  · cases h

theorem Store.fresh_table? :
    ∀ d ∈ journalSchema, Store.fresh.db.table? d.name = some (Table.empty d) := by
  simp +decide [Store.fresh, Database.initializeSchema, journalSchema, Database.createTable,
    Database.table?, sameName_eq, Database.empty, accountsTable, candlesTable, indicatorsTable,
    tradesTable, executionsTable, ruleResultsTable, Table.empty]

/-! ## What a selection finds -/

namespace Rows

/-- A selection holds the rows its condition picks, in some order. -/
theorem selectOrdered_perm {db : Database} {table : String} {t : Table}
    (hT : db.table? table = some t) (cols : List String) (pred : Table → Row → Bool)
    (before : Table → Row → Row → Bool) :
    ∃ sel, selectOrdered db table cols pred before = .ok sel ∧
      sel.Perm (((t.rows.map (·.2)).filter (pred t)).map (project t cols)) :=
  ⟨_, selectOrdered_eq_ok.2 ⟨t, hT, rfl⟩,
    ((List.mergeSort_perm _ _).trans (((List.mergeSort_perm t.rows _).map _).filter _)).map _⟩

theorem mapM_cons_eq_ok {α β ε : Type} {f : α → Except ε β} {a : α} {l : List α} {L : List β} :
    (a :: l).mapM f = .ok L ↔ ∃ b bs, f a = .ok b ∧ l.mapM f = .ok bs ∧ L = b :: bs := by
  rw [List.mapM_cons]
  cases f a <;> cases l.mapM f <;> simp [bind, Except.bind, pure, Except.pure, eq_comm]

theorem mapM_perm {α β ε : Type} {f : α → Except ε β} {l l' : List α} (hp : l.Perm l')
    {L : List β} (h : l.mapM f = .ok L) : ∃ L', l'.mapM f = .ok L' ∧ L.Perm L' := by
  induction hp generalizing L with
  | nil => exact ⟨L, h, .refl L⟩
  | cons a _ ih =>
    obtain ⟨b, bs, hb, hbs, rfl⟩ := mapM_cons_eq_ok.1 h
    obtain ⟨bs', h', hp'⟩ := ih hbs
    exact ⟨b :: bs', mapM_cons_eq_ok.2 ⟨b, bs', hb, h', rfl⟩, hp'.cons b⟩
  | swap a b l =>
    obtain ⟨x, xs, hx, hxs, rfl⟩ := mapM_cons_eq_ok.1 h
    obtain ⟨y, ys, hy, hys, rfl⟩ := mapM_cons_eq_ok.1 hxs
    exact ⟨y :: x :: ys, mapM_cons_eq_ok.2 ⟨y, x :: ys, hy,
      mapM_cons_eq_ok.2 ⟨x, ys, hx, hys, rfl⟩, rfl⟩, .swap y x ys⟩
  | trans _ _ ih₁ ih₂ =>
    obtain ⟨L₁, h₁, p₁⟩ := ih₁ h
    obtain ⟨L₂, h₂, p₂⟩ := ih₂ h₁
    exact ⟨L₂, h₂, p₁.trans p₂⟩

theorem decodeAll_perm {α : Type} {decode : Codec.Selected → Except String α}
    {l l' : List Codec.Selected} (hp : l.Perm l') {L : List α} (h : decodeAll decode l = .ok L) :
    ∃ L', decodeAll decode l' = .ok L' ∧ L.Perm L' := by
  unfold decodeAll at h ⊢
  obtain ⟨L', h', hp'⟩ := mapM_perm hp (lift_eq_ok.1 h)
  exact ⟨L', lift_eq_ok.2 h', hp'⟩

theorem decodeAll_append_single {α : Type} {decode : Codec.Selected → Except String α}
    {l : List Codec.Selected} {L : List α} {x : Codec.Selected} {a : α}
    (h : decodeAll decode l = .ok L) (hx : decode x = .ok a) :
    decodeAll decode (l ++ [x]) = .ok (L ++ [a]) := by
  unfold decodeAll at h ⊢
  rw [lift_eq_ok, List.mapM_append, lift_eq_ok.1 h]
  simp [hx, bind, Except.bind, pure, Except.pure]

/-- After a write of `row` after rows that do not clash with it, the rows whose column of a
one-column unique key holds the new row's text are the new row alone. -/
theorem filter_whereText_key {t : Table} {row : Row} {kept : List (Nat × Row)} {col v : String}
    (hkey : [col] ∈ t.schema.uniqueKeys) (hv : t.get row col = .text v)
    (hcl : Database.clashes t row kept = []) (rowid : Nat) :
    ((kept ++ [(rowid, row)]).map (·.2)).filter (whereText col v t) = [row] := by
  have hmiss := JournalRows.no_hit_of_clashes_nil hcl hkey (by simp [hv])
  rw [List.map_append, List.filter_append, List.filter_eq_nil_iff.2 ?_]
  · simp [whereText, hv, SqlValue.sqlEq_text]
  · intro r hr
    obtain ⟨e, he, rfl⟩ := List.mem_map.1 hr
    simpa [whereText, hv] using hmiss e he

theorem selectOrdered_key_written {db : Database} {table : String} {t : Table}
    (hT : db.table? table = some t) {row : Row} {kept : List (Nat × Row)} {col v : String}
    (hkey : [col] ∈ t.schema.uniqueKeys) (hv : t.get row col = .text v)
    (hcl : Database.clashes t row kept = []) (rowid n : Nat) (cols : List String)
    (before : Table → Row → Row → Bool) :
    selectOrdered (db.putTable ⟨t.schema, kept ++ [(rowid, row)], n⟩) table cols (whereText col v)
      before = .ok [project t cols row] := by
  obtain ⟨sel, hsel, hp⟩ := selectOrdered_perm
    (Database.table?_putTable_self hT ⟨t.schema, kept ++ [(rowid, row)], n⟩ rfl) cols
    (whereText col v) before
  have hrows : ((kept ++ [(rowid, row)]).map (·.2)).filter
      (whereText col v ⟨t.schema, kept ++ [(rowid, row)], n⟩) = [row] :=
    filter_whereText_key hkey hv hcl rowid
  rw [hrows] at hp
  rw [hsel, List.perm_singleton.1 hp]
  rfl

/-- After a write of `row` after all the rows of its table, a selection that picks it finds
the rows it found before and the new one. -/
theorem selectOrdered_append {db : Database} {table : String} {t : Table}
    (hT : db.table? table = some t) {row : Row} {col v : String}
    (hpick : whereText col v t row = true) (rowid n : Nat) (cols : List String)
    (before : Table → Row → Row → Bool) {sel : List Codec.Selected}
    (hsel : selectOrdered db table cols (whereText col v) before = .ok sel) :
    ∃ sel', selectOrdered (db.putTable ⟨t.schema, t.rows ++ [(rowid, row)], n⟩) table cols
      (whereText col v) before = .ok sel' ∧ sel'.Perm (sel ++ [project t cols row]) := by
  obtain ⟨sel₀, hsel₀, hp₀⟩ := selectOrdered_perm hT cols (whereText col v) before
  obtain rfl : sel₀ = sel := Except.ok.inj (hsel₀.symm.trans hsel)
  obtain ⟨sel', hsel', hp'⟩ := selectOrdered_perm
    (Database.table?_putTable_self hT ⟨t.schema, t.rows ++ [(rowid, row)], n⟩ rfl) cols
    (whereText col v) before
  refine ⟨sel', hsel', hp'.trans ?_⟩
  have hrows : ((t.rows ++ [(rowid, row)]).map (·.2)).filter
      (whereText col v ⟨t.schema, t.rows ++ [(rowid, row)], n⟩) =
        (t.rows.map (·.2)).filter (whereText col v t) ++ [row] := by
    rw [List.map_append, List.filter_append]
    simp only [List.map_cons, List.map_nil, List.filter_cons, List.filter_nil]
    exact congrArg₂ _ rfl (if_pos hpick)
  rw [hrows, List.map_append]
  exact (hp₀.append_right _).symm

theorem decodeFirst_single {α : Type} {decode : Codec.Selected → Except String α}
    {x : Codec.Selected} {a : α} (h : decode x = .ok a) : decodeFirst decode [x] = .ok (some a) := by
  simp [decodeFirst, h, lift, Except.map]

end Rows

/-! ## Each record is read back -/

section ReadBack

variable {db db' : Database} {s s' : Store}

theorem loadTrade_insertTrade {t : Trade} (htr : db.triggers = [])
    (hT : (db.table? "trades").map (·.schema) = some tradesTable) (ht : t.Storable)
    (h : JournalTx.insertTrade t db = .ok ((), db')) :
    JournalTx.loadTrade t.id db' = .ok (t.stored, db') := by
  obtain ⟨w, hins⟩ := JournalRows.insert_of_change h
  obtain ⟨tbl, rowid, row, hT', hnew, -, hcl, -, rfl⟩ := Database.insert_abort_eq_ok htr hins
  have hschema : tbl.schema = tradesTable := by simpa [hT'] using hT
  rw [Trade.newRow_toRow hschema t] at hnew
  obtain ⟨rfl, rfl⟩ := Prod.mk.inj (Except.ok.inj hnew)
  have hsel := Rows.selectOrdered_key_written hT' (by simp [hschema, tradesTable])
    (Trade.get_cells hschema t).1 hcl tbl.nextRowid (max tbl.nextRowid (tbl.nextRowid + 1))
    tradeColumns Rows.noOrder
  refine JournalTx.read_eq_ok.2 ⟨?_, rfl⟩
  rw [Table.withRow, hsel, project_trade_cells hschema, ok_bind,
    Rows.decodeFirst_single (Trade.ofRow_cells ht)]
  rfl

/-- The executions of a trade read back after an insert are those read before and the new
one, in some order. -/
theorem loadExecutions_insertExecution {e : Execution} {H : List Execution}
    (htr : db.triggers = []) (hT : (db.table? "executions").map (·.schema) = some executionsTable)
    (he : e.executedAt.Stamp) (hread : JournalTx.loadExecutions e.tradeId db = .ok (H, db))
    (h : JournalTx.insertExecution e db = .ok ((), db')) :
    ∃ H', JournalTx.loadExecutions e.tradeId db' = .ok (H', db') ∧ H'.Perm (H ++ [e.stored]) := by
  obtain ⟨w, hins⟩ := JournalRows.insert_of_change h
  obtain ⟨tbl, rowid, row, hT', hnew, -, -, -, rfl⟩ := Database.insert_abort_eq_ok htr hins
  have hschema : tbl.schema = executionsTable := by simpa [hT'] using hT
  rw [Execution.newRow_toRow hschema e] at hnew
  obtain ⟨rfl, rfl⟩ := Prod.mk.inj (Except.ok.inj hnew)
  obtain ⟨sel, hsel, hdec⟩ := except_bind_eq_ok.1 (JournalTx.read_eq_ok.1 hread).1
  have hpick : Rows.whereText "trade_id" e.tradeId.toText tbl
      (.integer tbl.nextRowid :: e.cells) = true := by
    simp [whereText_execution_trade hschema]
  obtain ⟨sel', hsel', hp⟩ := Rows.selectOrdered_append hT' hpick tbl.nextRowid
    (max tbl.nextRowid (tbl.nextRowid + 1)) executionColumns _ hsel
  rw [project_execution_cells hschema] at hp
  obtain ⟨H', hdec', hH⟩ := Rows.decodeAll_perm hp.symm
    (Rows.decodeAll_append_single hdec (Execution.ofRow_cells he))
  refine ⟨H', JournalTx.read_eq_ok.2 ⟨?_, rfl⟩, hH.symm⟩
  rw [Table.withRow, hsel', ok_bind]
  exact hdec'

/-- A candle that was written is found back by its identifier, its time cut to the
microsecond. -/
theorem getCandle_insertCandle {c : Candle} (htr : s.db.triggers = [])
    (hT : (s.db.table? "candles").map (·.schema) = some candlesTable)
    (hc : c.timestamp.Representable) (h : s.insertCandle c = .ok (true, s')) :
    s'.getCandle c.id = .ok c.stored := by
  obtain ⟨db', hins, rfl⟩ := Store.write_eq_ok h
  rcases Database.insert_eq_ok htr hins with ⟨-, hw, -⟩ |
    ⟨-, tbl, rowid, row, kept, hT', hnew, hcl, -, rfl⟩
  · cases hw
  have hschema : tbl.schema = candlesTable := by simpa [hT'] using hT
  rw [Candle.newRow_toRow hschema c] at hnew
  obtain ⟨rfl, rfl⟩ := Prod.mk.inj (Except.ok.inj hnew)
  have hsel := Rows.selectOrdered_key_written hT' (by simp [hschema, candlesTable])
    (Candle.get_id hschema c) hcl tbl.nextRowid (Nat.max tbl.nextRowid (tbl.nextRowid + 1))
    candleColumns Rows.noOrder
  simp only [Store.getCandle, hsel, project_candle_cells hschema, ok_bind,
    Rows.decodeFirst_single (Candle.ofRow_cells hc)]

/-- Indicators that were saved are found back by their candle, whatever was saved for it
before. -/
theorem getIndicators_saveIndicators {i : Indicators} (htr : s.db.triggers = [])
    (hT : (s.db.table? "indicators").map (·.schema) = some indicatorsTable)
    (h : s.saveIndicators i = .ok s') : s'.getIndicators i.candleId = .ok (some i.stored) := by
  obtain ⟨⟨w, s''⟩, hw, rfl⟩ := JournalRows.except_map_eq_ok h
  obtain ⟨db', hins, rfl⟩ := Store.write_eq_ok hw
  rcases Database.insert_eq_ok htr hins with ⟨hm, -, -⟩ |
    ⟨-, tbl, rowid, row, kept, hT', hnew, hcl, -, rfl⟩
  · cases hm
  have hschema : tbl.schema = indicatorsTable := by simpa [hT'] using hT
  rw [Indicators.newRow_toRow hschema i] at hnew
  obtain ⟨rfl, rfl⟩ := Prod.mk.inj (Except.ok.inj hnew)
  have hsel := Rows.selectOrdered_key_written hT' (by simp [hschema, indicatorsTable])
    (Indicators.get_candleId hschema i) hcl tbl.nextRowid
    (Nat.max tbl.nextRowid (tbl.nextRowid + 1)) indicatorColumns Rows.noOrder
  simp only [Store.getIndicators, hsel, project_indicators_cells hschema, ok_bind]
  exact Rows.decodeFirst_single (Indicators.ofRow_cells i)

/-- The rule results of a candle read back after a result was written are those read before
and the new one, in some order. -/
theorem ruleResults_insertRuleResult {candle : Uuid} {r : RuleResult} {now : Instant}
    {L : List RuleResult} (htr : s.db.triggers = [])
    (hT : (s.db.table? "rule_results").map (·.schema) = some ruleResultsTable)
    (hv : r.ruleVersion < 4294967296) (hread : s.ruleResults candle = .ok L)
    (h : s.insertRuleResult candle r now = .ok (true, s')) :
    ∃ L', s'.ruleResults candle = .ok L' ∧ L'.Perm (L ++ [r.stored]) := by
  obtain ⟨db', hins, rfl⟩ := Store.write_eq_ok h
  rcases Database.insert_eq_ok htr hins with ⟨-, hw, -⟩ |
    ⟨-, tbl, rowid, row, kept, hT', hnew, -, hkept, rfl⟩
  · cases hw
  obtain rfl := hkept (by decide)
  have hschema : tbl.schema = ruleResultsTable := by simpa [hT'] using hT
  rw [RuleResult.newRow_toRow hschema r candle now] at hnew
  obtain ⟨rfl, rfl⟩ := Prod.mk.inj (Except.ok.inj hnew)
  obtain ⟨sel, hsel, hdec⟩ := except_bind_eq_ok.1 hread
  have hpick : Rows.whereText "candle_id" candle.toText tbl (r.cells candle now) = true := by
    simp [Rows.whereText, RuleResult.get_candleId hschema, SqlValue.sqlEq_text]
  obtain ⟨sel', hsel', hp⟩ := Rows.selectOrdered_append hT' hpick tbl.nextRowid
    (Nat.max tbl.nextRowid (tbl.nextRowid + 1)) ruleResultColumns _ hsel
  rw [project_ruleResult_cells hschema] at hp
  obtain ⟨L', hdec', hL⟩ := Rows.decodeAll_perm hp.symm
    (Rows.decodeAll_append_single hdec (RuleResult.ofRow_cells hv))
  refine ⟨L', ?_, hL.symm⟩
  rw [Store.ruleResults, hsel', ok_bind]
  exact hdec'

end ReadBack

/-- Every record the store writes is read back by the query that serves it, as it was written
but for the sign of a zero, which keeps the value and the scale, and for a candle's time, cut
to the microsecond: a trade by its identifier, the executions of a trade and the rule results
of a candle with the new one among those read before, a candle by its identifier and the
indicators of a candle. The database has the journal's tables and no trigger; a trade's and an
execution's instants are kept to the microsecond, and the 32-bit columns hold 32-bit values. -/
theorem written_records_read_back :
    (∀ (db db' : Database) (t : Trade), db.triggers = [] →
      (db.table? "trades").map (·.schema) = some tradesTable → t.Storable →
      JournalTx.insertTrade t db = .ok ((), db') →
      JournalTx.loadTrade t.id db' = .ok (t.stored, db')) ∧
    (∀ (db db' : Database) (e : Execution) (H : List Execution), db.triggers = [] →
      (db.table? "executions").map (·.schema) = some executionsTable → e.executedAt.Stamp →
      JournalTx.loadExecutions e.tradeId db = .ok (H, db) →
      JournalTx.insertExecution e db = .ok ((), db') →
      ∃ H', JournalTx.loadExecutions e.tradeId db' = .ok (H', db') ∧
        H'.Perm (H ++ [e.stored])) ∧
    (∀ (s s' : Store) (c : Candle), s.db.triggers = [] →
      (s.db.table? "candles").map (·.schema) = some candlesTable →
      c.timestamp.Representable → s.insertCandle c = .ok (true, s') →
      s'.getCandle c.id = .ok c.stored) ∧
    (∀ (s s' : Store) (i : Indicators), s.db.triggers = [] →
      (s.db.table? "indicators").map (·.schema) = some indicatorsTable →
      s.saveIndicators i = .ok s' → s'.getIndicators i.candleId = .ok (some i.stored)) ∧
    (∀ (s s' : Store) (candle : Uuid) (r : RuleResult) (now : Instant) (L : List RuleResult),
      s.db.triggers = [] →
      (s.db.table? "rule_results").map (·.schema) = some ruleResultsTable →
      r.ruleVersion < 4294967296 → s.ruleResults candle = .ok L →
      s.insertRuleResult candle r now = .ok (true, s') →
      ∃ L', s'.ruleResults candle = .ok L' ∧ L'.Perm (L ++ [r.stored])) ∧
    (∀ d : Decimal, d.plusZero.scale = d.scale ∧ d.plusZero.sameValue d = true) :=
  ⟨fun _ _ _ htr hT ht h => loadTrade_insertTrade htr hT ht h,
    fun _ _ _ _ htr hT he hread h => loadExecutions_insertExecution htr hT he hread h,
    fun _ _ _ htr hT hc h => getCandle_insertCandle htr hT hc h,
    fun _ _ _ htr hT h => getIndicators_saveIndicators htr hT h,
    fun _ _ _ _ _ _ htr hT hv hread h => ruleResults_insertRuleResult htr hT hv hread h,
    Decimal.plusZero_same⟩


/-! ## A run from a fresh store -/

section Samples

/-! Records of one account's first trade on a weekly candle. -/

def sampleAccount : Account :=
  ⟨Uuid.ofNat 1, "main", Decimal.ofMantissa 10000 0, 100, Decimal.ofMantissa 1 0, "UTC",
    Instant.epoch.addSeconds 1704067200⟩

def sampleCandle : Candle :=
  ⟨Uuid.ofNat 2, "EURUSD", .weekly, Instant.epoch.addSeconds 1704067200,
    Decimal.ofMantissa 11 1, Decimal.ofMantissa 12 1, Decimal.ofMantissa 10 1,
    Decimal.ofMantissa 115 2, none⟩

def sampleTrade : Trade :=
  ⟨Uuid.ofNat 3, Uuid.ofNat 1, Uuid.ofNat 2, "EURUSD", .weekly, .long, sampleAccount.snapshot,
    Decimal.ofMantissa 11 1, Decimal.ofMantissa 10 1, Decimal.ofMantissa 13 1,
    Decimal.ofMantissa 2 0, Decimal.ofMantissa 1 0, Decimal.ofMantissa 100 0,
    Decimal.ofMantissa 1 0, "trend", Instant.epoch.addSeconds 1704067200, none⟩

def sampleExecution : Execution :=
  ⟨Uuid.ofNat 4, Uuid.ofNat 3, .entry, Decimal.ofMantissa 11 1, Decimal.ofMantissa 1 0, none,
    none, Instant.epoch.addSeconds 1704070800, none⟩

def sampleIndicators : Indicators :=
  ⟨Uuid.ofNat 2, none, none, none, Decimal.ofMantissa 2 1, Decimal.ofMantissa 5 2,
    Decimal.ofMantissa 5 2, Decimal.ofMantissa 1 1, Decimal.ofMantissa 11 1, none, none⟩

def sampleResult : RuleResult :=
  ⟨"W1_TREND_BULLISH", 1, .fail, Decimal.zero, [.ema50GtEma200],
    [.closeGtEma50, .ema50SlopePositive]⟩

/-- From a fresh store, an account, a candle, a trade on it, an execution of the trade, the
candle's indicators and a rule result on the candle are written, and each is read back. -/
theorem written_records_read_back_in_fresh_store :
    ∃ (db₁ db₂ db₃ : Database) (s₁ s₂ s₃ : Store),
      JournalTx.insertAccount sampleAccount Store.fresh.db = .ok ((), db₁) ∧
      Store.insertCandle ⟨db₁, false⟩ sampleCandle = .ok (true, s₁) ∧
      s₁.getCandle sampleCandle.id = .ok sampleCandle.stored ∧
      JournalTx.insertTrade sampleTrade s₁.db = .ok ((), db₂) ∧
      JournalTx.loadTrade sampleTrade.id db₂ = .ok (sampleTrade.stored, db₂) ∧
      JournalTx.insertExecution sampleExecution db₂ = .ok ((), db₃) ∧
      JournalTx.loadExecutions sampleExecution.tradeId db₃ =
        .ok ([sampleExecution.stored], db₃) ∧
      s₁.saveIndicators sampleIndicators = .ok s₂ ∧
      s₂.getIndicators sampleIndicators.candleId = .ok (some sampleIndicators.stored) ∧
      s₁.insertRuleResult sampleCandle.id sampleResult Instant.epoch = .ok (true, s₃) ∧
      ∃ L, s₃.ruleResults sampleCandle.id = .ok L ∧ L.Perm [sampleResult.stored] := by
  obtain ⟨readTrade, readExecutions, readCandle, readIndicators, readResults, -⟩ :=
    written_records_read_back
  have htr : Store.fresh.db.triggers = [] := JournalRows.holds_fresh.triggers
  have hA : Store.fresh.db.table? "accounts" = some (Table.empty accountsTable) :=
    Store.fresh_table? accountsTable (by simp [journalSchema])
  have hC : Store.fresh.db.table? "candles" = some (Table.empty candlesTable) :=
    Store.fresh_table? candlesTable (by simp [journalSchema])
  have hI : Store.fresh.db.table? "indicators" = some (Table.empty indicatorsTable) :=
    Store.fresh_table? indicatorsTable (by simp [journalSchema])
  have hT : Store.fresh.db.table? "trades" = some (Table.empty tradesTable) :=
    Store.fresh_table? tradesTable (by simp [journalSchema])
  have hE : Store.fresh.db.table? "executions" = some (Table.empty executionsTable) :=
    Store.fresh_table? executionsTable (by simp [journalSchema])
  have hR : Store.fresh.db.table? "rule_results" = some (Table.empty ruleResultsTable) :=
    Store.fresh_table? ruleResultsTable (by simp [journalSchema])
  set rowA := accountsTable.givenRow sampleAccount.toRow
  set db₁ := Store.fresh.db.putTable ⟨accountsTable, [(1, rowA)], 2⟩ with hdb₁
  have hacc : Store.fresh.db.insert "accounts" sampleAccount.toRow .abort true = .ok (db₁, true) :=
    Database.insert_eq_ok_of_empty htr hA
      (show (Table.empty accountsTable).newRow sampleAccount.toRow = .ok (1, rowA) from
        Table.newRow_of_names rfl rfl)
      (by decide +kernel) (fun _ => by decide +kernel)
  have hC₁ : db₁.table? "candles" = some (Table.empty candlesTable) := by
    rw [hdb₁, Database.table?_putTable_of_ne (by decide +kernel), hC]
  set db₂ := db₁.putTable ⟨candlesTable, [(1, sampleCandle.cells)], 2⟩ with hdb₂
  have hcandle : Store.insertCandle ⟨db₁, false⟩ sampleCandle = .ok (true, ⟨db₂, false⟩) :=
    Store.write_of_eq_ok rfl (Database.insert_eq_ok_of_empty htr hC₁
      (Candle.newRow_toRow rfl sampleCandle) (by decide +kernel) (fun _ => by decide +kernel))
  have hT₂ : db₂.table? "trades" = some (Table.empty tradesTable) := by
    rw [hdb₂, Database.table?_putTable_of_ne (by decide +kernel), hdb₁,
      Database.table?_putTable_of_ne (by decide +kernel), hT]
  set db₃ := db₂.putTable ⟨tradesTable, [(1, sampleTrade.cells)], 2⟩ with hdb₃
  have htrade : db₂.insert "trades" sampleTrade.toRow .abort true = .ok (db₃, true) :=
    Database.insert_eq_ok_of_empty htr hT₂ (Trade.newRow_toRow rfl sampleTrade)
      (by decide +kernel) (fun _ => by decide +kernel)
  have hE₃ : db₃.table? "executions" = some (Table.empty executionsTable) := by
    rw [hdb₃, Database.table?_putTable_of_ne (by decide +kernel), hdb₂,
      Database.table?_putTable_of_ne (by decide +kernel), hdb₁,
      Database.table?_putTable_of_ne (by decide +kernel), hE]
  set db₄ := db₃.putTable ⟨executionsTable, [(1, .integer 1 :: sampleExecution.cells)], 2⟩
  have hexec : db₃.insert "executions" sampleExecution.toRow .abort true = .ok (db₄, true) :=
    Database.insert_eq_ok_of_empty htr hE₃ (Execution.newRow_toRow rfl sampleExecution)
      (by decide +kernel) (fun _ => by decide +kernel)
  have hI₂ : db₂.table? "indicators" = some (Table.empty indicatorsTable) := by
    rw [hdb₂, Database.table?_putTable_of_ne (by decide +kernel), hdb₁,
      Database.table?_putTable_of_ne (by decide +kernel), hI]
  set s₂ : Store := ⟨db₂.putTable ⟨indicatorsTable, [(1, sampleIndicators.cells)], 2⟩, false⟩
  have hind : db₂.insert "indicators" sampleIndicators.toRow .replace true = .ok (s₂.db, true) :=
    Database.insert_eq_ok_of_empty htr hI₂ (Indicators.newRow_toRow rfl sampleIndicators)
      (by decide +kernel) (fun _ => by decide +kernel)
  have hsave : Store.saveIndicators ⟨db₂, false⟩ sampleIndicators = .ok s₂ := by
    rw [Store.saveIndicators, Store.write_of_eq_ok rfl hind]
    rfl
  have hR₂ : db₂.table? "rule_results" = some (Table.empty ruleResultsTable) := by
    rw [hdb₂, Database.table?_putTable_of_ne (by decide +kernel), hdb₁,
      Database.table?_putTable_of_ne (by decide +kernel), hR]
  set s₃ : Store :=
    ⟨db₂.putTable ⟨ruleResultsTable, [(1, sampleResult.cells sampleCandle.id Instant.epoch)], 2⟩,
      false⟩
  have hres : Store.insertRuleResult ⟨db₂, false⟩ sampleCandle.id sampleResult Instant.epoch =
      .ok (true, s₃) :=
    Store.write_of_eq_ok rfl (Database.insert_eq_ok_of_empty htr hR₂
      (RuleResult.newRow_toRow rfl sampleResult sampleCandle.id Instant.epoch)
      (by decide +kernel) (fun _ => by decide +kernel))
  have hnoExecution : JournalTx.loadExecutions sampleExecution.tradeId db₃ = .ok ([], db₃) :=
    JournalTx.read_eq_ok.2 ⟨by decide +kernel, rfl⟩
  have hnoResult : Store.ruleResults ⟨db₂, false⟩ sampleCandle.id = .ok [] := by
    rw [Store.ruleResults, Rows.selectOrdered_eq_ok.2 ⟨_, hR₂, rfl⟩]
    simp [Table.empty, ok_bind, Rows.decodeAll, Rows.lift]
    rfl
  have hstamp : ∀ t : Instant, t = Instant.epoch.addSeconds 1704067200 ∨
      t = Instant.epoch.addSeconds 1704070800 → t.Stamp := by
    rintro t (rfl | rfl) <;> exact ⟨by unfold Instant.Representable; decide, by decide⟩
  obtain ⟨H, hH, hperm⟩ := readExecutions db₃ db₄ sampleExecution [] htr (by rw [hE₃]; rfl)
    (hstamp _ (.inr rfl)) hnoExecution (JournalTx.change_insert_eq_ok hexec)
  obtain ⟨L, hL, hpermL⟩ := readResults ⟨db₂, false⟩ s₃ sampleCandle.id sampleResult
    Instant.epoch [] htr (by rw [hR₂]; rfl) (by decide) hnoResult hres
  exact ⟨db₁, db₃, db₄, ⟨db₂, false⟩, s₂, s₃, JournalTx.change_insert_eq_ok hacc, hcandle,
    readCandle ⟨db₁, false⟩ ⟨db₂, false⟩ sampleCandle htr (by rw [hC₁]; rfl)
      (hstamp _ (.inl rfl)).1 hcandle,
    JournalTx.change_insert_eq_ok htrade,
    readTrade db₂ db₃ sampleTrade htr (by rw [hT₂]; rfl)
      ⟨hstamp _ (.inl rfl), by decide, by simp [sampleTrade]⟩ (JournalTx.change_insert_eq_ok htrade),
    JournalTx.change_insert_eq_ok hexec, by rw [hH, List.perm_singleton.1 hperm], hsave,
    readIndicators ⟨db₂, false⟩ s₂ sampleIndicators htr (by rw [hI₂]; rfl) hsave,
    hres, L, hL, hpermL⟩

def subMicroCandle : Candle :=
  { sampleCandle with
    timestamp := (readInstantText "2024-01-01T00:00:00.000000001Z").toOption.getD Instant.epoch }

example : subMicroCandle.timestamp.nanos = 1 := rfl

/-- The store keeps a candle's time to the microsecond only: a candle written with a time
between two microseconds is read back with another time. -/
theorem candle_read_back_loses_nanoseconds :
    ∃ s, Store.fresh.insertCandle subMicroCandle = .ok (true, s) ∧
      (s.getCandle subMicroCandle.id).map (·.timestamp) =
        .ok subMicroCandle.timestamp.truncMicros ∧
      subMicroCandle.timestamp.truncMicros ≠ subMicroCandle.timestamp := by
  have htr : Store.fresh.db.triggers = [] := JournalRows.holds_fresh.triggers
  have hC : Store.fresh.db.table? "candles" = some (Table.empty candlesTable) :=
    Store.fresh_table? candlesTable (by simp [journalSchema])
  have hwrite : Store.fresh.insertCandle subMicroCandle = .ok (true,
      ⟨Store.fresh.db.putTable ⟨candlesTable, [(1, subMicroCandle.cells)], 2⟩, false⟩) :=
    Store.write_of_eq_ok rfl (Database.insert_eq_ok_of_empty htr hC
      (Candle.newRow_toRow rfl subMicroCandle) (by decide +kernel) (fun _ => by decide +kernel))
  refine ⟨_, hwrite, ?_, by decide +kernel⟩
  rw [getCandle_insertCandle htr (by rw [hC]; rfl)
    (by unfold Instant.Representable; decide +kernel) hwrite]
  rfl

end Samples

end ForexJournal
