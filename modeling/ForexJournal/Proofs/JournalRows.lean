import Mathlib
import ForexJournal.Proofs.StoredRows
import ForexJournal.Proofs.Writes
import ForexJournal.Proofs.History

/-!
# The journal's rows

The trades and executions tables of a store, seen as two lists of records with their row
numbers. `JournalRows.Holds J db` says that the database holds exactly the rows of `J`,
numbered in increasing order, that every record in them reads back, and that no trigger is
defined.

Under it, every read of the journal is a list function of `J`: all trades (`trades_eq`), one
trade (`loadTrade_eq_ok`), the trades on a candle (`tradesForAccountCandle_eq`) and the
executions of a trade (`executionsOf_eq`, `loadExecutions_eq`). Every write is a list change:
an insert appends a record (`insertTrade_holds`, `insertExecution_holds`), the marker update
marks the matching trade (`setTerminalMarker_holds`), and a write to another table changes
nothing (`Holds.insert_other`).

Executions are read by the text of their time and then by `seq`. That order can differ from
the order in time, since the text of a year outside 0 to 9999 does not sort as the year, but
never within one instant, whose executions share one text: so the history the journal reads
and the history in insertion order have the same stable sort by time.
-/

namespace ForexJournal

/-- Every stored trade, in the order the trades were stored. -/
def Store.trades (s : Store) : Except JournalError (List Trade) := do
  let rows ← Rows.selectOrdered s.db "trades" tradeColumns (fun _ _ => true) Rows.noOrder
  Rows.decodeAll Trade.ofRow rows

/-- The executions of a trade, in the order they were stored. -/
def Store.executionsOf (s : Store) (trade : Uuid) : Except JournalError (List Execution) := do
  let rows ← Rows.selectOrdered s.db "executions" executionColumns
    (Rows.whereText "trade_id" trade.toText) Rows.noOrder
  Rows.decodeAll Execution.ofRow rows

/-- Row numbers that increase along a table's rows and stay below its next number. -/
def Numbered {α : Type} (l : List (Nat × α)) (next : Nat) : Prop :=
  l.Pairwise (fun a b => a.1 < b.1) ∧ ∀ p ∈ l, p.1 < next

theorem Numbered.append {α : Type} {l : List (Nat × α)} {next : Nat} (h : Numbered l next)
    (a : α) : Numbered (l ++ [(next, a)]) (max next (next + 1)) := by
  refine ⟨List.pairwise_append.2 ⟨h.1, List.pairwise_singleton _ _, ?_⟩, ?_⟩
  · intro p hp q hq
    rw [List.mem_singleton.1 hq]
    exact h.2 p hp
  · intro p hp
    rcases List.mem_append.1 hp with hp | hp
    · have := h.2 p hp; omega
    · rw [List.mem_singleton.1 hp]; omega

/-- A stable sort leaves a class of elements in place when it already orders them as they
come. -/
theorem filter_mergeSort_of_pairwise {α : Type} {le : α → α → Bool}
    (trans : ∀ a b c, le a b = true → le b c = true → le a c = true)
    (total : ∀ a b, (le a b || le b a) = true) {l : List α} {q : α → Bool}
    (hq : (l.filter q).Pairwise fun a b => le a b = true) :
    (l.mergeSort le).filter q = l.filter q := by
  have hsub : List.Sublist (l.filter q) ((l.mergeSort le).filter q) := by
    simpa using (List.sublist_mergeSort trans total hq (List.filter_sublist)).filter q
  exact (hsub.eq_of_length ((List.mergeSort_perm l le).filter q).length_eq.symm).symm

section Names

theorem sameName_trades_executions : sameName "trades" "executions" = false := by
  rw [sameName_eq]; decide

theorem sameName_executions_trades : sameName "executions" "trades" = false := by
  rw [sameName_eq]; decide

end Names

section Cells

variable {tbl : Table}

theorem whereText_trade_id (h : tbl.schema = tradesTable) (t : Trade) (u : Uuid) :
    Rows.whereText "id" u.toText tbl t.cells = decide (t.id = u) := by
  rw [Rows.whereText, (Trade.get_cells h t).1, SqlValue.sqlEq_text]
  exact decide_eq_decide.2 Uuid.toText_inj

theorem whereText_trade_account (h : tbl.schema = tradesTable) (t : Trade) (u : Uuid) :
    Rows.whereText "account_id" u.toText tbl t.cells = decide (t.accountId = u) := by
  rw [Rows.whereText, (Trade.get_cells h t).2.1, SqlValue.sqlEq_text]
  exact decide_eq_decide.2 Uuid.toText_inj

theorem whereText_trade_candle (h : tbl.schema = tradesTable) (t : Trade) (u : Uuid) :
    Rows.whereText "candle_id" u.toText tbl t.cells = decide (t.candleId = u) := by
  rw [Rows.whereText, (Trade.get_cells h t).2.2.1, SqlValue.sqlEq_text]
  exact decide_eq_decide.2 Uuid.toText_inj

theorem whereText_execution_trade (h : tbl.schema = executionsTable) (n : Int) (e : Execution)
    (u : Uuid) :
    Rows.whereText "trade_id" u.toText tbl (.integer n :: e.cells) = decide (e.tradeId = u) := by
  rw [Rows.whereText, (Execution.get_cells h n e).1, SqlValue.sqlEq_text]
  exact decide_eq_decide.2 Uuid.toText_inj

/-- Executions are read in the order of the text of their time, and then of their row
number. -/
theorem byColumns_executions (h : tbl.schema = executionsTable) (p q : Nat × Execution) :
    Rows.byColumns ["executed_at", "seq"] tbl (.integer p.1 :: p.2.cells)
        (.integer q.1 :: q.2.cells) =
      decide (toLex (p.2.executedAt.toStoredText, p.1) ≤
        toLex (q.2.executedAt.toStoredText, q.1)) := by
  obtain ⟨-, hp, hps⟩ := Execution.get_cells h p.1 p.2
  obtain ⟨-, hq, hqs⟩ := Execution.get_cells h q.1 q.2
  simp only [Rows.byColumns, Rows.byColumns.go, hp, hq, hps, hqs, SqlValue.compare,
    Prod.Lex.toLex_le_toLex]
  cases hc : compare p.2.executedAt.toStoredText q.2.executedAt.toStoredText with
  | lt =>
    have := compare_lt_iff_lt.1 hc
    simp [this]
  | gt =>
    have := compare_gt_iff_gt.1 hc
    simp [this.ne', not_lt_of_gt this]
  | eq =>
    have := compare_eq_iff_eq.1 hc
    cases hn : compare (p.1 : Int) q.1 with
    | lt => have := compare_lt_iff_lt.1 hn; simp [*]; omega
    | gt => have := compare_gt_iff_gt.1 hn; simp [*]; omega
    | eq => have := compare_eq_iff_eq.1 hn; simp [*]; omega

end Cells

/-- The journal as its two tables hold it: the trades and the executions, each with its row
number, in the order they were written. -/
structure JournalRows where
  trades : List (Nat × Trade)
  executions : List (Nat × Execution)

namespace JournalRows

/-- The trades table holding these trades, with `next` as its next row number. -/
def tradeTable (J : JournalRows) (next : Nat) : Table :=
  ⟨tradesTable, J.trades.map fun p => (p.1, p.2.cells), next⟩

/-- The executions table holding these executions, each numbered by its row number. -/
def executionTable (J : JournalRows) (next : Nat) : Table :=
  ⟨executionsTable, J.executions.map fun p => (p.1, .integer p.1 :: p.2.cells), next⟩

/-- The database holds the journal: its trades and executions tables hold exactly these rows,
numbered in order, and can be read back; no trigger is defined. -/
structure Holds (J : JournalRows) (db : Database) : Prop where
  triggers : db.triggers = []
  trades : ∃ n, db.table? "trades" = some (J.tradeTable n) ∧ Numbered J.trades n
  executions : ∃ n, db.table? "executions" = some (J.executionTable n) ∧ Numbered J.executions n
  storable : ∀ p ∈ J.trades, p.2.Storable
  stamped : ∀ p ∈ J.executions, p.2.executedAt.Stamp

/-- The trades as the store reads them back, oldest first. -/
def storedTrades (J : JournalRows) : List Trade := J.trades.map (·.2.stored)

/-- The executions of a trade as the store reads them back, in the order they were written. -/
def history (J : JournalRows) (id : Uuid) : List Execution :=
  (J.executions.filter (·.2.tradeId = id)).map (·.2.stored)

section Reads

variable {J : JournalRows} {db : Database}

theorem selectOrdered_trades (hJ : J.Holds db) (pred : Table → Row → Bool)
    (before : Table → Row → Row → Bool) :
    ∃ n, Rows.selectOrdered db "trades" tradeColumns pred before = .ok
      (((J.trades.filter fun p => pred (J.tradeTable n) p.2.cells).mergeSort
        fun p q => before (J.tradeTable n) p.2.cells q.2.cells).map
          fun p => ⟨tradeColumns, p.2.cells⟩) := by
  obtain ⟨n, hT, hnum⟩ := hJ.trades
  refine ⟨n, Rows.selectOrdered_eq_ok.2 ⟨_, hT, ?_⟩⟩
  have hsorted : (J.tradeTable n).rows.Pairwise fun a b => a.1 < b.1 := List.pairwise_map.2 hnum.1
  rw [Rows.mergeSort_rowid hsorted]
  simp only [tradeTable, List.map_map, List.filter_map, Function.comp_def]
  rw [← List.map_mergeSort (r := fun p q => before (J.tradeTable n) p.2.cells q.2.cells)
    fun _ _ _ _ => rfl, List.map_map]
  exact (List.map_congr_left fun p _ => @project_trade_cells (J.tradeTable n) rfl p.2).symm

/-- A selection from the executions table: the executions `pred` picks, ordered by
`before`. -/
theorem selectOrdered_executions (hJ : J.Holds db) (pred : Table → Row → Bool)
    (before : Table → Row → Row → Bool) :
    ∃ n, Rows.selectOrdered db "executions" executionColumns pred before = .ok
      (((J.executions.filter fun p => pred (J.executionTable n) (.integer p.1 :: p.2.cells)).mergeSort
        fun p q => before (J.executionTable n) (.integer p.1 :: p.2.cells)
          (.integer q.1 :: q.2.cells)).map fun p => ⟨executionColumns, p.2.cells⟩) := by
  obtain ⟨n, hE, hnum⟩ := hJ.executions
  refine ⟨n, Rows.selectOrdered_eq_ok.2 ⟨_, hE, ?_⟩⟩
  have hsorted : (J.executionTable n).rows.Pairwise fun a b => a.1 < b.1 :=
    List.pairwise_map.2 hnum.1
  rw [Rows.mergeSort_rowid hsorted]
  simp only [executionTable, List.map_map, List.filter_map, Function.comp_def]
  rw [← List.map_mergeSort (r := fun p q => before (J.executionTable n)
    (.integer p.1 :: p.2.cells) (.integer q.1 :: q.2.cells)) fun _ _ _ _ => rfl, List.map_map]
  exact (List.map_congr_left fun p _ =>
    @project_execution_cells (J.executionTable n) rfl p.1 p.2).symm

theorem decodeAll_trades {l : List (Nat × Trade)} (hl : ∀ p ∈ l, p.2.Storable) :
    Rows.decodeAll Trade.ofRow (l.map fun p => ⟨tradeColumns, p.2.cells⟩) =
      .ok (l.map (·.2.stored)) :=
  Rows.decodeAll_map fun p hp => Trade.ofRow_cells (hl p hp)

theorem decodeAll_executions {l : List (Nat × Execution)} (hl : ∀ p ∈ l, p.2.executedAt.Stamp) :
    Rows.decodeAll Execution.ofRow (l.map fun p => ⟨executionColumns, p.2.cells⟩) =
      .ok (l.map (·.2.stored)) :=
  Rows.decodeAll_map fun p hp => Execution.ofRow_cells (hl p hp)

theorem mergeSort_keep {α : Type} (l : List α) : l.mergeSort (fun _ _ => true) = l :=
  List.mergeSort_of_pairwise (List.pairwise_of_forall fun _ _ => rfl)

/-- All trades read back in the order they were written. -/
theorem trades_eq {s : Store} (hJ : J.Holds s.db) : s.trades = .ok J.storedTrades := by
  obtain ⟨n, h⟩ := selectOrdered_trades hJ (fun _ _ => true) Rows.noOrder
  simp only [Store.trades, h, List.filter_true, Rows.noOrder, mergeSort_keep, ok_bind]
  exact decodeAll_trades hJ.storable

/-- The executions of a trade read back in the order they were written. -/
theorem executionsOf_eq {s : Store} (hJ : J.Holds s.db) (id : Uuid) :
    s.executionsOf id = .ok (J.history id) := by
  obtain ⟨n, h⟩ := selectOrdered_executions hJ (Rows.whereText "trade_id" id.toText)
    Rows.noOrder
  simp only [Store.executionsOf, h, Rows.noOrder, mergeSort_keep, ok_bind,
    whereText_execution_trade (rfl : (J.executionTable n).schema = _)]
  exact decodeAll_executions fun p hp => hJ.stamped p (List.mem_of_mem_filter hp)

/-- Loading a trade finds the trade stored under its identifier. -/
theorem loadTrade_eq_ok (hJ : J.Holds db) {id : Uuid} {T : Trade} {db' : Database}
    (h : JournalTx.loadTrade id db = .ok (T, db')) :
    db' = db ∧ ∃ p ∈ J.trades, p.2.id = id ∧ T = p.2.stored := by
  obtain ⟨h, rfl⟩ := JournalTx.read_eq_ok.1 h
  refine ⟨rfl, ?_⟩
  obtain ⟨n, hsel⟩ := selectOrdered_trades hJ (Rows.whereText "id" id.toText) Rows.noOrder
  simp only [hsel, Rows.noOrder, mergeSort_keep, ok_bind,
    whereText_trade_id (rfl : (J.tradeTable n).schema = _)] at h
  cases hfound : J.trades.filter (fun p => decide (p.2.id = id)) with
  | nil =>
    rw [hfound] at h
    cases h
  | cons p rest =>
    have hp : p ∈ J.trades.filter (fun p => decide (p.2.id = id)) := hfound ▸ List.mem_cons_self
    obtain ⟨hmem, hid⟩ := List.mem_filter.1 hp
    have hdec : Rows.decodeFirst Trade.ofRow (List.map (fun p => (⟨tradeColumns, p.2.cells⟩ :
        Codec.Selected)) (p :: rest)) = .ok (some p.2.stored) := by
      simp [Rows.decodeFirst, Trade.ofRow_cells (hJ.storable p hmem), Rows.lift, Except.map]
    rw [hfound, hdec, ok_bind] at h
    exact ⟨p, hmem, of_decide_eq_true hid, (Except.ok.inj h).symm⟩

/-- The trades of an account on a candle are the stored trades with that account and
candle, in some order. -/
theorem tradesForAccountCandle_eq (hJ : J.Holds db) (a c : Uuid) :
    ∃ ts, JournalTx.tradesForAccountCandle a c db = .ok (ts, db) ∧
      ts.Perm (J.storedTrades.filter fun T => T.accountId = a ∧ T.candleId = c) := by
  obtain ⟨n, hsel⟩ := selectOrdered_trades hJ
    (fun t r => Rows.whereText "account_id" a.toText t r && Rows.whereText "candle_id" c.toText t r)
    (Rows.byColumns ["created_at"])
  have hpick : ∀ p : Nat × Trade, (Rows.whereText "account_id" a.toText (J.tradeTable n) p.2.cells &&
      Rows.whereText "candle_id" c.toText (J.tradeTable n) p.2.cells) =
        decide (p.2.stored.accountId = a ∧ p.2.stored.candleId = c) := fun p => by
    rw [whereText_trade_account rfl, whereText_trade_candle rfl, Bool.decide_and]
    rfl
  simp only [hpick] at hsel
  set L := J.trades.filter fun p => decide (p.2.stored.accountId = a ∧ p.2.stored.candleId = c)
  set M := L.mergeSort fun p q => Rows.byColumns ["created_at"] (J.tradeTable n) p.2.cells q.2.cells
  have hL : ∀ p ∈ L, p.2.Storable := fun p hp => hJ.storable p (List.mem_of_mem_filter hp)
  refine ⟨M.map (·.2.stored), JournalTx.read_eq_ok.2 ⟨?_, rfl⟩, ?_⟩
  · rw [hsel, ok_bind]
    exact decodeAll_trades fun p hp => hL p (List.mem_mergeSort.1 hp)
  · rw [storedTrades, List.filter_map]
    exact ((List.mergeSort_perm L _).map _)

/-- The history the journal reads for a trade is the history in insertion order, up to
order, and has the same sort by time. -/
theorem loadExecutions_eq (hJ : J.Holds db) (id : Uuid) :
    ∃ hist, JournalTx.loadExecutions id db = .ok (hist, db) ∧ hist.Perm (J.history id) ∧
      Execution.sortByTime hist = Execution.sortByTime (J.history id) := by
  obtain ⟨n, hsel⟩ := selectOrdered_executions hJ (Rows.whereText "trade_id" id.toText)
    (Rows.byColumns ["executed_at", "seq"])
  simp only [whereText_execution_trade (rfl : (J.executionTable n).schema = _),
    byColumns_executions (rfl : (J.executionTable n).schema = _)] at hsel
  set L := J.executions.filter fun p => decide (p.2.tradeId = id)
  set key : Nat × Execution → Lex (String × Nat) := fun p =>
    toLex (p.2.executedAt.toStoredText, p.1)
  set M := L.mergeSort fun p q => decide (key p ≤ key q)
  have hL : ∀ p ∈ L, p.2.executedAt.Stamp := fun p hp => hJ.stamped p (List.mem_of_mem_filter hp)
  have hhist : J.history id = L.map (·.2.stored) := rfl
  refine ⟨M.map (·.2.stored), JournalTx.read_eq_ok.2 ⟨?_, rfl⟩, ?_, ?_⟩
  · rw [hsel, ok_bind]
    exact decodeAll_executions fun p hp => hL p (List.mem_mergeSort.1 hp)
  · rw [hhist]
    exact (List.mergeSort_perm L _).map _
  have hclass : ∀ t, M.filter (fun p => decide (p.2.executedAt = t)) =
      L.filter (fun p => decide (p.2.executedAt = t)) := by
    intro t
    refine filter_mergeSort_of_pairwise (fun a b c hab hbc => by
        simp only [decide_eq_true_eq] at hab hbc ⊢
        exact le_trans hab hbc)
      (fun a b => by simpa using le_total (key a) (key b)) ?_
    have hnum : L.Pairwise fun a b => a.1 < b.1 :=
      (hJ.executions.choose_spec.2.1).sublist List.filter_sublist
    refine (hnum.filter _).imp_of_mem fun {a b} ha hb hab => ?_
    have hta := of_decide_eq_true (List.mem_filter.1 ha).2
    have htb := of_decide_eq_true (List.mem_filter.1 hb).2
    simp only [key, hta, htb, Prod.Lex.toLex_le_toLex, lt_self_iff_false, true_and, false_or,
      decide_eq_true_eq]
    exact hab.le
  have hstable : Execution.StableTimeSort (J.history id)
      (Execution.sortByTime (M.map (·.2.stored))) := by
    refine ⟨Execution.sortByTime_inTimeOrder _, fun t => ?_⟩
    rw [(Execution.sortByTime_stable _).2 t, hhist, List.filter_map, List.filter_map]
    simpa [Function.comp_def, Execution.stored] using congrArg (List.map (·.2.stored)) (hclass t)
  exact (Execution.sortByTime_eq_of_stable hstable).symm

end Reads

/-- A trade with the marker set, if it carries the identifier and no marker yet. -/
def markTrade (id : Uuid) (r : TerminalRecord) (p : Nat × Trade) : Nat × Trade :=
  if p.2.id = id ∧ p.2.terminal = none then (p.1, { p.2 with terminal := some r }) else p

section Writes

variable {J : JournalRows} {db db' : Database}

theorem change_eq_ok {α : Type} {f : Database → Except String (Database × α)} {a : α}
    (h : JournalTx.change f db = .ok (a, db')) : f db = .ok (db', a) := by
  unfold JournalTx.change at h
  split at h
  · rename_i heq
    obtain ⟨rfl, rfl⟩ := Prod.mk.inj (Except.ok.inj h)
    exact heq
  · cases h

theorem except_map_eq_ok {ε α β : Type} {f : α → β} {x : Except ε α} {b : β}
    (h : x.map f = .ok b) : ∃ a, x = .ok a ∧ f a = b := by
  cases x with
  | error e => cases h
  | ok a => exact ⟨a, rfl, Except.ok.inj h⟩

theorem insert_of_change {table : String} {values : List (String × SqlValue)}
    (h : JournalTx.change (fun db => (db.insert table values .abort true).map
      fun (db', _) => (db', ())) db = .ok ((), db')) :
    ∃ w, db.insert table values .abort true = .ok (db', w) := by
  obtain ⟨⟨d, w⟩, hins, hd⟩ := except_map_eq_ok (change_eq_ok h)
  simp only [Prod.mk.injEq, and_true] at hd
  exact ⟨w, hd ▸ hins⟩

theorem Table.get_eq_schema_get (t : Table) (row : Row) (col : String) :
    t.get row col = t.schema.get row col := rfl

theorem Numbered.map {α : Type} {l : List (Nat × α)} {next : Nat} (h : Numbered l next)
    (f : Nat × α → Nat × α) (hf : ∀ p, (f p).1 = p.1) : Numbered (l.map f) next :=
  ⟨List.pairwise_map.2 (h.1.imp fun hab => by rwa [hf, hf]), fun q hq => by
    obtain ⟨p, hp, rfl⟩ := List.mem_map.1 hq
    rw [hf]; exact h.2 p hp⟩

/-- A database with the same triggers, trades table and executions table holds the same
journal. -/
theorem Holds.of_tables (hJ : J.Holds db) (htr : db'.triggers = db.triggers)
    (ht : db'.table? "trades" = db.table? "trades")
    (he : db'.table? "executions" = db.table? "executions") : J.Holds db' :=
  ⟨htr.trans hJ.triggers, ht ▸ hJ.trades, he ▸ hJ.executions, hJ.storable, hJ.stamped⟩

/-- A write to another table keeps the journal. -/
theorem Holds.insert_other (hJ : J.Holds db) {table : String} {values : List (String × SqlValue)}
    {mode : ConflictMode} {fk w : Bool} (h : db.insert table values mode fk = .ok (db', w))
    (ht : sameName table "trades" = false) (he : sameName table "executions" = false) :
    J.Holds db' :=
  hJ.of_tables (Database.insert_triggers h) (Database.insert_table?_of_ne h ht)
    (Database.insert_table?_of_ne h he)

theorem no_hit_of_clashes_nil {t : Table} {row : Row} {rows : List (Nat × Row)}
    {key : List String} (hcl : Database.clashes t row rows = []) (hk : key ∈ t.schema.uniqueKeys)
    (hnn : (key.map (t.get row)).any (· == .null) = false) :
    ∀ e ∈ rows, ((key.zip (key.map (t.get row))).all fun kv =>
      SqlValue.sqlEq (t.get e.2 kv.1) kv.2) = false := by
  intro e he
  unfold Database.clashes at hcl
  have hnone := List.filterMap_eq_nil_iff.1 hcl key hk
  simp only [hnn, Bool.false_eq_true, if_false, ite_eq_left_iff, reduceCtorEq, imp_false,
    not_not, List.isEmpty_iff] at hnone
  have := List.filter_eq_nil_iff.1 hnone e he
  simpa using this

/-- A trade whose row raised no clash on the trades table's key has an identifier no stored
trade has. -/
theorem id_fresh_of_clashes {n : Nat} {t : Trade}
    (hcl : Database.clashes (J.tradeTable n) t.cells (J.tradeTable n).rows = []) :
    ∀ p ∈ J.trades, p.2.id ≠ t.id := by
  intro p hp hid
  have hkey := (Trade.get_cells (rfl : (J.tradeTable n).schema = _) t).1
  have hrow := (Trade.get_cells (rfl : (J.tradeTable n).schema = _) p.2).1
  have hmiss := @no_hit_of_clashes_nil _ _ _ ["id"] hcl (by simp [tradeTable, tradesTable])
    (by simp [hkey]) (p.1, p.2.cells) (List.mem_map_of_mem hp)
  simp [hkey, hrow, hid, SqlValue.sqlEq_text] at hmiss

/-- Inserting a trade appends it: its identifier was not stored before. -/
theorem insertTrade_holds (hJ : J.Holds db) {t : Trade} (ht : t.Storable)
    (h : JournalTx.insertTrade t db = .ok ((), db')) :
    (∀ p ∈ J.trades, p.2.id ≠ t.id) ∧ ∃ n, Holds ⟨J.trades ++ [(n, t)], J.executions⟩ db' := by
  obtain ⟨w, hins⟩ := insert_of_change h
  obtain ⟨tbl, rowid, row, hT, hnew, -, hcl, -, rfl⟩ := Database.insert_abort_eq_ok hJ.triggers hins
  obtain ⟨n, hT', hnum⟩ := hJ.trades
  obtain rfl : tbl = J.tradeTable n := Option.some.inj (hT.symm.trans hT')
  rw [Trade.newRow_toRow rfl t] at hnew
  obtain ⟨rfl, rfl⟩ := Prod.mk.inj (Except.ok.inj hnew)
  refine ⟨id_fresh_of_clashes hcl, n, hJ.triggers, ⟨max n (n + 1), ?_, hnum.append t⟩, ?_, ?_,
    hJ.stamped⟩
  · have hname : ((J.tradeTable n).withRow (J.tradeTable n).nextRowid t.cells).schema.name =
        "trades" := rfl
    rw [Database.table?_putTable, hname, if_pos (sameName_refl _), hT']
    simp [Table.withRow, tradeTable]
  · rw [Database.table?_putTable, if_neg (by simp [Table.withRow, tradeTable, tradesTable,
      sameName_trades_executions])]
    exact hJ.executions
  · intro p hp
    rcases List.mem_append.1 hp with hp | hp
    · exact hJ.storable p hp
    · rw [List.mem_singleton.1 hp]; exact ht

/-- Inserting an execution appends it. -/
theorem insertExecution_holds (hJ : J.Holds db) {e : Execution} (he : e.executedAt.Stamp)
    (h : JournalTx.insertExecution e db = .ok ((), db')) :
    ∃ n, Holds ⟨J.trades, J.executions ++ [(n, e)]⟩ db' := by
  obtain ⟨w, hins⟩ := insert_of_change h
  obtain ⟨tbl, rowid, row, hT, hnew, -, -, -, rfl⟩ := Database.insert_abort_eq_ok hJ.triggers hins
  obtain ⟨n, hT', hnum⟩ := hJ.executions
  obtain rfl : tbl = J.executionTable n := Option.some.inj (hT.symm.trans hT')
  rw [Execution.newRow_toRow rfl e] at hnew
  obtain ⟨rfl, rfl⟩ := Prod.mk.inj (Except.ok.inj hnew)
  refine ⟨n, hJ.triggers, ?_, ⟨max n (n + 1), ?_, hnum.append e⟩, hJ.storable, ?_⟩
  · rw [Database.table?_putTable, if_neg (by simp [Table.withRow, executionTable, executionsTable,
      sameName_executions_trades])]
    exact hJ.trades
  · have hname : ((J.executionTable n).withRow (J.executionTable n).nextRowid
        (.integer (J.executionTable n).nextRowid :: e.cells)).schema.name = "executions" := rfl
    rw [Database.table?_putTable, hname, if_pos (sameName_refl _), hT']
    simp [Table.withRow, executionTable]
  · intro p hp
    rcases List.mem_append.1 hp with hp | hp
    · exact hJ.stamped p hp
    · rw [List.mem_singleton.1 hp]; exact he

theorem updated_markTrade (n : Nat) (id : Uuid) (r : TerminalRecord) (p : Nat × Trade) :
    (J.tradeTable n).updated r.cells (fun row => SqlValue.sqlEq (tradesTable.get row "id")
      (.text id.toText) && tradesTable.get row "terminal_marker" == .null) (p.1, p.2.cells) =
      ((markTrade id r p).1, (markTrade id r p).2.cells) := by
  have hget := Trade.get_cells (rfl : (J.tradeTable n).schema = _) p.2
  obtain ⟨hid, -, -, -, hmark⟩ := hget
  have hschema : (J.tradeTable n).schema = tradesTable := rfl
  rw [Table.get_eq_schema_get, hschema] at hid hmark
  unfold Table.updated markTrade
  simp only [hid, hmark, SqlValue.sqlEq_text, Uuid.toText_inj]
  cases hterm : p.2.terminal with
  | none =>
    by_cases hpid : p.2.id = id
    · simp [hpid, tradeTable, Trade.assignedRow_cells]
    · simp [hpid]
  | some r' => simp

/-- Setting a marker marks the trade with that identifier, if it had none. -/
theorem setTerminalMarker_holds (hJ : J.Holds db) {id : Uuid} {r : TerminalRecord}
    (hr : r.markedAt.Stamp) (h : JournalTx.setTerminalMarker id r db = .ok ((), db')) :
    Holds ⟨J.trades.map (markTrade id r), J.executions⟩ db' := by
  unfold JournalTx.setTerminalMarker at h
  obtain ⟨changed, db₁, hch, h⟩ := JournalTx.bind_eq_ok.1 h
  split_ifs at h with h0
  · obtain ⟨_, _, -, hf⟩ := JournalTx.bind_eq_ok.1 h
    exact absurd hf JournalTx.fail_ne_ok
  obtain ⟨-, rfl⟩ := JournalTx.pure_eq_ok.1 h
  obtain ⟨⟨db₂, count⟩, hu, hq⟩ := except_map_eq_ok (change_eq_ok hch)
  simp only [Prod.mk.injEq] at hq
  obtain ⟨rfl, rfl⟩ := hq
  obtain ⟨tbl, hT, rfl⟩ := Database.update_eq_ok_rows hJ.triggers hu
  obtain ⟨n, hT', hnum⟩ := hJ.trades
  obtain rfl : tbl = J.tradeTable n := Option.some.inj (hT.symm.trans hT')
  have hname : { J.tradeTable n with rows := [] }.schema.name = "trades" := rfl
  refine ⟨hJ.triggers, ⟨n, ?_, Numbered.map hnum _ fun p => ?_⟩, ?_, ?_, hJ.stamped⟩
  · rw [Database.table?_putTable, hname, if_pos (sameName_refl _), hT', Option.map_some]
    simp only [tradeTable, List.map_map, Function.comp_def, Option.some.injEq, Table.mk.injEq,
      true_and, and_true]
    exact List.map_congr_left fun p _ => updated_markTrade n id r p
  · unfold markTrade; split_ifs <;> rfl
  · rw [Database.table?_putTable, hname, if_neg (by rw [sameName_trades_executions]; simp)]
    exact hJ.executions
  · intro q hq
    obtain ⟨p, hp, rfl⟩ := List.mem_map.1 hq
    have hs := hJ.storable p hp
    unfold markTrade
    split_ifs
    · exact ⟨hs.createdAt, hs.leverage, fun r' hr' => by
        obtain rfl := Option.mem_some_iff.1 hr'
        exact hr⟩
    · exact hs

end Writes

theorem createTable_triggers (db : Database) (d : TableDef) :
    (db.createTable d).triggers = db.triggers := by
  unfold Database.createTable
  split <;> rfl

theorem holds_fresh : (⟨[], []⟩ : JournalRows).Holds Store.fresh.db := by
  refine ⟨?_, ⟨1, ?_, by simp [Numbered]⟩, ⟨1, ?_, by simp [Numbered]⟩, by simp, by simp⟩
  · simp [Store.fresh, Database.initializeSchema, journalSchema, createTable_triggers,
      Database.empty]
  all_goals simp +decide [Store.fresh, Database.initializeSchema, journalSchema,
    Database.createTable, Database.table?, sameName_eq, Database.empty, accountsTable,
    candlesTable, indicatorsTable, tradesTable, executionsTable, ruleResultsTable, Table.empty,
    tradeTable, executionTable]

end JournalRows

end ForexJournal
