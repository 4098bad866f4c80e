import Mathlib
import ForexJournal.Proofs.ReadBack
import ForexJournal.Proofs.StampOrder

/-!
# The stores the journal reaches

A store is reachable when some sequence of committed calls leads to it from a fresh store
(`Store.Reachable`). A call (`Store.Step`) is one of the journal's four writes, with any
arguments and under any port, one of the three writes of market data, or another connection
taking or releasing the write lock. Calls from several clients run one transaction at a time,
so any interleaving of them is such a sequence; a call that fails or is retried until it gives
up leaves its caller's store as it was, and adds nothing. Instants that come from the clock or
from parsed text are ones the store can write back, so the calls that stamp a row take
representable instants.

Every reachable store holds a journal (`JournalRows.Holds`), and what a committed call does to
it is one of three row changes: a trade appended by `planWork`, a fill appended by
`appendExecution`, or a marker set by `markWork`; every other call leaves the journal's rows
alone. `Store.Reachable.rows_invariant` turns an invariant of the rows that these three changes
keep into an invariant of every reachable store.
-/

namespace ForexJournal

section Reads

open Codec

theorem Codec.natBelow32_lt {r : Selected} {idx n : Nat} (h : natBelow32 r idx = .ok n) :
    n < 4294967296 := by
  unfold natBelow32 at h
  split at h
  · split_ifs at h with hn
    cases h
    omega
  · cases h

theorem Account.ofRow_eq_ok {r : Selected} {a : Account} (h : Account.ofRow r = .ok a) :
    uuid r 0 = .ok a.id ∧ a.leverage < 4294967296 := by
  simp only [Account.ofRow, bind, Except.bind, pure, Except.pure] at h
  split at h <;> try cases h
  rename_i u hu
  split at h <;> try cases h
  split at h <;> try cases h
  split at h <;> try cases h
  rename_i n hn
  split at h <;> try cases h
  split at h <;> try cases h
  split at h <;> cases h
  exact ⟨hu, natBelow32_lt hn⟩

theorem SqlValue.eq_of_sqlEq_text {v : SqlValue} {s : String}
    (h : SqlValue.sqlEq v (.text s) = true) : v = .text s := by
  cases v with
  | text x =>
    rw [SqlValue.sqlEq_text, decide_eq_true_eq] at h
    rw [h]
  | _ => simp [SqlValue.sqlEq, SqlValue.compare, SqlValue.rank] at h

theorem Rows.decodeFirst_selectOrdered {α : Type} {db : Database} {table : String}
    {cols : List String} {pred : Table → Row → Bool} {before : Table → Row → Row → Bool}
    {decode : Selected → Except String α} {sel : List Selected} {a : α}
    (hsel : Rows.selectOrdered db table cols pred before = .ok sel)
    (h : Rows.decodeFirst decode sel = .ok (some a)) :
    ∃ t row, db.table? table = some t ∧ pred t row = true ∧
      decode (Rows.project t cols row) = .ok a := by
  obtain ⟨t, ht, rfl⟩ := Rows.selectOrdered_eq_ok.1 hsel
  set L := ((t.rows.mergeSort fun a b => a.1 ≤ b.1).map (·.2)).filter (pred t)
  cases hM : L.mergeSort (before t) with
  | nil => simp [hM, Rows.decodeFirst] at h
  | cons row rest =>
    have hsorted : row ∈ L.mergeSort (before t) := by
      rw [hM]
      exact List.mem_cons_self
    have hmem : row ∈ L := List.mem_mergeSort.1 hsorted
    refine ⟨t, row, ht, (List.mem_filter.1 hmem).2, ?_⟩
    simp only [hM, List.map_cons, Rows.decodeFirst] at h
    cases hd : decode (Rows.project t cols row) with
    | error e => simp [hd, Rows.lift, Except.map] at h
    | ok a' => simp_all [Rows.lift, Except.map]

/-- Loading an account finds one with the identifier asked for, and a leverage that fits the
32-bit column. -/
theorem JournalTx.loadAccount_eq_ok {id : Uuid} {db db' : Database} {a : Account}
    (h : JournalTx.loadAccount id db = .ok (a, db')) :
    a.id = id ∧ a.leverage < 4294967296 ∧ db' = db := by
  unfold JournalTx.loadAccount at h
  obtain ⟨hf, hdb⟩ := JournalTx.read_eq_ok.1 h
  simp only [bind, Except.bind] at hf
  split at hf
  · cases hf
  rename_i sel hsel
  split at hf
  · cases hf
  rename_i found hfound
  cases found with
  | none => cases hf
  | some a' =>
    cases hf
    obtain ⟨t, row, -, hpick, hdec⟩ := Rows.decodeFirst_selectOrdered hsel hfound
    obtain ⟨hid, hlev⟩ := Account.ofRow_eq_ok hdec
    have hcell : (Rows.project t accountColumns row).values[0]? = some (.text id.toText) := by
      simp [Rows.project, accountColumns, SqlValue.eq_of_sqlEq_text hpick]
    exact ⟨(Except.ok.inj ((uuid_of_at hcell).symm.trans hid)).symm, hlev, hdb⟩

end Reads

/-- A planned trade belongs to the account and the candle it was planned on, has the plan's
bias, no marker, the planning instant and the account's figures. -/
theorem planTrade_eq_ok {account : Account} {plan : TradePlan} {id : Uuid} {now : Instant}
    {t : Trade} (h : planTrade account plan id now = .ok t) :
    t.accountId = account.id ∧ t.candleId = plan.candleId ∧ t.bias = plan.bias ∧
      t.terminal = none ∧ t.createdAt = now ∧ t.setup = account.snapshot := by
  unfold planTrade at h
  simp only [bind, Except.bind, pure, Except.pure, throw, throwThe, MonadExceptOf.throw] at h
  repeat' (split at h <;> try cases h)
  exact ⟨rfl, rfl, rfl, rfl, rfl, rfl⟩

theorem Instant.stamp_truncMicros {t : Instant} (ht : t.Representable) : t.truncMicros.Stamp :=
  ⟨ht.truncMicros, by rw [Instant.truncMicros_nanos]; omega⟩

/-- One committed call, from the store before it to the store after it (see the module
note). -/
inductive Store.Step : Store → Store → Prop where
  | createAccount {s s' : Store} {port : Nat → AttemptFault} {settings : JournalSettings}
      {a : NewAccount} {id : Uuid} {now : Instant} {account : Account} :
      now.Representable →
      Journal.createAccountUnder port s settings a id now = .ok (account, s') → Store.Step s s'
  | createTrade {s s' : Store} {port : Nat → AttemptFault} {settings : JournalSettings}
      {plan : TradePlan} {id : Uuid} {now : Instant} {t : Trade} :
      now.Representable →
      Journal.createTradeUnder port s settings plan id now = .ok (t, s') → Store.Step s s'
  | recordExecution {s s' : Store} {port : Nat → AttemptFault} {settings : JournalSettings}
      {r : ExecutionRequest} {id : Uuid} {e : Execution} :
      r.executedAt.Representable →
      Journal.recordExecutionUnder port s settings r id = .ok (e, s') → Store.Step s s'
  | setTerminalMarker {s s' : Store} {port : Nat → AttemptFault} {settings : JournalSettings}
      {tradeId : Uuid} {marker : TerminalMarker} {reason : String} {now : Instant} {t : Trade} :
      now.Representable →
      Journal.setTerminalMarkerUnder port s settings tradeId marker reason now = .ok (t, s') →
      Store.Step s s'
  | insertCandle {s s' : Store} {c : Candle} {written : Bool} :
      s.insertCandle c = .ok (written, s') → Store.Step s s'
  | saveIndicators {s s' : Store} {i : Indicators} :
      s.saveIndicators i = .ok s' → Store.Step s s'
  | insertRuleResult {s s' : Store} {candle : Uuid} {r : RuleResult} {now : Instant}
      {written : Bool} :
      s.insertRuleResult candle r now = .ok (written, s') → Store.Step s s'
  | lock (s : Store) (locked : Bool) : Store.Step s { s with writeLocked := locked }

/-- The stores reachable from a fresh one by committed calls. -/
def Store.Reachable (s : Store) : Prop := Relation.ReflTransGen Store.Step Store.fresh s

namespace JournalRows

variable {J : JournalRows} {s s' : Store} {port : Nat → AttemptFault} {settings : JournalSettings}

theorem Holds.of_createAccount (hJ : J.Holds s.db) {a : NewAccount} {id : Uuid} {now : Instant}
    {account : Account} (h : Journal.createAccountUnder port s settings a id now = .ok (account, s')) :
    J.Holds s'.db := by
  simp only [Journal.createAccountUnder, except_bind_eq_ok] at h
  obtain ⟨account', -, ⟨⟨⟩, s''⟩, hrun, he⟩ := h
  obtain ⟨rfl, rfl⟩ := Prod.mk.inj (Except.ok.inj he)
  obtain ⟨db', hw, rfl⟩ := Journal.runAttempts_eq_ok port s settings _ hrun
  obtain ⟨w, hins⟩ := insert_of_change hw
  exact hJ.insert_other hins (by rw [sameName_eq]; decide) (by rw [sameName_eq]; decide)

theorem Holds.of_write (hJ : J.Holds s.db) {table : String}
    {values : List (String × SqlValue)} {mode : ConflictMode} {written : Bool}
    (h : s.write (fun db => db.insert table values mode true) = .ok (written, s'))
    (ht : sameName table "trades" = false) (he : sameName table "executions" = false) :
    J.Holds s'.db := by
  obtain ⟨db', hins, rfl⟩ := Store.write_eq_ok h
  exact hJ.insert_other hins ht he

theorem Holds.of_createTrade (hJ : J.Holds s.db) {plan : TradePlan} {id : Uuid} {now : Instant}
    {t : Trade} (hnow : now.Representable)
    (h : Journal.createTradeUnder port s settings plan id now = .ok (t, s')) :
    Journal.planWork plan id now.truncMicros s.db = .ok (t, s'.db) ∧
      (∀ p ∈ J.trades, p.2.id ≠ t.id) ∧ ∃ n, Holds ⟨J.trades ++ [(n, t)], J.executions⟩ s'.db := by
  obtain ⟨db', hw, rfl⟩ := Journal.runAttempts_eq_ok port s settings _ h
  obtain ⟨account, -, hacc, -, -, -, hplan, hins⟩ := Journal.planWork_eq_ok hw
  obtain ⟨-, hlev, -⟩ := JournalTx.loadAccount_eq_ok hacc
  obtain ⟨-, -, -, hterm, hat, hsetup⟩ := planTrade_eq_ok hplan
  have ht : t.Storable :=
    ⟨hat ▸ Instant.stamp_truncMicros hnow, by rw [hsetup]; exact hlev,
      fun r hr => by rw [hterm] at hr; cases hr⟩
  exact ⟨hw, insertTrade_holds hJ ht hins⟩

theorem Holds.of_recordExecution (hJ : J.Holds s.db) {r : ExecutionRequest} {id : Uuid}
    {e : Execution} (hat : r.executedAt.Representable)
    (h : Journal.recordExecutionUnder port s settings r id = .ok (e, s')) :
    Journal.appendExecution settings.maxEntrySlippagePips r id s.db = .ok (e, s'.db) ∧
      ∃ n, Holds ⟨J.trades, J.executions ++ [(n, e)]⟩ s'.db := by
  obtain ⟨db', hw, rfl⟩ := Journal.runAttempts_eq_ok port s settings _ h
  obtain ⟨trade, history, -, -, hfill, hins⟩ := Journal.appendExecution_eq_ok hw
  obtain ⟨_, _, -, -, -, -, -, -, -, -, -, -, he⟩ := Journal.checkFill_eq_ok hfill
  have hstamp : e.executedAt.Stamp := by
    rw [he]
    exact Instant.stamp_truncMicros hat
  exact ⟨hw, insertExecution_holds hJ hstamp hins⟩

theorem Holds.of_setTerminalMarker (hJ : J.Holds s.db) {tradeId : Uuid}
    {marker : TerminalMarker} {reason : String} {now : Instant} {t : Trade}
    (hnow : now.Representable)
    (h : Journal.setTerminalMarkerUnder port s settings tradeId marker reason now = .ok (t, s')) :
    ∃ record, Journal.markWork tradeId record s.db = .ok (t, s'.db) ∧
      Holds ⟨J.trades.map (markTrade tradeId record), J.executions⟩ s'.db := by
  unfold Journal.setTerminalMarkerUnder at h
  dsimp only at h
  split_ifs at h
  obtain ⟨db', hw, rfl⟩ := Journal.runAttempts_eq_ok port s settings _ h
  obtain ⟨-, -, -, -, -, -, hset, -⟩ := Journal.markWork_eq_ok hw
  exact ⟨_, hw, setTerminalMarker_holds hJ (Instant.stamp_truncMicros hnow) hset⟩

end JournalRows

/-- What one committed call does to the journal's rows: a relation between the rows before and
after a call, that holds when the call leaves the rows alone and across each of the three row
changes, holds between the rows before the call and some rows the store after it holds. A new
trade comes with an identifier no stored trade has. -/
theorem Store.Step.rows (R : JournalRows → JournalRows → Prop) (hsame : ∀ J, R J J)
    (htrade : ∀ (J : JournalRows) (db db' : Database) (plan : TradePlan) (id : Uuid)
      (now : Instant) (t : Trade) (n : Nat), J.Holds db →
      Journal.planWork plan id now db = .ok (t, db') → (∀ p ∈ J.trades, p.2.id ≠ t.id) →
      R J ⟨J.trades ++ [(n, t)], J.executions⟩)
    (hfill : ∀ (J : JournalRows) (db db' : Database) (slip : Decimal) (r : ExecutionRequest)
      (id : Uuid) (e : Execution) (n : Nat), J.Holds db →
      Journal.appendExecution slip r id db = .ok (e, db') →
      R J ⟨J.trades, J.executions ++ [(n, e)]⟩)
    (hmark : ∀ (J : JournalRows) (db db' : Database) (tradeId : Uuid) (record : TerminalRecord)
      (t : Trade), J.Holds db → Journal.markWork tradeId record db = .ok (t, db') →
      R J ⟨J.trades.map (JournalRows.markTrade tradeId record), J.executions⟩)
    {s s' : Store} (h : s.Step s') {J : JournalRows} (hJ : J.Holds s.db) :
    ∃ J' : JournalRows, J'.Holds s'.db ∧ R J J' := by
  cases h with
  | createAccount _ h => exact ⟨J, hJ.of_createAccount h, hsame J⟩
  | createTrade hnow h =>
    obtain ⟨hw, hfresh, n, hJ'⟩ := hJ.of_createTrade hnow h
    exact ⟨_, hJ', htrade J _ _ _ _ _ _ n hJ hw hfresh⟩
  | recordExecution hat h =>
    obtain ⟨hw, n, hJ'⟩ := hJ.of_recordExecution hat h
    exact ⟨_, hJ', hfill J _ _ _ _ _ _ n hJ hw⟩
  | setTerminalMarker hnow h =>
    obtain ⟨record, hw, hJ'⟩ := hJ.of_setTerminalMarker hnow h
    exact ⟨_, hJ', hmark J _ _ _ _ _ hJ hw⟩
  | insertCandle h =>
    exact ⟨J, hJ.of_write h (by rw [sameName_eq]; decide) (by rw [sameName_eq]; decide),
      hsame J⟩
  | saveIndicators h =>
    obtain ⟨⟨a, s''⟩, hw, rfl⟩ := JournalRows.except_map_eq_ok h
    exact ⟨J, hJ.of_write hw (by rw [sameName_eq]; decide) (by rw [sameName_eq]; decide),
      hsame J⟩
  | insertRuleResult h =>
    exact ⟨J, hJ.of_write h (by rw [sameName_eq]; decide) (by rw [sameName_eq]; decide),
      hsame J⟩
  | lock => exact ⟨J, hJ, hsame J⟩

namespace Store.Reachable

theorem fresh : Store.fresh.Reachable := Relation.ReflTransGen.refl

theorem step {s s' : Store} (hs : s.Reachable) (h : s.Step s') : s'.Reachable :=
  Relation.ReflTransGen.tail hs h

/-- An invariant of the journal's rows that holds of the empty journal and that the three row
changes keep (given the rows the store held before the call) holds of some journal each
reachable store holds. -/
theorem rows_invariant (P : JournalRows → Prop) (hfresh : P ⟨[], []⟩)
    (htrade : ∀ (J : JournalRows) (db db' : Database) (plan : TradePlan) (id : Uuid)
      (now : Instant) (t : Trade) (n : Nat), J.Holds db → P J →
      Journal.planWork plan id now db = .ok (t, db') → (∀ p ∈ J.trades, p.2.id ≠ t.id) →
      P ⟨J.trades ++ [(n, t)], J.executions⟩)
    (hfill : ∀ (J : JournalRows) (db db' : Database) (slip : Decimal) (r : ExecutionRequest)
      (id : Uuid) (e : Execution) (n : Nat), J.Holds db → P J →
      Journal.appendExecution slip r id db = .ok (e, db') →
      P ⟨J.trades, J.executions ++ [(n, e)]⟩)
    (hmark : ∀ (J : JournalRows) (db db' : Database) (tradeId : Uuid) (record : TerminalRecord)
      (t : Trade), J.Holds db → P J → Journal.markWork tradeId record db = .ok (t, db') →
      P ⟨J.trades.map (JournalRows.markTrade tradeId record), J.executions⟩)
    {s : Store} (hs : s.Reachable) : ∃ J : JournalRows, J.Holds s.db ∧ P J := by
  induction hs with
  | refl => exact ⟨_, JournalRows.holds_fresh, hfresh⟩
  | tail _ hstep ih =>
    obtain ⟨J, hJ, hP⟩ := ih
    obtain ⟨J', hJ', hPP⟩ := hstep.rows (fun J J' => P J → P J') (fun _ => id)
      (fun J _ _ _ _ _ _ n hJ hw hfresh hP => htrade J _ _ _ _ _ _ n hJ hP hw hfresh)
      (fun J _ _ _ _ _ _ n hJ hw hP => hfill J _ _ _ _ _ _ n hJ hP hw)
      (fun J _ _ _ _ _ hJ hw hP => hmark J _ _ _ _ _ hJ hP hw) hJ
    exact ⟨J', hJ', hPP hP⟩

end Store.Reachable

/-! ## The first trade of a fresh journal

A sample run through the program's own calls, each committed at its first attempt: the sample
account is opened, the sample candle stored, a plan on it sized into `plannedTrade` and the
trade's entry filled. `accountStore`, `candleStore`, `tradeStore` and `filledStore` are the
stores after each call, each the one before with one table holding the new row.
-/

section FirstTrade

/-- The figures of `sampleAccount` as a trader enters them. -/
def sampleNewAccount : NewAccount :=
  ⟨"main", Decimal.ofMantissa 10000 0, 100, Decimal.ofMantissa 1 0, "UTC"⟩

/-- A long plan on `sampleCandle`: entry 1.1, stop 1.095 (50 pips), target 1.2, risking 1%. -/
def samplePlan : TradePlan :=
  ⟨Uuid.ofNat 1, Uuid.ofNat 2, .long, Decimal.ofMantissa 11 1, Decimal.ofMantissa 1095 3,
    Decimal.ofMantissa 12 1, Decimal.ofMantissa 1 0, "trend"⟩

/-- The trade the plan gives: 100 at risk, 0.2 lots, a reward twenty times the risk. -/
def plannedTrade : Trade :=
  ⟨Uuid.ofNat 3, Uuid.ofNat 1, Uuid.ofNat 2, "EURUSD", .weekly, .long, sampleAccount.snapshot,
    Decimal.ofMantissa 11 1, Decimal.ofMantissa 1095 3, Decimal.ofMantissa 12 1,
    Decimal.ofMantissa 20 0, Decimal.ofMantissa 1 0, Decimal.ofMantissa 100 0,
    Decimal.ofMantissa 20 2, "trend", Instant.epoch.addSeconds 1704067200, none⟩

/-- The entry of the planned trade at the planned price and size, an hour after planning. -/
def sampleEntry : ExecutionRequest :=
  ⟨Uuid.ofNat 3, .entry, Decimal.ofMantissa 11 1, Decimal.ofMantissa 20 2,
    Instant.epoch.addSeconds 1704070800, none⟩

def entryExecution : Execution :=
  ⟨Uuid.ofNat 4, Uuid.ofNat 3, .entry, Decimal.ofMantissa 11 1, Decimal.ofMantissa 20 2, none,
    none, Instant.epoch.addSeconds 1704070800, none⟩

def accountStore : Store :=
  ⟨Store.fresh.db.putTable ⟨accountsTable, [(1, accountsTable.givenRow sampleAccount.toRow)], 2⟩,
    false⟩

def candleStore : Store :=
  ⟨accountStore.db.putTable ⟨candlesTable, [(1, sampleCandle.cells)], 2⟩, false⟩

def tradeStore : Store :=
  ⟨candleStore.db.putTable ⟨tradesTable, [(1, plannedTrade.cells)], 2⟩, false⟩

def filledStore : Store :=
  ⟨tradeStore.db.putTable ⟨executionsTable, [(1, .integer 1 :: entryExecution.cells)], 2⟩,
    false⟩

theorem planningInstant_representable : (Instant.epoch.addSeconds 1704067200).Representable := by
  unfold Instant.Representable
  decide

theorem sampleEntry_representable : sampleEntry.executedAt.Representable := by
  unfold Instant.Representable
  decide

theorem createAccount_first :
    Journal.createAccount Store.fresh .default sampleNewAccount (Uuid.ofNat 1)
      (Instant.epoch.addSeconds 1704067200) = .ok (sampleAccount, accountStore) := by
  have hins : Store.fresh.db.insert "accounts" sampleAccount.toRow .abort true =
      .ok (accountStore.db, true) :=
    Database.insert_eq_ok_of_empty JournalRows.holds_fresh.triggers
      (Store.fresh_table? accountsTable (by simp [journalSchema]))
      (Table.newRow_of_names rfl rfl) (by decide +kernel) (fun _ => by decide +kernel)
  have hacc : sampleNewAccount.toAccount (Uuid.ofNat 1)
      (Instant.epoch.addSeconds 1704067200).truncMicros = .ok sampleAccount := by
    decide +kernel
  have hrun : (Journal.runAttempts (Journal.storePort Store.fresh .default) Store.fresh .default
      (JournalTx.insertAccount sampleAccount)).1 = .ok ((), accountStore) :=
    Journal.runAttempts_of_ok _ _ _ _ rfl (JournalTx.change_insert_eq_ok hins)
  rw [Journal.createAccount, Journal.createAccountUnder, hacc, ok_bind, hrun]
  rfl

theorem insertCandle_first : accountStore.insertCandle sampleCandle = .ok (true, candleStore) := by
  have hC : accountStore.db.table? "candles" = some (Table.empty candlesTable) := by
    rw [accountStore, Database.table?_putTable_of_ne (by decide +kernel)]
    exact Store.fresh_table? candlesTable (by simp [journalSchema])
  exact Store.write_of_eq_ok rfl (Database.insert_eq_ok_of_empty
    JournalRows.holds_fresh.triggers hC (Candle.newRow_toRow rfl sampleCandle)
    (by decide +kernel) (fun _ => by decide +kernel))

theorem candleStore_trades : candleStore.db.table? "trades" = some (Table.empty tradesTable) := by
  rw [candleStore, Database.table?_putTable_of_ne (by decide +kernel), accountStore,
    Database.table?_putTable_of_ne (by decide +kernel)]
  exact Store.fresh_table? tradesTable (by simp [journalSchema])

theorem insertTrade_first :
    JournalTx.insertTrade plannedTrade candleStore.db = .ok ((), tradeStore.db) :=
  JournalTx.change_insert_eq_ok (Database.insert_eq_ok_of_empty
    JournalRows.holds_fresh.triggers candleStore_trades (Trade.newRow_toRow rfl plannedTrade)
    (by decide +kernel) (fun _ => by decide +kernel))

theorem createTrade_first :
    Journal.createTrade candleStore .default samplePlan (Uuid.ofNat 3)
      (Instant.epoch.addSeconds 1704067200) = .ok (plannedTrade, tradeStore) := by
  have hacc : JournalTx.loadAccount (Uuid.ofNat 1) candleStore.db =
      .ok (sampleAccount, candleStore.db) :=
    JournalTx.read_eq_ok.2 ⟨by decide +kernel, rfl⟩
  have hc : JournalTx.candleExists (Uuid.ofNat 2) candleStore.db = .ok (true, candleStore.db) :=
    JournalTx.read_eq_ok.2 ⟨by decide +kernel, rfl⟩
  have htr : JournalTx.tradesForAccountCandle (Uuid.ofNat 1) (Uuid.ofNat 2) candleStore.db =
      .ok ([], candleStore.db) :=
    JournalTx.read_eq_ok.2 ⟨by decide +kernel, rfl⟩
  have hplan : planTrade sampleAccount samplePlan (Uuid.ofNat 3)
      (Instant.epoch.addSeconds 1704067200).truncMicros = .ok plannedTrade := by
    decide +kernel
  rw [Journal.createTrade, Journal.createTradeUnder]
  exact Journal.runAttempts_of_ok _ _ _ _ rfl
    (Journal.planWork_of_ok hacc hc htr rfl hplan insertTrade_first)

theorem recordExecution_first :
    Journal.recordExecution tradeStore .default sampleEntry (Uuid.ofNat 4) =
      .ok (entryExecution, filledStore) := by
  have htr : candleStore.db.triggers = [] := JournalRows.holds_fresh.triggers
  have hstamp : (Instant.epoch.addSeconds 1704067200).Stamp :=
    ⟨planningInstant_representable, by decide⟩
  have htrade : JournalTx.loadTrade plannedTrade.id tradeStore.db =
      .ok (plannedTrade.stored, tradeStore.db) :=
    loadTrade_insertTrade htr (by rw [candleStore_trades]; rfl)
      ⟨hstamp, by decide, by simp [plannedTrade]⟩
      insertTrade_first
  have hhist : JournalTx.loadExecutions plannedTrade.stored.id tradeStore.db =
      .ok ([], tradeStore.db) :=
    JournalTx.read_eq_ok.2 ⟨by decide +kernel, rfl⟩
  have hfill : Journal.checkFill JournalSettings.default.maxEntrySlippagePips sampleEntry
      (Uuid.ofNat 4) plannedTrade.stored [] = .ok entryExecution := by
    decide +kernel
  have hE : tradeStore.db.table? "executions" = some (Table.empty executionsTable) := by
    rw [tradeStore, Database.table?_putTable_of_ne (by decide +kernel), candleStore,
      Database.table?_putTable_of_ne (by decide +kernel), accountStore,
      Database.table?_putTable_of_ne (by decide +kernel)]
    exact Store.fresh_table? executionsTable (by simp [journalSchema])
  have hins : JournalTx.insertExecution entryExecution tradeStore.db =
      .ok ((), filledStore.db) :=
    JournalTx.change_insert_eq_ok (Database.insert_eq_ok_of_empty
      JournalRows.holds_fresh.triggers hE (Execution.newRow_toRow rfl entryExecution)
      (by decide +kernel) (fun _ => by decide +kernel))
  rw [Journal.recordExecution, Journal.recordExecutionUnder]
  exact Journal.runAttempts_of_ok _ _ _ _ rfl
    (Journal.appendExecution_of_ok htrade hhist hfill hins)

theorem filledStore_reachable : filledStore.Reachable :=
  (((Store.Reachable.fresh.step (.createAccount planningInstant_representable
    createAccount_first)).step (.insertCandle insertCandle_first)).step
    (.createTrade planningInstant_representable createTrade_first)).step
    (.recordExecution sampleEntry_representable recordExecution_first)

theorem filledStore_rows :
    ∃ n m, JournalRows.Holds ⟨[(n, plannedTrade)], [(m, entryExecution)]⟩ filledStore.db := by
  have hcandle := (JournalRows.holds_fresh.of_createAccount createAccount_first).of_write
    insertCandle_first (by rw [sameName_eq]; decide) (by rw [sameName_eq]; decide)
  obtain ⟨-, -, n, htrade⟩ := hcandle.of_createTrade planningInstant_representable
    createTrade_first
  obtain ⟨-, m, hfill⟩ := htrade.of_recordExecution sampleEntry_representable
    recordExecution_first
  exact ⟨n, m, hfill⟩

end FirstTrade

end ForexJournal
