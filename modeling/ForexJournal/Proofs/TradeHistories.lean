import Mathlib
import ForexJournal.Proofs.FillHistory
import ForexJournal.Proofs.LiveTrades
import ForexJournal.Proofs.NoOverflow

/-!
# The histories of reachable stores

In every reachable store each stored trade, with its fills in the order they were written,
satisfies `Trade.HistoryOk`, and from there on no committed call changes a stored trade but to
set a marker it did not have (`reachable_histories_ok`).

The invariant on the journal's rows is `JournalRows.HistoriesOk`: trade identifiers are
distinct, every fill belongs to a stored trade, and every stored trade keeps its history. Each
of the three row changes keeps it. A planned trade has a fresh identifier, so no fill is yet its,
and a positive size: the sizing only multiplies and divides positive amounts, which keeps the
plus sign, and a size that cuts to zero lots is refused (`planTrade_size_isPositive`). A fill
joins the history of the one trade it was checked against. A marker is set only on a trade
without fills. The relation `JournalRows.Keeps` says what happens to the trades themselves; one
step keeps both (`Store.Step.historiesOk`), and by induction so does every run of calls
(`Store.historiesOk_of_run`).
-/

namespace ForexJournal

/-! ## The sign of a planned size -/

namespace Decimal

theorem ofRawParts?_plus {m s : Nat} {d : Decimal} (h : ofRawParts? false m s = some d) :
    d.negative = false :=
  (ofRawParts?_eq_some h).1

theorem getD_ofRawParts?_plus {m s : Nat} {d : Decimal} (hd : d.negative = false) :
    ((ofRawParts? false m s).getD d).negative = false := by
  cases h : ofRawParts? false m s with
  | none => exact hd
  | some x => exact ofRawParts?_plus h

theorem signedMantissa_nonneg {d : Decimal} (h : d.negative = false) : 0 ≤ d.signedMantissa := by
  simp [signedMantissa, h]

theorem ofSignedExact?_plus {v : Int} {s least : Nat} {d : Decimal} (hv : 0 ≤ v)
    (h : ofSignedExact? v s least = some d) : d.negative = false := by
  unfold ofSignedExact? at h
  obtain ⟨⟨m, s'⟩, -, h⟩ := Option.bind_eq_some_iff.1 h
  rw [decide_eq_false (not_lt.2 hv)] at h
  exact ofRawParts?_plus h

theorem checkedMul_plus {a b r : Decimal} (ha : a.negative = false) (hb : b.negative = false)
    (h : a.checkedMul b = some r) : r.negative = false := by
  unfold checkedMul at h
  dsimp only at h
  split_ifs at h
  · cases h; rfl
  · cases h; rfl
  · exact ofSignedExact?_plus (mul_nonneg (signedMantissa_nonneg ha) (signedMantissa_nonneg hb)) h
  · obtain ⟨⟨m, s'⟩, -, h⟩ := Option.bind_eq_some_iff.1 h
    rw [ha, hb] at h
    exact ofRawParts?_plus h

theorem checkedDiv_plus {a b r : Decimal} (ha : a.negative = false) (hb : b.negative = false)
    (h : a.checkedDiv b = some r) : r.negative = false := by
  unfold checkedDiv at h
  dsimp only at h
  split_ifs at h
  · cases h; rfl
  · split at h
    · cases h
    · rw [ha, hb] at h
      exact ofRawParts?_plus h

theorem roundTo_plus {d : Decimal} (hd : d.negative = false) (dp : Nat) (mode : Rounding) :
    (d.roundTo dp mode).negative = false := by
  unfold roundTo
  split_ifs
  · exact hd
  · rw [hd]
    exact getD_ofRawParts?_plus hd
  · rw [hd]
    exact getD_ofRawParts?_plus hd

theorem isPositive_iff {d : Decimal} :
    d.isPositive = true ↔ d.negative = false ∧ d.isZero = false := by
  simp [isPositive, isZero]

end Decimal

namespace Risk

theorem inRange_eq_ok {field : String} {o : Option Decimal} {d : Decimal} :
    inRange field o = .ok d ↔ o = some d := by
  unfold inRange
  split <;> simp

/-- A position size is computed with the plus sign: it is a positive amount over a product of
two positive amounts. -/
theorem positionSize_plus {risk stopPips pipValue size : Decimal}
    (h : positionSize risk stopPips pipValue = .ok size) : size.negative = false := by
  simp only [positionSize, except_bind_eq_ok, inRange_eq_ok] at h
  obtain ⟨⟨⟩, hr, ⟨⟩, hs, ⟨⟩, hp, stopValue, hv, h⟩ := h
  have hr := Decimal.isPositive_iff.1 (Journal.isPositive_of_requirePositive hr)
  have hs := Decimal.isPositive_iff.1 (Journal.isPositive_of_requirePositive hs)
  have hp := Decimal.isPositive_iff.1 (Journal.isPositive_of_requirePositive hp)
  exact Decimal.checkedDiv_plus hr.1 (Decimal.checkedMul_plus hs.1 hp.1 hv) h

end Risk

/-- A planned trade's size is positive: the sizing keeps the plus sign, and a size that cuts to
zero lots is refused. -/
theorem planTrade_size_isPositive {account : Account} {plan : TradePlan} {id : Uuid}
    {now : Instant} {t : Trade} (h : planTrade account plan id now = .ok t) :
    t.plannedPositionSize.isPositive = true := by
  unfold planTrade at h
  simp only [bind, Except.bind, pure, Except.pure, throw, throwThe, MonadExceptOf.throw] at h
  repeat' (split at h <;> try cases h)
  dsimp only
  refine Decimal.isPositive_iff.2 ⟨Decimal.roundTo_plus (Risk.positionSize_plus ‹_›) _ _, ?_⟩
  simpa using ‹¬(Decimal.roundTo _ _ _).isZero = true›

/-! ## The invariant of the rows -/

namespace JournalRows

variable {J : JournalRows} {db db' : Database}

theorem history_append_execution (J : JournalRows) (n : Nat) (e : Execution) (id : Uuid) :
    (⟨J.trades, J.executions ++ [(n, e)]⟩ : JournalRows).history id =
      J.history id ++ if e.tradeId = id then [e.stored] else [] := by
  unfold history
  split_ifs with h <;> simp [List.filter_append, h]

theorem loadExecutions_eq_ok (hJ : J.Holds db) {id : Uuid} {hist : List Execution}
    (h : JournalTx.loadExecutions id db = .ok (hist, db')) :
    hist.Perm (J.history id) ∧ Execution.sortByTime hist = Execution.sortByTime (J.history id) := by
  obtain ⟨hist', h', hperm, hsort⟩ := loadExecutions_eq hJ id
  obtain rfl : hist = hist' := (Prod.mk.inj (Except.ok.inj (h.symm.trans h'))).1
  exact ⟨hperm, hsort⟩

/-- Every stored trade keeps its history, its fills read in the order they were written. -/
structure HistoriesOk (J : JournalRows) : Prop where
  /-- no two trades share an identifier -/
  ids : (J.trades.map (·.2.id)).Nodup
  /-- every fill belongs to a stored trade -/
  owned : ∀ p ∈ J.executions, ∃ q ∈ J.trades, q.2.id = p.2.tradeId
  /-- every stored trade keeps its history -/
  histories : ∀ p ∈ J.trades, p.2.stored.HistoryOk (J.history p.2.id)

theorem HistoriesOk.empty : HistoriesOk ⟨[], []⟩ := ⟨List.nodup_nil, by simp, by simp⟩

theorem HistoriesOk.eq_of_id (hok : J.HistoriesOk) {p q : Nat × Trade} (hp : p ∈ J.trades)
    (hq : q ∈ J.trades) (h : p.2.id = q.2.id) : p = q :=
  List.inj_on_of_nodup_map hok.ids hp hq h

/-- Planning keeps every history: no fill is yet the new trade's, whose identifier is fresh,
and its planned size is positive. -/
theorem HistoriesOk.planWork (hok : J.HistoriesOk) {plan : TradePlan} {id : Uuid}
    {now : Instant} {t : Trade} (h : Journal.planWork plan id now db = .ok (t, db'))
    (hfresh : ∀ p ∈ J.trades, p.2.id ≠ t.id) (n : Nat) :
    HistoriesOk ⟨J.trades ++ [(n, t)], J.executions⟩ := by
  obtain ⟨account, trades, -, -, -, -, hplan, -⟩ := Journal.planWork_eq_ok h
  have hsize := planTrade_size_isPositive hplan
  have hpos : t.stored.plannedPositionSize.isPositive = true := by
    rw [Trade.stored_plannedPositionSize, Decimal.plusZero_of_isPositive hsize]
    exact hsize
  have hnone : J.history t.id = [] := by
    unfold history
    rw [List.filter_eq_nil_iff.2 fun p hp hid => ?_, List.map_nil]
    obtain ⟨q, hq, hqid⟩ := hok.owned p hp
    exact hfresh q hq (hqid.trans (of_decide_eq_true hid))
  refine ⟨?_, fun p hp => ?_, fun p hp => ?_⟩
  · simp only [List.map_append, List.map_cons, List.map_nil]
    rw [List.nodup_append]
    refine ⟨hok.ids, List.nodup_singleton _, fun a ha b hb hab => ?_⟩
    obtain ⟨q, hq, rfl⟩ := List.mem_map.1 ha
    exact hfresh q hq (hab.trans (List.mem_singleton.1 hb))
  · obtain ⟨q, hq, hid⟩ := hok.owned p hp
    exact ⟨q, List.mem_append_left _ hq, hid⟩
  · rcases List.mem_append.1 hp with hp | hp
    · exact hok.histories p hp
    · rw [List.mem_singleton.1 hp]
      show t.stored.HistoryOk (J.history t.id)
      rw [hnone]
      exact Trade.HistoryOk.nil hpos

/-- Recording a fill keeps every history: the fill passed the checks against its trade's
history as the store read it, and joins that history only. -/
theorem HistoriesOk.appendExecution (hJ : J.Holds db) (hok : J.HistoriesOk) {slip : Decimal}
    {r : ExecutionRequest} {id : Uuid} {e : Execution}
    (h : Journal.appendExecution slip r id db = .ok (e, db')) (n : Nat) :
    HistoriesOk ⟨J.trades, J.executions ++ [(n, e)]⟩ := by
  obtain ⟨trade, hist, htrade, hhist, hfill, -⟩ := Journal.appendExecution_eq_ok h
  obtain ⟨-, p, hp, -, rfl⟩ := loadTrade_eq_ok hJ htrade
  obtain ⟨hperm, hsort⟩ := loadExecutions_eq_ok hJ hhist
  have he : e.tradeId = p.2.id := by
    obtain ⟨_, _, -, -, -, -, -, -, -, -, -, -, rfl⟩ := Journal.checkFill_eq_ok hfill
    rfl
  refine ⟨hok.ids, fun x hx => ?_, fun q hq => ?_⟩
  · rcases List.mem_append.1 hx with hx | hx
    · exact hok.owned x hx
    · rw [List.mem_singleton.1 hx]
      exact ⟨p, hp, he.symm⟩
  · rw [history_append_execution]
    by_cases hqe : e.tradeId = q.2.id
    · obtain rfl := hok.eq_of_id hp hq (he.symm.trans hqe)
      rw [if_pos hqe]
      exact (hok.histories p hp).append hperm hsort hfill
    · rw [if_neg hqe, List.append_nil]
      exact hok.histories q hq

theorem markTrade_id (id : Uuid) (r : TerminalRecord) (p : Nat × Trade) :
    (markTrade id r p).2.id = p.2.id := by
  unfold markTrade
  split_ifs <;> rfl

theorem HistoriesOk.markWork (hJ : J.Holds db) (hok : J.HistoriesOk) {tradeId : Uuid}
    {record : TerminalRecord} {t : Trade} (h : Journal.markWork tradeId record db = .ok (t, db')) :
    HistoriesOk ⟨J.trades.map (markTrade tradeId record), J.executions⟩ := by
  obtain ⟨-, hist, -, -, hhist, rfl, -, -⟩ := Journal.markWork_eq_ok h
  have hnone : J.history tradeId = [] := (List.Perm.nil_eq (loadExecutions_eq_ok hJ hhist).1).symm
  refine ⟨?_, fun x hx => ?_, fun p hp => ?_⟩
  · simpa [Function.comp_def, markTrade_id] using hok.ids
  · obtain ⟨q, hq, hqid⟩ := hok.owned x hx
    exact ⟨markTrade tradeId record q, List.mem_map_of_mem hq, (markTrade_id _ _ q).trans hqid⟩
  · obtain ⟨q, hq, rfl⟩ := List.mem_map.1 hp
    show (markTrade tradeId record q).2.stored.HistoryOk (J.history (markTrade tradeId record q).2.id)
    rw [markTrade_id]
    unfold markTrade
    split_ifs with hm
    · have h0 : J.history q.2.id = [] := hm.1 ▸ hnone
      rw [Trade.stored_withTerminal, h0]
      exact (h0 ▸ hok.histories q hq).mark record
    · exact hok.histories q hq

/-- Every trade of `J` is still in `J'`, with the same fields but the marker, and with the same
marker if it had one. -/
def Keeps (J J' : JournalRows) : Prop :=
  ∀ p ∈ J.trades, ∃ p' ∈ J'.trades, p'.2 = { p.2 with terminal := p'.2.terminal } ∧
    ∀ r, p.2.terminal = some r → p'.2.terminal = some r

theorem Keeps.refl (J : JournalRows) : J.Keeps J := fun p hp => ⟨p, hp, rfl, fun _ => id⟩

theorem Keeps.trans {J J' J'' : JournalRows} (h : J.Keeps J') (h' : J'.Keeps J'') :
    J.Keeps J'' := by
  intro p hp
  obtain ⟨p', hp', heq, hr⟩ := h p hp
  obtain ⟨p'', hp'', heq', hr'⟩ := h' p' hp'
  refine ⟨p'', hp'', ?_, fun r h => hr' r (hr r h)⟩
  rw [heq', heq]

theorem Keeps.append_trade (J : JournalRows) (n : Nat) (t : Trade) :
    J.Keeps ⟨J.trades ++ [(n, t)], J.executions⟩ :=
  fun p hp => ⟨p, List.mem_append_left _ hp, rfl, fun _ => id⟩

theorem Keeps.mark (J : JournalRows) (id : Uuid) (record : TerminalRecord) :
    J.Keeps ⟨J.trades.map (markTrade id record), J.executions⟩ := by
  intro p hp
  refine ⟨markTrade id record p, List.mem_map_of_mem hp, ?_, fun r hr => ?_⟩
  · unfold markTrade
    split_ifs <;> rfl
  · unfold markTrade
    split_ifs with hm
    · rw [hm.2] at hr
      cases hr
    · exact hr

end JournalRows

/-! ## Runs of calls -/

open JournalRows in
/-- One committed call keeps every history and every trade. -/
theorem Store.Step.historiesOk {s s' : Store} (h : s.Step s') {J : JournalRows}
    (hJ : J.Holds s.db) (hok : J.HistoriesOk) :
    ∃ J' : JournalRows, J'.Holds s'.db ∧ J'.HistoriesOk ∧ J.Keeps J' := by
  obtain ⟨J', hJ', hR⟩ := h.rows (fun J J' => J.HistoriesOk → J'.HistoriesOk ∧ J.Keeps J')
    (fun J hok => ⟨hok, Keeps.refl J⟩)
    (fun J _ _ _ _ _ t n _ hw hfresh hok => ⟨hok.planWork hw hfresh n, Keeps.append_trade J n t⟩)
    (fun J _ _ _ _ _ _ n hJ hw hok => ⟨hok.appendExecution hJ hw n, Keeps.refl J⟩)
    (fun J _ _ tradeId record _ hJ hw hok => ⟨hok.markWork hJ hw, Keeps.mark J tradeId record⟩)
    hJ
  exact ⟨J', hJ', hR hok⟩

open JournalRows in
/-- Along any run of committed calls, rows that keep every history are followed by rows that
keep every history and every trade of the first. -/
theorem Store.historiesOk_of_run {s s' : Store} (hrun : Relation.ReflTransGen Store.Step s s')
    {J : JournalRows} (hJ : J.Holds s.db) (hok : J.HistoriesOk) :
    ∃ J' : JournalRows, J'.Holds s'.db ∧ J'.HistoriesOk ∧ J.Keeps J' := by
  induction hrun with
  | refl => exact ⟨J, hJ, hok, Keeps.refl J⟩
  | tail _ hstep ih =>
    obtain ⟨J', hJ', hok', hk⟩ := ih
    obtain ⟨J'', hJ'', hok'', hk'⟩ := hstep.historiesOk hJ' hok'
    exact ⟨J'', hJ'', hok'', hk.trans hk'⟩

/-- Every reachable store holds rows that keep every history. -/
theorem Store.Reachable.historiesOk {s : Store} (hs : s.Reachable) :
    ∃ J : JournalRows, J.Holds s.db ∧ J.HistoriesOk := by
  obtain ⟨J, hJ, hok, -⟩ :=
    Store.historiesOk_of_run hs JournalRows.holds_fresh JournalRows.HistoriesOk.empty
  exact ⟨J, hJ, hok⟩

/-- In every reachable store, each stored trade with its fills in the order they were written
keeps its history: the fills are in time order and kept to the microsecond, their kinds form a
course, a marked trade has none, the entry takes the planned size, prices and sizes are
positive, and the state and the open size can be derived. From there on, whatever calls
follow, each of these trades is still stored with the same fields, but for a marker it did not
have; a marker, once set, stays. -/
theorem reachable_histories_ok (s : Store) (hs : s.Reachable) :
    ∃ ts, s.trades = .ok ts ∧
      (∀ T ∈ ts, ∃ H, s.executionsOf T.id = .ok H ∧ T.HistoryOk H) ∧
      ∀ s', Relation.ReflTransGen Store.Step s s' → ∃ ts', s'.trades = .ok ts' ∧
        ∀ T ∈ ts, ∃ T' ∈ ts', T' = { T with terminal := T'.terminal } ∧
          ∀ r, T.terminal = some r → T'.terminal = some r := by
  obtain ⟨J, hJ, hok⟩ := hs.historiesOk
  refine ⟨J.storedTrades, JournalRows.trades_eq hJ, fun T hT => ?_, fun s' hrun => ?_⟩
  · obtain ⟨p, hp, rfl⟩ := List.mem_map.1 hT
    exact ⟨_, JournalRows.executionsOf_eq hJ p.2.id, hok.histories p hp⟩
  · obtain ⟨J', hJ', -, hk⟩ := Store.historiesOk_of_run hrun hJ hok
    refine ⟨J'.storedTrades, JournalRows.trades_eq hJ', fun T hT => ?_⟩
    obtain ⟨p, hp, rfl⟩ := List.mem_map.1 hT
    obtain ⟨p', hp', heq, hr⟩ := hk p hp
    refine ⟨p'.2.stored, List.mem_map_of_mem hp', ?_, hr⟩
    rw [heq]
    rfl

/-- A fresh journal's first trade and its entry: the store the calls reach holds the planned
trade with the entry as its one fill, and the statement holds of it. -/
theorem reachable_histories_ok_after_entry :
    filledStore.Reachable ∧ filledStore.trades = .ok [plannedTrade.stored] ∧
      filledStore.executionsOf plannedTrade.id = .ok [entryExecution.stored] ∧
      ∃ ts, filledStore.trades = .ok ts ∧
        (∀ T ∈ ts, ∃ H, filledStore.executionsOf T.id = .ok H ∧ T.HistoryOk H) ∧
        ∀ s', Relation.ReflTransGen Store.Step filledStore s' → ∃ ts', s'.trades = .ok ts' ∧
          ∀ T ∈ ts, ∃ T' ∈ ts', T' = { T with terminal := T'.terminal } ∧
            ∀ r, T.terminal = some r → T'.terminal = some r := by
  obtain ⟨n, m, hJ⟩ := filledStore_rows
  refine ⟨filledStore_reachable, JournalRows.trades_eq hJ, ?_,
    reachable_histories_ok filledStore filledStore_reachable⟩
  rw [JournalRows.executionsOf_eq hJ]
  simp [JournalRows.history, entryExecution, plannedTrade]

end ForexJournal
