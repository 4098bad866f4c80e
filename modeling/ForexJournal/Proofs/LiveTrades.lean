import Mathlib
import ForexJournal.Proofs.Reachable

/-!
# One live trade per account, candle and bias

A trade is live on an account, a candle and a bias when it is that account's trade on that
candle with that bias and carries no terminal marker (`Trade.isLiveOn`). Planning a trade reads
the trades of the account on the candle inside its transaction and refuses the plan with
`DuplicateTrade` when one of them is live with the plan's bias; setting a marker can only end a
trade's life. So in every reachable store at most one trade is live on each account, candle and
bias (`JournalRows.LiveUnique`), and when the account and the candle exist and the port lets
the first attempt through, planning is refused as a duplicate exactly when a live trade stands
in the way, and the refusal names it (`live_trade_unique`).

No other step of planning refuses a plan as a duplicate: the risk checks, the sizing and the
insertion fail with errors of their own (`planTrade_ne_duplicate`).
-/

namespace ForexJournal

section Refusals

variable {b : Bias} {u : Uuid}

namespace Risk

@[simp] theorem requirePositive_ne_duplicate {field : String} {v : Decimal} :
    requirePositive field v ≠ .error (.duplicateTrade b u) := by
  unfold requirePositive
  split <;> simp [JournalError.invalid]

@[simp] theorem requirePositivePrices_ne_duplicate {ps : List Decimal} :
    requirePositivePrices ps ≠ .error (.duplicateTrade b u) := by
  unfold requirePositivePrices
  split <;> simp

@[simp] theorem inRange_ne_duplicate {field : String} {o : Option Decimal} :
    inRange field o ≠ .error (.duplicateTrade b u) := by
  unfold inRange
  split <;> simp [JournalError.invalid]

-- Each check below is a chain of the three above and of refusals of its own: the chain fails
-- only where one of its links does (`except_bind_eq_error`), and each refusal of its own names
-- another error.

@[simp] theorem validateGeometry_ne_duplicate {entry sl tp : Decimal} {bias : Bias} :
    validateGeometry entry sl tp bias ≠ .error (.duplicateTrade b u) := by
  cases bias <;> simp [validateGeometry, except_bind_eq_error, ite_eq_iff]

@[simp] theorem stopDistance_ne_duplicate {entry sl : Decimal} :
    stopDistance entry sl ≠ .error (.duplicateTrade b u) := by
  simp [stopDistance, except_bind_eq_error, ite_eq_iff]

@[simp] theorem stopDistancePips_ne_duplicate {distance pip : Decimal} :
    stopDistancePips distance pip ≠ .error (.duplicateTrade b u) := by
  simp [stopDistancePips, except_bind_eq_error]

@[simp] theorem positionSize_ne_duplicate {risk stopPips pipValue : Decimal} :
    positionSize risk stopPips pipValue ≠ .error (.duplicateTrade b u) := by
  simp [positionSize, except_bind_eq_error]

@[simp] theorem rewardRisk_ne_duplicate {entry sl tp : Decimal} {bias : Bias} :
    rewardRisk entry sl tp bias ≠ .error (.duplicateTrade b u) := by
  cases bias <;> simp [rewardRisk, except_bind_eq_error, ite_eq_iff]

@[simp] theorem riskAmount_ne_duplicate {balance pct : Decimal} :
    riskAmount balance pct ≠ .error (.duplicateTrade b u) := by
  simp [riskAmount, except_bind_eq_error, ite_eq_iff, JournalError.invalid]

@[simp] theorem maxPositionSize_ne_duplicate {balance : Decimal} {leverage : Nat}
    {contract : Decimal} :
    maxPositionSize balance leverage contract ≠ .error (.duplicateTrade b u) := by
  simp [maxPositionSize, except_bind_eq_error, ite_eq_iff, JournalError.invalid]

end Risk

/-- Planning refuses a plan for its geometry, its risk or its size, never as a duplicate. -/
theorem planTrade_ne_duplicate {account : Account} {plan : TradePlan} {id : Uuid}
    {now : Instant} : planTrade account plan id now ≠ .error (.duplicateTrade b u) := by
  simp [planTrade, except_bind_eq_error, ite_eq_iff, throw, throwThe, MonadExceptOf.throw, pure,
    Except.pure, JournalError.invalid]

namespace JournalTx

variable {α β : Type} {db db' : Database}

/-- A work failed exactly when its first step did, or its continuation did from the database
the first step left. -/
theorem bind_eq_error {x : JournalTx α} {f : α → JournalTx β} {e : JournalError} :
    (x >>= f) db = .error e ↔ x db = .error e ∨ ∃ a db', x db = .ok (a, db') ∧ f a db' = .error e := by
  show (StateT.bind x f) db = _ ↔ _
  simp only [StateT.bind]
  cases x db with
  | error e' => simp [bind, Except.bind]
  | ok p =>
    obtain ⟨a, db'⟩ := p
    simp [bind, Except.bind]

theorem bind_of_eq_ok {x : JournalTx α} {f : α → JournalTx β} {a : α}
    (h : x db = .ok (a, db')) : (x >>= f) db = f a db' := by
  show (StateT.bind x f) db = _
  simp only [StateT.bind, h]
  rfl

theorem lift_eq_error {x : Except JournalError α} {e : JournalError} :
    (liftM x : JournalTx α) db = .error e ↔ x = .error e := by
  cases x <;> simp [liftM, monadLift, MonadLift.monadLift, StateT.lift, bind, Except.bind, pure,
    Except.pure]

theorem insertTrade_ne_duplicate {t : Trade} :
    insertTrade t db ≠ .error (.duplicateTrade b u) := by
  unfold insertTrade change
  split <;> simp [Rows.queryError]

end JournalTx

open JournalTx in
/-- With its account and candle found and the trades of the account on the candle read, the
work of planning is refused as a duplicate exactly when one of those trades has the plan's bias
and no marker, and the refusal names the first such trade. -/
theorem Journal.planWork_eq_duplicate {plan : TradePlan} {id : Uuid} {now : Instant}
    {db : Database} {account : Account} {trades : List Trade}
    (hacc : loadAccount plan.accountId db = .ok (account, db))
    (hc : candleExists plan.candleId db = .ok (true, db))
    (htr : tradesForAccountCandle plan.accountId plan.candleId db = .ok (trades, db)) :
    Journal.planWork plan id now db = .error (.duplicateTrade b u) ↔
      ∃ x, trades.find? (fun t => t.bias == plan.bias && t.terminal.isNone) = some x ∧
        b = plan.bias ∧ u = x.id := by
  unfold Journal.planWork
  rw [bind_of_eq_ok hacc]
  dsimp only
  rw [bind_of_eq_ok hc, if_neg (by decide), bind_of_eq_ok htr]
  cases hfind : trades.find? (fun t => t.bias == plan.bias && t.terminal.isNone) with
  | some x => simp [fail, eq_comm]
  | none =>
    simp only [reduceCtorEq, false_and, exists_false, iff_false]
    intro h
    rcases bind_eq_error.1 h with h | ⟨t, db', -, h⟩
    · exact planTrade_ne_duplicate (lift_eq_error.1 h)
    · rcases bind_eq_error.1 h with h | ⟨_, _, -, h⟩
      · exact insertTrade_ne_duplicate h
      · simp [pure, StateT.pure, Except.pure] at h

end Refusals

namespace Journal

section Attempts

variable {α : Type} (port : Nat → AttemptFault) (s : Store) (settings : JournalSettings)
  (work : JournalTx α)

/-- A call whose port lets the first attempt through ends with its work's error when that
error is not worth retrying. -/
theorem runAttempts_of_error {e : JournalError} (hport : port 1 = .none)
    (he : e.isRetryable = false) (hw : work s.db = .error e) :
    (runAttempts port s settings work).1 = .error e := by
  obtain ⟨h1, -, hbefore, hres⟩ := runAttempts_retriedAtomically port s settings work
  dsimp only at hbefore hres
  have hatt : s.attempt (port 1) settings.transactionTimeoutMs work = .error e := by
    rw [hport]
    exact Store.attempt_of_error (by simp) hw
  have hn : (runAttempts port s settings work).2 = 1 := by
    by_contra hne
    obtain ⟨e', he', hcat⟩ := hbefore 1 le_rfl (by omega)
    rw [hatt] at he'
    cases he'
    simp [JournalError.isRetryable, hcat] at he
  rw [hres, hn, hatt]
  simp [retryOutcome, he]

/-- A call that ends with an error not worth retrying and not a missed deadline got it from its
work: the port's own failures are conflicts and timeouts. -/
theorem work_error_of_runAttempts {e : JournalError} (he : e.isRetryable = false)
    (hto : ∀ ms, e ≠ .timeout ms) (h : (runAttempts port s settings work).1 = .error e) :
    work s.db = .error e := by
  obtain ⟨-, -, -, hres⟩ := runAttempts_retriedAtomically port s settings work
  dsimp only at hres
  rw [hres] at h
  cases hatt : s.attempt (port (runAttempts port s settings work).2)
      settings.transactionTimeoutMs work with
  | ok v => simp [hatt, retryOutcome] at h
  | error e' =>
    simp only [hatt, retryOutcome] at h
    split_ifs at h with hr
    · cases h
      simp [JournalError.isRetryable, JournalError.category] at he
    cases h
    unfold Store.attempt at hatt
    split at hatt
    · cases hatt
      simp [JournalError.isRetryable, JournalError.category] at he
    · cases hatt
      assumption
    · cases hatt
      simp [JournalError.isRetryable, JournalError.category] at he
    · cases hatt
      exact absurd rfl (hto _)
    · cases hatt

end Attempts

end Journal

namespace Trade

/-- The trade is the account's, on the candle, with the bias, and carries no marker. -/
def isLiveOn (account candle : Uuid) (bias : Bias) (t : Trade) : Bool :=
  decide (t.accountId = account ∧ t.candleId = candle ∧ t.bias = bias) && t.terminal.isNone

variable {a c : Uuid} {bias : Bias} {t : Trade}

@[simp] theorem isLiveOn_stored : t.stored.isLiveOn a c bias = t.isLiveOn a c bias := rfl

theorem isLiveOn_iff : t.isLiveOn a c bias = true ↔
    t.accountId = a ∧ t.candleId = c ∧ t.bias = bias ∧ t.terminal = none := by
  simp [isLiveOn, Option.isNone_iff_eq_none, and_assoc]

/-- Among the trades of an account on a candle, the live ones of a bias are those planning
looks for. -/
theorem isLiveOn_of_key (ha : t.accountId = a) (hc : t.candleId = c) :
    t.isLiveOn a c bias = (t.bias == bias && t.terminal.isNone) := by
  simp only [isLiveOn, ha, hc, true_and]
  rfl

end Trade

namespace JournalRows

/-- At most one stored trade is live on each account, candle and bias. -/
def LiveUnique (J : JournalRows) : Prop :=
  ∀ a c bias, (J.storedTrades.filter (Trade.isLiveOn a c bias)).length ≤ 1

variable {J : JournalRows}

theorem LiveUnique.eq (hu : J.LiveUnique) {a c : Uuid} {bias : Bias} {x y : Trade}
    (hx : x ∈ J.storedTrades) (hxl : x.isLiveOn a c bias = true)
    (hy : y ∈ J.storedTrades) (hyl : y.isLiveOn a c bias = true) : x = y := by
  have hlen := hu a c bias
  have hx' := List.mem_filter.2 ⟨hx, hxl⟩
  have hy' := List.mem_filter.2 ⟨hy, hyl⟩
  rcases hl : J.storedTrades.filter (Trade.isLiveOn a c bias) with _ | ⟨z, _ | ⟨w, rest⟩⟩
  · rw [hl] at hx'
    cases hx'
  · rw [hl, List.mem_singleton] at hx' hy'
    rw [hx', hy']
  · rw [hl] at hlen
    simp at hlen

/-- A trade appended where none is live on its account, candle and bias keeps every account,
candle and bias with at most one live trade. -/
theorem LiveUnique.append (hu : J.LiveUnique) {t : Trade}
    (hfree : ∀ x ∈ J.storedTrades, x.isLiveOn t.accountId t.candleId t.bias = false) (n : Nat) :
    LiveUnique ⟨J.trades ++ [(n, t)], J.executions⟩ := by
  intro a c bias
  have hsplit : (⟨J.trades ++ [(n, t)], J.executions⟩ : JournalRows).storedTrades =
      J.storedTrades ++ [t.stored] := by
    simp [storedTrades]
  rw [hsplit, List.filter_append, List.length_append]
  by_cases hl : t.isLiveOn a c bias = true
  · obtain ⟨rfl, rfl, rfl, -⟩ := Trade.isLiveOn_iff.1 hl
    rw [List.filter_eq_nil_iff.2 fun x hx => by simp [hfree x hx], List.length_nil, zero_add]
    exact (List.length_filter_le _ _).trans (by simp)
  · have := hu a c bias
    simp [hl, this]

theorem LiveUnique.mark (hu : J.LiveUnique) (id : Uuid) (r : TerminalRecord) :
    LiveUnique ⟨J.trades.map (markTrade id r), J.executions⟩ := by
  intro a c bias
  have hmono : ∀ p : Nat × Trade, (markTrade id r p).2.stored.isLiveOn a c bias = true →
      p.2.stored.isLiveOn a c bias = true := by
    intro p hp
    unfold markTrade at hp
    split_ifs at hp
    · simp [Trade.isLiveOn] at hp
    · exact hp
  calc (((J.trades.map (markTrade id r)).map (·.2.stored)).filter (Trade.isLiveOn a c bias)).length
      = (J.trades.filter fun p => (markTrade id r p).2.stored.isLiveOn a c bias).length := by
        simp [List.filter_map, Function.comp_def]
    _ ≤ (J.trades.filter fun p => p.2.stored.isLiveOn a c bias).length :=
        (List.monotone_filter_right _ hmono).length_le
    _ = (J.storedTrades.filter (Trade.isLiveOn a c bias)).length := by
        simp [storedTrades, List.filter_map, Function.comp_def]
    _ ≤ 1 := hu a c bias

/-- Planning a trade keeps at most one live trade per account, candle and bias: the work read
the trades of the plan's account on its candle and found none live with the plan's bias. -/
theorem LiveUnique.planWork {db db' : Database} (hJ : J.Holds db) (hu : J.LiveUnique)
    {plan : TradePlan} {id : Uuid} {now : Instant} {t : Trade}
    (h : Journal.planWork plan id now db = .ok (t, db')) (n : Nat) :
    LiveUnique ⟨J.trades ++ [(n, t)], J.executions⟩ := by
  obtain ⟨account, trades, hacc, -, htr, hnone, hplan, -⟩ := Journal.planWork_eq_ok h
  obtain ⟨hid, -, -⟩ := JournalTx.loadAccount_eq_ok hacc
  obtain ⟨hta, htc, htb, -, -, -⟩ := planTrade_eq_ok hplan
  obtain ⟨ts, hts, hperm⟩ := tradesForAccountCandle_eq hJ plan.accountId plan.candleId
  obtain rfl : trades = ts := (Prod.mk.inj (Except.ok.inj (htr.symm.trans hts))).1
  refine hu.append (fun x hx => ?_) n
  rw [hta, hid, htc, htb]
  by_contra hl
  obtain ⟨ha, hc, -, -⟩ := Trade.isLiveOn_iff.1 (Bool.eq_true_of_not_eq_false hl)
  have hmem : x ∈ trades := hperm.mem_iff.2 (List.mem_filter.2 ⟨hx, by simp [ha, hc]⟩)
  have hfound := List.find?_eq_none.1 hnone x hmem
  rw [← Trade.isLiveOn_of_key ha hc] at hfound
  exact hfound (Bool.eq_true_of_not_eq_false hl)

end JournalRows

/-- Every reachable store holds a journal with at most one live trade per account, candle and
bias. -/
theorem Store.Reachable.liveUnique {s : Store} (hs : s.Reachable) :
    ∃ J : JournalRows, J.Holds s.db ∧ J.LiveUnique :=
  hs.rows_invariant JournalRows.LiveUnique (fun _ _ _ => by simp [JournalRows.storedTrades])
    (fun _ _ _ _ _ _ _ n hJ hu h _ => hu.planWork hJ h n)
    (fun _ _ _ _ _ _ _ _ _ hu _ => hu)
    (fun _ _ _ tradeId record _ _ hu _ => hu.mark tradeId record)

/-- In every reachable store, at most one trade of each account, candle and bias carries no
marker; and with the account and the candle stored and a port that lets the first attempt
through, planning a trade is refused as a duplicate exactly when a trade of its account,
candle and bias carries no marker, the refusal naming that trade. Marked trades never stand in
the way. -/
theorem live_trade_unique (s : Store) (hs : s.Reachable) :
    ∃ ts, s.trades = .ok ts ∧
      (∀ a c bias, (ts.filter (Trade.isLiveOn a c bias)).length ≤ 1) ∧
      ∀ (port : Nat → AttemptFault) (settings : JournalSettings) (plan : TradePlan) (id : Uuid)
        (now : Instant), port 1 = .none →
        (∃ account, JournalTx.loadAccount plan.accountId s.db = .ok (account, s.db)) →
        JournalTx.candleExists plan.candleId s.db = .ok (true, s.db) →
        ∀ b e, Journal.createTradeUnder port s settings plan id now =
            .error (.duplicateTrade b e) ↔
          b = plan.bias ∧ ∃ t ∈ ts, t.isLiveOn plan.accountId plan.candleId plan.bias = true ∧
            t.id = e := by
  obtain ⟨J, hJ, hu⟩ := hs.liveUnique
  refine ⟨J.storedTrades, JournalRows.trades_eq hJ, hu, ?_⟩
  intro port settings plan id now hport ⟨account, hacc⟩ hc b e
  obtain ⟨trades, htr, hperm⟩ := JournalRows.tradesForAccountCandle_eq hJ plan.accountId plan.candleId
  have hdup := @Journal.planWork_eq_duplicate b e plan id now.truncMicros s.db account trades
    hacc hc htr
  have hkey : ∀ x ∈ trades, x ∈ J.storedTrades ∧ x.accountId = plan.accountId ∧
      x.candleId = plan.candleId := fun x hx => by
    have := List.mem_filter.1 (hperm.mem_iff.1 hx)
    simpa using this
  constructor
  · intro h
    have hw := Journal.work_error_of_runAttempts port s settings _ (by rfl) (by simp) h
    obtain ⟨x, hx, rfl, rfl⟩ := hdup.1 hw
    obtain ⟨hxs, ha, hc'⟩ := hkey x (List.mem_of_find?_eq_some hx)
    refine ⟨rfl, x, hxs, ?_, rfl⟩
    rw [Trade.isLiveOn_of_key ha hc']
    have hp := List.find?_some hx
    exact hp
  · rintro ⟨rfl, t, ht, hl, rfl⟩
    obtain ⟨ha, hc', -, -⟩ := Trade.isLiveOn_iff.1 hl
    have htm : t ∈ trades := hperm.mem_iff.2 (List.mem_filter.2 ⟨ht, by simp [ha, hc']⟩)
    have hsome : (trades.find? fun t => t.bias == plan.bias && t.terminal.isNone).isSome :=
      List.find?_isSome.2 ⟨t, htm, by rw [← Trade.isLiveOn_of_key ha hc']; exact hl⟩
    obtain ⟨x, hx⟩ := Option.isSome_iff_exists.1 hsome
    obtain ⟨hxs, hxa, hxc⟩ := hkey x (List.mem_of_find?_eq_some hx)
    have hxl : x.isLiveOn plan.accountId plan.candleId plan.bias = true := by
      rw [Trade.isLiveOn_of_key hxa hxc]
      have hp := List.find?_some hx
      exact hp
    obtain rfl := hu.eq hxs hxl ht hl
    exact Journal.runAttempts_of_error port s settings _ hport (by rfl)
      (hdup.2 ⟨x, hx, rfl, rfl⟩)

/-- After a fresh journal's first trade, planning the same account, candle and bias again is
refused as a duplicate that names the live trade. -/
theorem live_trade_unique_refuses_second_plan :
    filledStore.Reachable ∧ ∃ ts, filledStore.trades = .ok ts ∧
      (∀ a c bias, (ts.filter (Trade.isLiveOn a c bias)).length ≤ 1) ∧
      Journal.createTrade filledStore .default samplePlan (Uuid.ofNat 5)
        (Instant.epoch.addSeconds 1704074400) = .error (.duplicateTrade .long plannedTrade.id) := by
  obtain ⟨ts, hts, huniq, hdup⟩ := live_trade_unique filledStore filledStore_reachable
  obtain ⟨n, m, hJ⟩ := filledStore_rows
  have hacc : JournalTx.loadAccount samplePlan.accountId filledStore.db =
      .ok (sampleAccount, filledStore.db) :=
    JournalTx.read_eq_ok.2 ⟨by decide +kernel, rfl⟩
  have hc : JournalTx.candleExists samplePlan.candleId filledStore.db =
      .ok (true, filledStore.db) :=
    JournalTx.read_eq_ok.2 ⟨by decide +kernel, rfl⟩
  have hmem : plannedTrade.stored ∈ ts := by
    rw [JournalRows.trades_eq hJ] at hts
    cases hts
    simp [JournalRows.storedTrades]
  have hrefused := (hdup (Journal.storePort filledStore .default) .default samplePlan
    (Uuid.ofNat 5) (Instant.epoch.addSeconds 1704074400) rfl ⟨_, hacc⟩ hc .long
    plannedTrade.id).2 ⟨rfl, _, hmem, by decide, rfl⟩
  exact ⟨filledStore_reachable, ts, hts, huniq, hrefused⟩

end ForexJournal
