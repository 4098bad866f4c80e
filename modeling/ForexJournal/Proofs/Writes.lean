import Mathlib
import ForexJournal.Proofs.Retry
import ForexJournal.Service.Journal

/-!
# What a write of the journal commits

The four writes of the journal (opening an account, planning a trade, recording a fill and
marking a trade) each run one piece of work in a transaction. The port ends every attempt of
the transaction in one of four ways (`AttemptFault`): a commit, a conflict before the work
runs, a conflict at commit, or a missed deadline. An attempt commits only when the port lets
it and the work succeeds, and every attempt runs the work on the store as the call found it,
so nothing of a failed attempt is left behind.

Each work is a few reads followed by one write; its inversion lemma (`planWork_eq_ok`,
`appendExecution_eq_ok`, `markWork_eq_ok`) says which reads it made, which checks passed and
which write it ran. The retry loop around the attempts is `withRetry`, whose run is described
in `withRetry_spec`. Main statement: `committed_write_is_one_write`, which puts both together
for every port, every store and every call.
-/

namespace ForexJournal

/-- A computation that may fail succeeded exactly when its first step did and its
continuation did from there. -/
theorem except_bind_eq_ok {ε α β : Type} {x : Except ε α} {f : α → Except ε β} {b : β} :
    x >>= f = .ok b ↔ ∃ a, x = .ok a ∧ f a = .ok b := by
  cases x <;> simp [bind, Except.bind]

/-- A computation that may fail failed with `e` exactly when its first step did, or its
continuation did from the first step's value. -/
theorem except_bind_eq_error {ε α β : Type} {x : Except ε α} {f : α → Except ε β} {e : ε} :
    x >>= f = .error e ↔ x = .error e ∨ ∃ a, x = .ok a ∧ f a = .error e := by
  cases x <;> simp [bind, Except.bind]

theorem exists_eq_ok_of_toOption {ε α β : Type} {x : Except ε α} {f : α → β} {b : β}
    (h : x.toOption.map f = some b) : ∃ a, x = .ok a ∧ f a = b := by
  cases x with
  | error e => cases h
  | ok a => exact ⟨a, rfl, by simpa [Except.toOption] using h⟩

namespace JournalTx

variable {α β : Type} {db db' db'' : Database}

/-- A work succeeded exactly when its first step did and its continuation did from the
database the first step left. -/
theorem bind_eq_ok {x : JournalTx α} {f : α → JournalTx β} {b : β} :
    (x >>= f) db = .ok (b, db'') ↔ ∃ a db', x db = .ok (a, db') ∧ f a db' = .ok (b, db'') := by
  show (StateT.bind x f) db = _ ↔ _
  simp only [StateT.bind]
  cases x db with
  | error e => simp [bind, Except.bind]
  | ok p =>
    obtain ⟨a, db'⟩ := p
    simp [bind, Except.bind]

theorem lift_eq_ok {x : Except JournalError α} {a : α} :
    (liftM x : JournalTx α) db = .ok (a, db') ↔ x = .ok a ∧ db' = db := by
  cases x with
  | error e => simp [liftM, monadLift, MonadLift.monadLift, StateT.lift, bind, Except.bind]
  | ok v =>
    simp [liftM, monadLift, MonadLift.monadLift, StateT.lift, bind, Except.bind, pure,
      Except.pure]
    exact fun _ => eq_comm

theorem pure_eq_ok {a b : α} : (pure a : JournalTx α) db = .ok (b, db') ↔ a = b ∧ db = db' := by
  simp [pure, StateT.pure, Except.pure]

theorem fail_ne_ok {e : JournalError} {a : α} : fail e db ≠ .ok (a, db') := by
  simp [fail]

theorem fail_bind_ne_ok {e : JournalError} {f : α → JournalTx β} {b : β} :
    (fail e >>= f) db ≠ .ok (b, db') := by
  intro h
  obtain ⟨_, _, h, -⟩ := bind_eq_ok.1 h
  exact fail_ne_ok h

theorem read_eq_ok {f : Database → Except JournalError α} {a : α} :
    read f db = .ok (a, db') ↔ f db = .ok a ∧ db' = db := by
  unfold read
  cases f db <;> simp [Except.map, eq_comm]

theorem read_db {f : Database → Except JournalError α} {a : α} (h : read f db = .ok (a, db')) :
    db' = db :=
  (read_eq_ok.1 h).2

end JournalTx

namespace Store

variable {α : Type} {s s' : Store} {timeoutMs : Nat} {work : JournalTx α} {v : α}

/-- An attempt commits exactly when the port lets it and the work succeeds; the store it
leaves is the one it started from with the work's database. -/
theorem attempt_eq_ok_iff {fault : AttemptFault} :
    s.attempt fault timeoutMs work = .ok (v, s') ↔
      fault = .none ∧ ∃ db', work s.db = .ok (v, db') ∧ s' = { s with db := db' } := by
  unfold attempt
  cases hw : work s.db with
  | error e => cases fault <;> simp
  | ok p =>
    obtain ⟨w, db'⟩ := p
    cases fault with
    | none =>
      simp only [Except.ok.injEq, Prod.mk.injEq, true_and]
      constructor
      · rintro ⟨rfl, rfl⟩; exact ⟨db', ⟨rfl, rfl⟩, rfl⟩
      · rintro ⟨_, ⟨rfl, rfl⟩, rfl⟩; exact ⟨rfl, rfl⟩
    | _ => simp

theorem attempt_of_error {fault : AttemptFault} {e : JournalError} (hf : fault ≠ .locked)
    (hw : work s.db = .error e) : s.attempt fault timeoutMs work = .error e := by
  unfold attempt
  cases fault <;> simp_all

end Store

namespace Journal

section Attempts

variable {α : Type} (port : Nat → AttemptFault) (s : Store) (settings : JournalSettings)
  (work : JournalTx α)

/-- How a call ran its transaction: it made `n` attempts, between one and the policy's number
of attempts (at least one), each running the work at most once on the store as the call found
it; every attempt before the last failed with a conflict, so a timeout or a refused request
ends the call at its own attempt; and the call gives the last attempt's outcome. -/
def RetriedAtomically : Prop :=
  let n := (runAttempts port s settings work).2
  let attempt := fun k => s.attempt (port k) settings.transactionTimeoutMs work
  1 ≤ n ∧ n ≤ max settings.retry.maxAttempts 1 ∧
    (∀ k, 1 ≤ k → k < n → ∃ e, attempt k = .error e ∧ e.category = .conflict) ∧
    (runAttempts port s settings work).1 = retryOutcome n (attempt n)

theorem not_decisive_iff {r : Except JournalError (α × Store)} :
    ¬ Decisive r ↔ ∃ e, r = .error e ∧ e.category = .conflict := by
  cases r <;> simp [Decisive, JournalError.isRetryable]

theorem runAttempts_retriedAtomically : RetriedAtomically port s settings work := by
  obtain ⟨h1, h2, h3, -, h5⟩ := withRetry_spec
    (fun n => s.attempt (port n) settings.transactionTimeoutMs work) settings.retry
  exact ⟨h1, h2, fun k hk hkn => not_decisive_iff.1 (h3 k hk hkn), h5⟩

/-- A call that succeeds committed its last attempt: the store it gives is the one it started
from with the database of one run of the work. -/
theorem runAttempts_eq_ok {v : α} {s' : Store} (h : (runAttempts port s settings work).1 = .ok (v, s')) :
    ∃ db', work s.db = .ok (v, db') ∧ s' = { s with db := db' } :=
  (Store.attempt_eq_ok_iff.1 ((withRetry_eq_ok_iff _ settings.retry _).1 h)).2

theorem runAttempts_of_ok {v : α} {db' : Database} (hport : port 1 = .none)
    (hw : work s.db = .ok (v, db')) :
    (runAttempts port s settings work).1 = .ok (v, { s with db := db' }) := by
  have hatt : s.attempt (port 1) settings.transactionTimeoutMs work =
      .ok (v, { s with db := db' }) :=
    Store.attempt_eq_ok_iff.2 ⟨hport, db', hw, rfl⟩
  unfold runAttempts withRetry
  rw [retryFrom_of_decisive _ _ (by rw [hatt]; trivial), hatt]
  rfl

end Attempts

/-! ### The works of the writes -/

open JournalTx

/-- Planning a trade read its account, found its candle and no live trade of its bias on the
candle, planned it and inserted it. -/
theorem planWork_eq_ok {plan : TradePlan} {id : Uuid} {now : Instant} {db db' : Database}
    {t : Trade} (h : planWork plan id now db = .ok (t, db')) :
    ∃ account trades, loadAccount plan.accountId db = .ok (account, db) ∧
      candleExists plan.candleId db = .ok (true, db) ∧
      tradesForAccountCandle plan.accountId plan.candleId db = .ok (trades, db) ∧
      trades.find? (fun t => t.bias == plan.bias && t.terminal.isNone) = none ∧
      planTrade account plan id now = .ok t ∧ insertTrade t db = .ok ((), db') := by
  simp only [planWork, bind_eq_ok] at h
  obtain ⟨account, db₁, hacc, found, db₂, hex, h⟩ := h
  obtain rfl := read_db hacc
  obtain rfl := read_db hex
  split_ifs at h with hc
  · exact absurd h fail_bind_ne_ok
  simp only [bind_eq_ok] at h
  obtain ⟨trades, db₃, htr, h⟩ := h
  obtain rfl := read_db htr
  cases hfind : trades.find? (fun t => t.bias == plan.bias && t.terminal.isNone) with
  | some existing =>
    simp only [hfind] at h
    exact absurd h fail_ne_ok
  | none =>
    simp only [hfind, bind_eq_ok, lift_eq_ok, pure_eq_ok] at h
    obtain ⟨t', db₄, ⟨hplan, rfl⟩, u, db₅, hins, rfl, rfl⟩ := h
    refine ⟨account, trades, hacc, ?_, htr, hfind, hplan, hins⟩
    simp only [Bool.not_eq_true', Bool.not_eq_false] at hc
    rwa [hc] at hex

/-- Planning commits the planned trade when its reads find the account, the candle and no live
trade of the plan's bias, and the plan passes its checks. -/
theorem planWork_of_ok {plan : TradePlan} {id : Uuid} {now : Instant} {db db' : Database}
    {account : Account} {trades : List Trade} {t : Trade}
    (hacc : loadAccount plan.accountId db = .ok (account, db))
    (hc : candleExists plan.candleId db = .ok (true, db))
    (htr : tradesForAccountCandle plan.accountId plan.candleId db = .ok (trades, db))
    (hnone : trades.find? (fun t => t.bias == plan.bias && t.terminal.isNone) = none)
    (hplan : planTrade account plan id now = .ok t) (hins : insertTrade t db = .ok ((), db')) :
    planWork plan id now db = .ok (t, db') := by
  unfold planWork
  refine bind_eq_ok.2 ⟨account, db, hacc, bind_eq_ok.2 ⟨true, db, hc, ?_⟩⟩
  refine bind_eq_ok.2 ⟨trades, db, htr, ?_⟩
  simp only [hnone]
  exact bind_eq_ok.2 ⟨t, db, lift_eq_ok.2 ⟨hplan, rfl⟩,
    bind_eq_ok.2 ⟨(), db', hins, pure_eq_ok.2 ⟨rfl, rfl⟩⟩⟩

/-- A fill that passes its checks: the trade carries no marker, its history derives a state
that is not closed and takes the fill's kind, price and size are positive, the fill is not
older than the history's latest, its size fits the position and an entry is close enough to
the planned price. The execution stored is the request's fill on the trade, at the request's
instant cut to microseconds. -/
theorem checkFill_eq_ok {slip : Decimal} {r : ExecutionRequest} {id : Uuid} {trade : Trade}
    {history : List Execution} {e : Execution} (h : checkFill slip r id trade history = .ok e) :
    ∃ state pnl, checkUnmarked trade = .ok () ∧ TradeState.derive none history = .ok state ∧
      checkNotClosed state = .ok () ∧ state.ensureTransition r.kind history.length = .ok () ∧
      Risk.requirePositive "price" r.price = .ok () ∧
      Risk.requirePositive "position size" r.positionSize = .ok () ∧
      checkNotEarlier r.executedAt.truncMicros history = .ok () ∧
      Lifecycle.validateSize r.kind r.positionSize trade.plannedPositionSize history = .ok () ∧
      checkSlippage slip trade r = .ok () ∧ fillPnl trade history r = .ok pnl ∧
      e = ⟨id, trade.id, r.kind, r.price, r.positionSize, pnl.map (·.money), pnl.map (·.pips),
        r.executedAt.truncMicros, r.reason.filter fun t => !(trimBlank t).isEmpty⟩ := by
  simp only [checkFill, except_bind_eq_ok] at h
  obtain ⟨⟨⟩, hm, state, hs, ⟨⟩, hc, ⟨⟩, ht, ⟨⟩, hp, ⟨⟩, hz, ⟨⟩, hn, ⟨⟩, hv, ⟨⟩, hsl, pnl,
    hpnl, he⟩ := h
  exact ⟨state, pnl, hm, hs, hc, ht, hp, hz, hn, hv, hsl, hpnl, (Except.ok.inj he).symm⟩

/-- Recording a fill loaded its trade and the trade's history, checked the fill against them
and inserted it. -/
theorem appendExecution_eq_ok {slip : Decimal} {r : ExecutionRequest} {id : Uuid}
    {db db' : Database} {e : Execution} (h : appendExecution slip r id db = .ok (e, db')) :
    ∃ trade history, loadTrade r.tradeId db = .ok (trade, db) ∧
      loadExecutions trade.id db = .ok (history, db) ∧
      checkFill slip r id trade history = .ok e ∧ insertExecution e db = .ok ((), db') := by
  simp only [appendExecution, bind_eq_ok, lift_eq_ok, pure_eq_ok] at h
  obtain ⟨trade, db₁, htrade, history, db₂, hhist, e', db₃, ⟨hfill, rfl⟩, u, db₄, hins,
    rfl, rfl⟩ := h
  obtain rfl := read_db htrade
  obtain rfl := read_db hhist
  exact ⟨trade, history, htrade, hhist, hfill, hins⟩

theorem appendExecution_of_ok {slip : Decimal} {r : ExecutionRequest} {id : Uuid}
    {db db' : Database} {trade : Trade} {history : List Execution} {e : Execution}
    (htrade : loadTrade r.tradeId db = .ok (trade, db))
    (hhist : loadExecutions trade.id db = .ok (history, db))
    (hfill : checkFill slip r id trade history = .ok e)
    (hins : insertExecution e db = .ok ((), db')) :
    appendExecution slip r id db = .ok (e, db') :=
  bind_eq_ok.2 ⟨trade, db, htrade, bind_eq_ok.2 ⟨history, db, hhist,
    bind_eq_ok.2 ⟨e, db, lift_eq_ok.2 ⟨hfill, rfl⟩,
      bind_eq_ok.2 ⟨(), db', hins, pure_eq_ok.2 ⟨rfl, rfl⟩⟩⟩⟩⟩

/-- Marking a trade loaded it, found it unmarked and without executions, and set its marker;
the trade it gives is the stored one with the new marker. -/
theorem markWork_eq_ok {tradeId : Uuid} {record : TerminalRecord} {db db' : Database}
    {t : Trade} (h : markWork tradeId record db = .ok (t, db')) :
    ∃ trade history, loadTrade tradeId db = .ok (trade, db) ∧ checkUnmarked trade = .ok () ∧
      loadExecutions tradeId db = .ok (history, db) ∧ history = [] ∧
      JournalTx.setTerminalMarker tradeId record db = .ok ((), db') ∧
      t = { trade with terminal := some record } := by
  simp only [markWork, bind_eq_ok, lift_eq_ok, pure_eq_ok] at h
  obtain ⟨trade, db₁, htrade, ⟨⟩, db₂, ⟨hm, rfl⟩, history, db₃, hhist, ⟨⟩, db₄, ⟨hn, rfl⟩,
    u, db₅, hset, rfl, rfl⟩ := h
  obtain rfl := read_db htrade
  obtain rfl := read_db hhist
  have hempty : history = [] := by
    simpa [checkNoExecutions] using hn
  exact ⟨trade, history, htrade, hm, hhist, hempty, hset, rfl⟩

theorem checkUnmarked_eq_ok {trade : Trade} : checkUnmarked trade = .ok () ↔ trade.marker = none := by
  unfold checkUnmarked
  cases trade.marker <;> simp

/-! ### Committed writes -/

/-- The store a committed call leaves: the store it started from, with the database that one
run of `write` on the store's database gives. -/
def CommitsOnce (s s' : Store) (write : JournalTx Unit) : Prop :=
  ∃ db', write s.db = .ok ((), db') ∧ s' = { s with db := db' }

/-- Every write of the journal, under any port and from any store, runs its transaction
atomically and with retries only after conflicts (`RetriedAtomically`); and a call that
succeeds with `v` leaves the store it started from with exactly one write of `v`: the new
account, the new trade, the fill appended to the trade it was recorded on, or the marker set
on a trade that had none, the trade given back being the stored one with that marker. A call
that fails gives no store: the caller keeps the one it had. -/
theorem committed_write_is_one_write (port : Nat → AttemptFault) (s : Store)
    (settings : JournalSettings) :
    (∀ {α : Type} (work : JournalTx α), RetriedAtomically port s settings work) ∧
    (∀ a id now account s', createAccountUnder port s settings a id now = .ok (account, s') →
      CommitsOnce s s' (insertAccount account)) ∧
    (∀ plan id now trade s', createTradeUnder port s settings plan id now = .ok (trade, s') →
      CommitsOnce s s' (insertTrade trade)) ∧
    (∀ r id e s', recordExecutionUnder port s settings r id = .ok (e, s') →
      ∃ trade, loadTrade r.tradeId s.db = .ok (trade, s.db) ∧ e.tradeId = trade.id ∧
        CommitsOnce s s' (insertExecution e)) ∧
    (∀ tradeId marker reason now t s',
      setTerminalMarkerUnder port s settings tradeId marker reason now = .ok (t, s') →
      ∃ trade record, loadTrade tradeId s.db = .ok (trade, s.db) ∧ trade.marker = none ∧
        t = { trade with terminal := some record } ∧
        CommitsOnce s s' (JournalTx.setTerminalMarker tradeId record)) := by
  refine ⟨fun work => runAttempts_retriedAtomically port s settings work, ?account, ?trade,
    ?fill, ?mark⟩
  case account =>
    intro a id now account s' h
    simp only [createAccountUnder, except_bind_eq_ok] at h
    obtain ⟨account', -, ⟨⟨⟩, s''⟩, hrun, he⟩ := h
    obtain ⟨rfl, rfl⟩ := Prod.mk.inj (Except.ok.inj he)
    exact runAttempts_eq_ok port s settings _ hrun
  case trade =>
    intro plan id now trade s' h
    obtain ⟨db', hw, rfl⟩ := runAttempts_eq_ok port s settings _ h
    obtain ⟨-, -, -, -, -, -, -, hins⟩ := planWork_eq_ok hw
    exact ⟨db', hins, rfl⟩
  case fill =>
    intro r id e s' h
    obtain ⟨db', hw, rfl⟩ := runAttempts_eq_ok port s settings _ h
    obtain ⟨trade, history, htrade, -, hfill, hins⟩ := appendExecution_eq_ok hw
    obtain ⟨_, _, -, -, -, -, -, -, -, -, -, -, he⟩ := checkFill_eq_ok hfill
    exact ⟨trade, htrade, by rw [he], db', hins, rfl⟩
  case mark =>
    intro tradeId marker reason now t s' h
    unfold setTerminalMarkerUnder at h
    dsimp only at h
    split_ifs at h
    obtain ⟨db', hw, rfl⟩ := runAttempts_eq_ok port s settings _ h
    obtain ⟨trade, -, htrade, hm, -, -, hset, rfl⟩ := markWork_eq_ok hw
    exact ⟨trade, _, htrade, checkUnmarked_eq_ok.1 hm, rfl, db', hset, rfl⟩

/-- Opening an account in a fresh store commits the new account and nothing else. -/
theorem committed_write_is_one_write_opening_account :
    ∃ account s', createAccount Store.fresh JournalSettings.default
      ⟨"main", Decimal.ofMantissa 10000 0, 100, Decimal.ofMantissa 1 0, "UTC"⟩ (Uuid.ofNat 1)
      (Instant.epoch.addSeconds 1704067200) = .ok (account, s') ∧
      CommitsOnce Store.fresh s' (insertAccount account) := by
  have hok : (createAccount Store.fresh JournalSettings.default
      ⟨"main", Decimal.ofMantissa 10000 0, 100, Decimal.ofMantissa 1 0, "UTC"⟩ (Uuid.ofNat 1)
      (Instant.epoch.addSeconds 1704067200)).toOption.map (fun _ => ()) = some () := by
    decide +kernel
  obtain ⟨⟨account, s'⟩, hcall, -⟩ := exists_eq_ok_of_toOption hok
  exact ⟨account, s', hcall, (committed_write_is_one_write _ _ _).2.1 _ _ _ _ _ hcall⟩

end Journal

end ForexJournal
