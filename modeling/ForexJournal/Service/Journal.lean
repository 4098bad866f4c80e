import ForexJournal.Store.Journal
import ForexJournal.Config.Settings
import ForexJournal.Trade.Lifecycle
import ForexJournal.Text.Blank

/-!
# The journal's write operations and queries

Each operation runs as one transaction of the store, retried under the settings' policy while
it loses to another writer. A refused operation writes nothing: its transaction is rolled back,
and the store the caller holds is the one it had before.

Times are kept to the microsecond. Identifiers and the clock come from the caller, so an
operation is a function of the store and its arguments.
-/

namespace ForexJournal

/-- A fill as a trader reports it, before it is checked against the trade. -/
structure ExecutionRequest where
  tradeId : Uuid
  kind : ExecutionKind
  price : Decimal
  positionSize : Decimal
  executedAt : Instant
  reason : Option String

/-- A trade with its derived state, open size, realised profit and history. -/
structure TradeStatus where
  trade : Trade
  state : TradeState
  remainingPosition : Decimal
  realizedPnl : Decimal
  realizedPnlPips : Decimal
  executions : List Execution
  lastExecutionAt : Option Instant

/-- The latest of some instants. -/
def Instant.latest (ts : List Instant) : Option Instant :=
  ts.foldl (fun best t =>
    match best with
    | some b => if b.lt t then some t else some b
    | none => some t) none

/-- The status as a JSON object. -/
def TradeStatus.toJson (s : TradeStatus) : Json :=
  .obj [("trade", s.trade.toJson), ("state", .str s.state.name),
    ("remaining_position", .str s.remainingPosition.toText),
    ("realized_pnl", .str s.realizedPnl.toText),
    ("realized_pnl_pips", .str s.realizedPnlPips.toText),
    ("executions", .arr (s.executions.map Execution.toJson)),
    ("last_execution_at", Json.opt (fun t => .str t.toText) s.lastExecutionAt)]

namespace Journal

/-- Runs a transaction under the settings' retry policy and deadline, the port ending attempt
`n` (counted from 1) as `port n` says; gives the result and the number of attempts made. Every
attempt runs the work on the store as it was before the call. -/
def runAttempts {α : Type} (port : Nat → AttemptFault) (s : Store) (settings : JournalSettings)
    (work : JournalTx α) : Except JournalError (α × Store) × Nat :=
  withRetry settings.retry fun n => s.attempt (port n) settings.transactionTimeoutMs work

/-- The store's own port: every attempt ends as the store's lock and the deadline say. -/
def storePort (s : Store) (settings : JournalSettings) : Nat → AttemptFault :=
  fun _ => s.fault settings.transactionTimeoutMs

/-- Runs a transaction under the settings' retry policy and deadline. -/
def inTransaction {α : Type} (s : Store) (settings : JournalSettings) (work : JournalTx α) :
    Except JournalError (α × Store) :=
  (runAttempts (storePort s settings) s settings work).1

/-- Opens an account after checking its figures, the port ending attempts as `port` says. -/
def createAccountUnder (port : Nat → AttemptFault) (s : Store) (settings : JournalSettings)
    (a : NewAccount) (id : Uuid) (now : Instant) : Except JournalError (Account × Store) := do
  let account ← a.toAccount id now.truncMicros
  let ((), s') ← (runAttempts port s settings (JournalTx.insertAccount account)).1
  return (account, s')

def createAccount (s : Store) (settings : JournalSettings) (a : NewAccount) (id : Uuid)
    (now : Instant) : Except JournalError (Account × Store) :=
  createAccountUnder (storePort s settings) s settings a id now

/-- The transaction of `createTrade`: the account and the candle must exist, and the account
may hold only one live trade of each bias on a candle. -/
def planWork (plan : TradePlan) (id : Uuid) (now : Instant) : JournalTx Trade := do
  let account ← JournalTx.loadAccount plan.accountId
  if !(← JournalTx.candleExists plan.candleId) then
    JournalTx.fail (.notFound "candle" plan.candleId.toText)
  let trades ← JournalTx.tradesForAccountCandle plan.accountId plan.candleId
  match trades.find? fun t => t.bias == plan.bias && t.terminal.isNone with
  | some existing => JournalTx.fail (.duplicateTrade plan.bias existing.id)
  | none =>
    let trade ← (planTrade account plan id now : Except JournalError Trade)
    JournalTx.insertTrade trade
    return trade

/-- Plans, sizes and stores a trade, the port ending attempts as `port` says. -/
def createTradeUnder (port : Nat → AttemptFault) (s : Store) (settings : JournalSettings)
    (plan : TradePlan) (id : Uuid) (now : Instant) : Except JournalError (Trade × Store) :=
  (runAttempts port s settings (planWork plan id now.truncMicros)).1

/-- Plans, sizes and stores a trade against the account's current figures. -/
def createTrade (s : Store) (settings : JournalSettings) (plan : TradePlan) (id : Uuid)
    (now : Instant) : Except JournalError (Trade × Store) :=
  createTradeUnder (storePort s settings) s settings plan id now

/-- The profit of a fill, if it closes. -/
def fillPnl (trade : Trade) (history : List Execution) (r : ExecutionRequest) :
    Except JournalError (Option Risk.Pnl) :=
  if r.kind.isClosing then
    some <$> Risk.pnl trade.bias history r.price r.positionSize pipSize contractSize
  else .ok none

/-- Refuses a trade that carries a marker. -/
def checkUnmarked (trade : Trade) : Except JournalError Unit :=
  match trade.marker with
  | some m => .error (.terminalTrade (.ofMarker m))
  | none => .ok ()

def checkNotClosed (state : TradeState) : Except JournalError Unit :=
  if state.isTerminal then .error (.terminalTrade state) else .ok ()

/-- Refuses a fill older than the latest fill of the history. -/
def checkNotEarlier (executedAt : Instant) (history : List Execution) : Except JournalError Unit :=
  match Instant.latest (history.map (·.executedAt)) with
  | some latest =>
    if executedAt.lt latest then
      .error (.invalid "executed_at" (executedAt.toMessageText ++
        " precedes the latest execution at " ++ latest.toMessageText))
    else .ok ()
  | none => .ok ()

/-- Refuses an entry too far from the planned price; other kinds pass. -/
def checkSlippage (maxSlippagePips : Decimal) (trade : Trade) (r : ExecutionRequest) :
    Except JournalError Unit :=
  if r.kind == .entry then Risk.checkEntryPrice trade.plannedEntry r.price pipSize maxSlippagePips
  else .ok ()

/-- Checks a fill against its trade and history and gives the execution to store. The checks,
in order: the trade has no marker and is not closed, the state takes this kind of fill, price
and size are positive, the fill is not older than the latest one, the size fits what is open,
and an entry is close enough to the planned price. -/
def checkFill (maxSlippagePips : Decimal) (r : ExecutionRequest) (id : Uuid) (trade : Trade)
    (history : List Execution) : Except JournalError Execution := do
  checkUnmarked trade
  let state ← TradeState.derive none history
  checkNotClosed state
  TradeState.ensureTransition state r.kind history.length
  Risk.requirePositive "price" r.price
  Risk.requirePositive "position size" r.positionSize
  let executedAt := r.executedAt.truncMicros
  checkNotEarlier executedAt history
  Lifecycle.validateSize r.kind r.positionSize trade.plannedPositionSize history
  checkSlippage maxSlippagePips trade r
  let pnl ← fillPnl trade history r
  return {
    id, tradeId := trade.id, kind := r.kind, price := r.price, positionSize := r.positionSize,
    pnl := pnl.map (·.money), pnlPips := pnl.map (·.pips), executedAt,
    reason := r.reason.filter fun t => !(trimBlank t).isEmpty }

/-- Loads a fill's trade and history, checks the fill against them and appends it. -/
def appendExecution (maxSlippagePips : Decimal) (r : ExecutionRequest) (id : Uuid) :
    JournalTx Execution := do
  let trade ← JournalTx.loadTrade r.tradeId
  let history ← JournalTx.loadExecutions trade.id
  let e ← (checkFill maxSlippagePips r id trade history : Except JournalError Execution)
  JournalTx.insertExecution e
  return e

/-- Checks a fill against the trade's history and appends it, the port ending attempts as
`port` says. -/
def recordExecutionUnder (port : Nat → AttemptFault) (s : Store) (settings : JournalSettings)
    (r : ExecutionRequest) (id : Uuid) : Except JournalError (Execution × Store) :=
  (runAttempts port s settings (appendExecution settings.maxEntrySlippagePips r id)).1

/-- Checks a fill against the trade's history and appends it. -/
def recordExecution (s : Store) (settings : JournalSettings) (r : ExecutionRequest) (id : Uuid) :
    Except JournalError (Execution × Store) :=
  recordExecutionUnder (storePort s settings) s settings r id

def checkNoExecutions (history : List Execution) : Except JournalError Unit :=
  if history.isEmpty then .ok () else .error (.hasExecutions history.length)

/-- The transaction of `setTerminalMarker`. -/
def markWork (tradeId : Uuid) (record : TerminalRecord) : JournalTx Trade := do
  let trade ← JournalTx.loadTrade tradeId
  (checkUnmarked trade : Except JournalError Unit)
  let history ← JournalTx.loadExecutions tradeId
  (checkNoExecutions history : Except JournalError Unit)
  JournalTx.setTerminalMarker tradeId record
  return { trade with terminal := some record }

/-- Cancels or invalidates a trade that was never filled, the port ending attempts as `port`
says; the reason is trimmed and must not be empty. -/
def setTerminalMarkerUnder (port : Nat → AttemptFault) (s : Store) (settings : JournalSettings)
    (tradeId : Uuid) (marker : TerminalMarker) (reason : String) (now : Instant) :
    Except JournalError (Trade × Store) :=
  let reason := trimBlank reason
  if reason.isEmpty then .error (.invalid "reason" "must not be empty")
  else (runAttempts port s settings (markWork tradeId ⟨marker, reason, now.truncMicros⟩)).1

/-- Cancels or invalidates a trade that was never filled; the reason is trimmed and must not
be empty. -/
def setTerminalMarker (s : Store) (settings : JournalSettings) (tradeId : Uuid)
    (marker : TerminalMarker) (reason : String) (now : Instant) :
    Except JournalError (Trade × Store) :=
  setTerminalMarkerUnder (storePort s settings) s settings tradeId marker reason now

/-- The state of a trade. -/
def tradeState (s : Store) (settings : JournalSettings) (tradeId : Uuid) :
    Except JournalError TradeState :=
  (·.1) <$> inTransaction s settings (do
    let trade ← JournalTx.loadTrade tradeId
    let history ← JournalTx.loadExecutions tradeId
    (TradeState.derive trade.marker history : Except JournalError TradeState))

/-- A sum that fails with an invalid `field` when it leaves the decimal range. -/
def checkedTotal (field : String) (values : List Decimal) : Except JournalError Decimal :=
  values.foldlM (fun acc v => Risk.inRange field (acc.checkedAdd v)) Decimal.zero

/-- The status of a trade: nothing is open once it is cancelled or invalidated. -/
def statusWork (tradeId : Uuid) : JournalTx TradeStatus := do
  let trade ← JournalTx.loadTrade tradeId
  let executions ← JournalTx.loadExecutions tradeId
  let state ← (TradeState.derive trade.marker executions : Except JournalError TradeState)
  let remaining ← match state with
    | .cancelled | .invalidated => pure Decimal.zero
    | _ => (Lifecycle.remainingPosition trade.plannedPositionSize executions :
        Except JournalError Decimal)
  let pnl ← (checkedTotal "realized pnl" (executions.filterMap (·.pnl)) :
    Except JournalError Decimal)
  let pips ← (checkedTotal "realized pnl pips" (executions.filterMap (·.pnlPips)) :
    Except JournalError Decimal)
  return ⟨trade, state, remaining, pnl, pips, executions,
    Instant.latest (executions.map (·.executedAt))⟩

def tradeStatus (s : Store) (settings : JournalSettings) (tradeId : Uuid) :
    Except JournalError TradeStatus :=
  (·.1) <$> inTransaction s settings (statusWork tradeId)

end Journal

end ForexJournal
