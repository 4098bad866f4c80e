import ForexJournal.Trade.Risk
import ForexJournal.Json
import ForexJournal.Decimal.Text

/-!
# Accounts and planned trades

An account holds a balance, a leverage and the largest share of the balance a single trade may
risk. Planning a trade checks the geometry, the risk share, the stop's length in pips and the
reward to risk; it then sizes the position from the money at risk, cuts it down to whole lot
steps, and refuses a size of zero or one above the leverage cap. The planned trade carries a
copy of the account's figures, the reward to risk rounded to two places and the money at
risk rounded to cents.
-/

namespace ForexJournal

/-- A trading account. -/
structure Account where
  id : Uuid
  name : String
  balance : Decimal
  leverage : Nat
  maxRiskPct : Decimal
  timezone : String
  createdAt : Instant
  deriving DecidableEq

/-- The figures of a new account, before they are checked. -/
structure NewAccount where
  name : String
  balance : Decimal
  leverage : Nat
  maxRiskPct : Decimal
  timezone : String

/-- Checks the figures of a new account: a positive balance and leverage, and a risk share
in `(0, 100]`. -/
def NewAccount.toAccount (a : NewAccount) (id : Uuid) (now : Instant) :
    Except JournalError Account :=
  if a.balance.isNonPositive then .error (.invalid "balance" "must be positive")
  else if a.leverage = 0 then .error (.invalid "leverage" "must be positive")
  else if a.maxRiskPct.isNonPositive || hundred.lt a.maxRiskPct then
    .error (.invalid "max risk percentage" "must be greater than 0 and at most 100")
  else .ok ⟨id, a.name, a.balance, a.leverage, a.maxRiskPct, a.timezone, now⟩

/-- The account's figures as they stood when a trade was planned. -/
structure AccountSnapshot where
  balance : Decimal
  leverage : Nat
  maxRiskPct : Decimal
  timezone : String
  deriving DecidableEq

def Account.snapshot (a : Account) : AccountSnapshot :=
  ⟨a.balance, a.leverage, a.maxRiskPct, a.timezone⟩

/-- The marker that ended a trade, why, and when. -/
structure TerminalRecord where
  marker : TerminalMarker
  reason : String
  markedAt : Instant
  deriving DecidableEq

/-- A planned trade. -/
structure Trade where
  id : Uuid
  accountId : Uuid
  candleId : Uuid
  symbol : String
  timeframe : Timeframe
  bias : Bias
  setup : AccountSnapshot
  plannedEntry : Decimal
  plannedSl : Decimal
  plannedTp : Decimal
  plannedRr : Decimal
  plannedRiskPct : Decimal
  plannedRiskAmount : Decimal
  plannedPositionSize : Decimal
  reason : String
  createdAt : Instant
  terminal : Option TerminalRecord
  deriving DecidableEq

def Trade.marker (t : Trade) : Option TerminalMarker := t.terminal.map (·.marker)

/-- A trader's setup before any risk arithmetic. -/
structure TradePlan where
  accountId : Uuid
  candleId : Uuid
  bias : Bias
  plannedEntry : Decimal
  plannedSl : Decimal
  plannedTp : Decimal
  plannedRiskPct : Decimal
  reason : String

/-- Checks a plan against an account and sizes the trade (see the module note). -/
def planTrade (account : Account) (plan : TradePlan) (id : Uuid) (now : Instant) :
    Except JournalError Trade := do
  Risk.validateGeometry plan.plannedEntry plan.plannedSl plan.plannedTp plan.bias
  if plan.plannedRiskPct.isNonPositive then
    throw (.invalid "planned risk" "must be positive")
  if account.maxRiskPct.lt plan.plannedRiskPct then
    throw (.riskExceeded ("planned risk " ++ plan.plannedRiskPct.toText ++
      "% exceeds account max " ++ account.maxRiskPct.toText ++ "%"))
  let distance ← Risk.stopDistance plan.plannedEntry plan.plannedSl
  let stopPips ← Risk.stopDistancePips distance pipSize
  if stopPips.lt minStopPips || maxStopPips.lt stopPips then
    throw (.geometry ("stop distance " ++ stopPips.toText ++ " pips outside " ++
      minStopPips.toText ++ "..=" ++ maxStopPips.toText ++ " pips"))
  let rr ← Risk.rewardRisk plan.plannedEntry plan.plannedSl plan.plannedTp plan.bias
  if rr.lt minRewardRisk then
    throw (.riskExceeded ("RR " ++ (rr.roundDp rewardRiskPlaces).toText ++
      " is below the minimum of " ++ minRewardRisk.toText))
  let amount ← Risk.riskAmount account.balance plan.plannedRiskPct
  let rawSize ← Risk.positionSize amount stopPips pipValuePerLot
  let size := rawSize.roundTo lotStep.scale .towardZero
  if size.isZero then
    throw (.riskExceeded ("position size " ++ rawSize.toText ++ " lots is below the minimum of " ++
      lotStep.toText ++ " lots"))
  let cap ← Risk.maxPositionSize account.balance account.leverage contractSize
  if cap.lt size then
    throw (.riskExceeded ("position size " ++ size.toText ++ " lots exceeds leverage limit " ++
      cap.toText ++ " lots"))
  return {
    id, accountId := account.id, candleId := plan.candleId, symbol := symbolEurUsd,
    timeframe := .weekly, bias := plan.bias, setup := account.snapshot,
    plannedEntry := plan.plannedEntry, plannedSl := plan.plannedSl, plannedTp := plan.plannedTp,
    plannedRr := rr.roundDp rewardRiskPlaces, plannedRiskPct := plan.plannedRiskPct,
    plannedRiskAmount := amount.roundDp moneyPlaces, plannedPositionSize := size,
    reason := plan.reason, createdAt := now, terminal := none }

/-- The account as a JSON object. -/
def Account.toJson (a : Account) : Json :=
  .obj [("id", .str a.id.toText), ("name", .str a.name), ("balance", .str a.balance.toText),
    ("leverage", .num a.leverage), ("max_risk_pct", .str a.maxRiskPct.toText),
    ("timezone", .str a.timezone), ("created_at", .str a.createdAt.toText)]

def AccountSnapshot.toJson (a : AccountSnapshot) : Json :=
  .obj [("balance", .str a.balance.toText), ("leverage", .num a.leverage),
    ("max_risk_pct", .str a.maxRiskPct.toText), ("timezone", .str a.timezone)]

def TerminalRecord.toJson (r : TerminalRecord) : Json :=
  .obj [("marker", .str r.marker.name), ("reason", .str r.reason),
    ("marked_at", .str r.markedAt.toText)]

/-- The trade as a JSON object. -/
def Trade.toJson (t : Trade) : Json :=
  let dec (d : Decimal) : Json := .str d.toText
  .obj [("id", .str t.id.toText), ("account_id", .str t.accountId.toText),
    ("candle_id", .str t.candleId.toText), ("symbol", .str t.symbol),
    ("timeframe", .str t.timeframe.name), ("bias", .str t.bias.name), ("setup", t.setup.toJson),
    ("planned_entry", dec t.plannedEntry), ("planned_sl", dec t.plannedSl),
    ("planned_tp", dec t.plannedTp), ("planned_rr", dec t.plannedRr),
    ("planned_risk_pct", dec t.plannedRiskPct), ("planned_risk_amount", dec t.plannedRiskAmount),
    ("planned_position_size", dec t.plannedPositionSize), ("reason", .str t.reason),
    ("created_at", .str t.createdAt.toText), ("terminal", Json.opt TerminalRecord.toJson t.terminal)]

end ForexJournal
