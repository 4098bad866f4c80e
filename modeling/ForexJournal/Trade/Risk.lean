import ForexJournal.Trade.Lifecycle

/-!
# Risk arithmetic

The calculators of a trade: stop distance in price and in pips, position size, reward to
risk, the money at risk, the leverage cap, the distance of a fill from its planned entry,
and the profit of a closing fill. Each checks its own inputs; a result too wide for a decimal
is refused as an invalid input naming the quantity.

`validateGeometry` alone decides whether entry, stop and target lie the right way round
for the bias.
-/

namespace ForexJournal

namespace Risk

def requirePositive (field : String) (v : Decimal) : Except JournalError Unit :=
  if v.isNonPositive then .error (.invalid field "must be positive") else .ok ()

/-- Turns an overflowed result into an invalid input on `field`. -/
def inRange (field : String) : Option Decimal → Except JournalError Decimal
  | some d => .ok d
  | none => .error (.invalid field "exceeds the representable decimal range")

def requirePositivePrices (ps : List Decimal) : Except JournalError Unit :=
  if ps.any (·.isNonPositive) then .error (.geometry "all prices must be positive") else .ok ()

/-- Long: stop below entry below target. Short: target below entry below stop. -/
def validateGeometry (entry sl tp : Decimal) (bias : Bias) : Except JournalError Unit := do
  requirePositivePrices [entry, sl, tp]
  match bias with
  | .long =>
    if entry.le sl then .error (.geometry "long trade: sl must be below entry")
    else if tp.le entry then .error (.geometry "long trade: tp must be above entry")
    else .ok ()
  | .short =>
    if sl.le entry then .error (.geometry "short trade: sl must be above entry")
    else if entry.le tp then .error (.geometry "short trade: tp must be below entry")
    else .ok ()

/-- The distance between entry and stop, in price. -/
def stopDistance (entry sl : Decimal) : Except JournalError Decimal := do
  requirePositivePrices [entry, sl]
  let d := (entry.sub sl).abs
  if d.isZero then .error (.geometry "entry and sl cannot be equal") else .ok d

/-- A price distance in pips. -/
def stopDistancePips (distance pip : Decimal) : Except JournalError Decimal := do
  requirePositive "pip size" pip
  requirePositive "stop distance" distance
  inRange "stop distance" (distance.checkedDiv pip)

/-- The lots that lose `risk` over a stop of `stopPips` pips at `pipValue` per pip and lot. -/
def positionSize (risk stopPips pipValue : Decimal) : Except JournalError Decimal := do
  requirePositive "risk amount" risk
  requirePositive "stop distance" stopPips
  requirePositive "pip value per lot" pipValue
  let stopValue ← inRange "stop distance" (stopPips.checkedMul pipValue)
  inRange "position size" (risk.checkedDiv stopValue)

/-- Reward over risk: long `(tp - entry) / (entry - sl)`, short `(entry - tp) / (sl - entry)`. -/
def rewardRisk (entry sl tp : Decimal) (bias : Bias) : Except JournalError Decimal := do
  requirePositivePrices [entry, sl, tp]
  let (reward, risk) := match bias with
    | .long => (tp.sub entry, entry.sub sl)
    | .short => (entry.sub tp, sl.sub entry)
  if risk.isNonPositive then .error (.geometry "risk must be positive")
  else
    let rr ← inRange "RR" (reward.checkedDiv risk)
    if rr.isNonPositive then .error (.geometry "RR must be positive") else .ok rr

/-- The money at risk: `balance * pct / 100`, for a percentage in `(0, 100]`. -/
def riskAmount (balance pct : Decimal) : Except JournalError Decimal := do
  requirePositive "balance" balance
  if pct.isNonPositive || hundred.lt pct then
    .error (.invalid "risk percentage" "must be greater than 0 and at most 100")
  else
    let scaled ← inRange "balance" (balance.checkedMul pct)
    inRange "risk amount" (scaled.checkedDiv hundred)

/-- The most lots the leverage allows: `balance * leverage / contract`. -/
def maxPositionSize (balance : Decimal) (leverage : Nat) (contract : Decimal) :
    Except JournalError Decimal := do
  requirePositive "balance" balance
  if leverage = 0 then .error (.invalid "leverage" "must be positive")
  else
    requirePositive "contract size" contract
    let notional ← inRange "balance" (balance.checkedMul (Decimal.ofSmallNat leverage))
    inRange "max position size" (notional.checkedDiv contract)

/-- Refuses a fill further than `maxPips` pips from the planned entry, either way. -/
def checkEntryPrice (planned actual pip maxPips : Decimal) : Except JournalError Unit := do
  requirePositivePrices [planned, actual]
  requirePositive "pip size" pip
  let slippage ← inRange "entry price" ((actual.sub planned).abs.checkedDiv pip)
  if maxPips.lt slippage then .error (.slippageExceeded slippage maxPips) else .ok ()

/-- Profit of a closing fill, in money and in pips. -/
structure Pnl where
  money : Decimal
  pips : Decimal
  deriving DecidableEq

/-- The profit of closing `size` lots at `close`, measured from the first entry's fill. -/
def pnl (bias : Bias) (h : List Execution) (close size pip contract : Decimal) :
    Except JournalError Pnl := do
  requirePositive "pip size" pip
  requirePositive "close price" close
  let entry ← Lifecycle.actualEntryPrice h
  let move := match bias with
    | .long => close.sub entry
    | .short => entry.sub close
  let pips ← inRange "pnl" (move.checkedDiv pip)
  let money ← inRange "pnl" ((pips.checkedMul pip).bind (·.checkedMul size) |>.bind
    (·.checkedMul contract))
  .ok ⟨money, pips⟩

end Risk

end ForexJournal
