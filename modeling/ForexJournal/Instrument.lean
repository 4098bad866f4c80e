import ForexJournal.Decimal.Arith
import ForexJournal.Error

/-!
# The traded instrument

The journal trades one currency pair, EURUSD: a pip is 0.0001, a lot is 100000 units, so a
pip on one lot is worth 10. Positions are sized in steps of 0.01 lot. Stops lie between 5
and 500 pips, and a plan needs a reward of at least 1.5 times its risk. Candles come in
weekly, daily and four-hour timeframes.
-/

namespace ForexJournal

def symbolEurUsd : String := "EURUSD"

def pipSize : Decimal := Decimal.ofMantissa 1 4

def contractSize : Decimal := Decimal.ofMantissa 100000 0

def pipValuePerLot : Decimal := Decimal.ofMantissa 10 0

def lotStep : Decimal := Decimal.ofMantissa 1 2

/-- The default largest distance of a fill from the planned entry, 20 pips. -/
def defaultMaxEntrySlippagePips : Decimal := Decimal.ofMantissa 20 0

def minStopPips : Decimal := Decimal.ofMantissa 5 0

def maxStopPips : Decimal := Decimal.ofMantissa 500 0

def minRewardRisk : Decimal := Decimal.ofMantissa 15 1

def rewardRiskPlaces : Nat := 2

def moneyPlaces : Nat := 2

def hundred : Decimal := Decimal.ofMantissa 100 0

/-- The period of a candle. -/
inductive Timeframe where
  | weekly
  | daily
  | fourHour
  deriving DecidableEq, Repr, Inhabited

namespace Timeframe

/-- The text of a timeframe. -/
def name : Timeframe → String
  | .weekly => "W1"
  | .daily => "D1"
  | .fourHour => "H4"

/-- Reads a timeframe from its exact text. -/
def parse (s : String) : Except JournalError Timeframe :=
  if s = "W1" then .ok .weekly
  else if s = "D1" then .ok .daily
  else if s = "H4" then .ok .fourHour
  else .error (.invalid "timeframe" ("unknown timeframe '" ++ s ++ "'"))

end Timeframe

end ForexJournal
