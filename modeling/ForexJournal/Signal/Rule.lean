import ForexJournal.Instrument
import ForexJournal.Json
import ForexJournal.Decimal.Text

/-!
# Trend rules

A rule is a named list of conditions on a candle's close and its averages; it passes when
every condition holds. The registry holds two weekly trend rules, one bullish and one bearish,
each the mirror of the other. Results record which conditions held and which did not, in the
rule's order, and a confidence that is the share of conditions met when the rule passes and
zero otherwise.
-/

namespace ForexJournal

/-- A condition a rule can require. -/
inductive ConditionCode where
  | ema50GtEma200
  | closeGtEma50
  | ema50SlopePositive
  | ema50LtEma200
  | closeLtEma50
  | ema50SlopeNegative
  deriving DecidableEq, Repr, Inhabited

namespace ConditionCode

def all : List ConditionCode :=
  [.ema50GtEma200, .closeGtEma50, .ema50SlopePositive, .ema50LtEma200, .closeLtEma50,
    .ema50SlopeNegative]

/-- The code of a condition. -/
def name : ConditionCode → String
  | .ema50GtEma200 => "ema50_gt_ema200"
  | .closeGtEma50 => "close_gt_ema50"
  | .ema50SlopePositive => "ema50_slope_positive"
  | .ema50LtEma200 => "ema50_lt_ema200"
  | .closeLtEma50 => "close_lt_ema50"
  | .ema50SlopeNegative => "ema50_slope_negative"

/-- Reads a condition from its exact code. -/
def parse (s : String) : Except JournalError ConditionCode :=
  match all.find? (·.name == s) with
  | some c => .ok c
  | none => .error (.invalid "condition code" ("unknown condition '" ++ s ++ "'"))

end ConditionCode

/-- A rule of the registry. -/
structure RuleSpec where
  code : String
  version : Nat
  name : String
  description : String
  timeframe : Timeframe
  conditions : List ConditionCode

/-- The weekly bullish trend rule. -/
def trendBullish : RuleSpec :=
  ⟨"W1_TREND_BULLISH", 1, "Weekly bullish trend",
    "EMA50 above EMA200, close above EMA50, EMA50 rising", .weekly,
    [.ema50GtEma200, .closeGtEma50, .ema50SlopePositive]⟩

/-- The weekly bearish trend rule. -/
def trendBearish : RuleSpec :=
  ⟨"W1_TREND_BEARISH", 1, "Weekly bearish trend",
    "EMA50 below EMA200, close below EMA50, EMA50 falling", .weekly,
    [.ema50LtEma200, .closeLtEma50, .ema50SlopeNegative]⟩

def rules : List RuleSpec := [trendBullish, trendBearish]

/-- The rule with the given code. -/
def ruleByCode (code : String) : Except JournalError RuleSpec :=
  match rules.find? (·.code == code) with
  | some r => .ok r
  | none => .error (.unknownRule code)

/-- Whether a rule passed. -/
inductive RuleOutcome where
  | pass
  | fail
  deriving DecidableEq, Repr, Inhabited

namespace RuleOutcome

def name : RuleOutcome → String
  | .pass => "PASS"
  | .fail => "FAIL"

/-- Reads an outcome from its exact text. -/
def parse (s : String) : Except JournalError RuleOutcome :=
  if s = "PASS" then .ok .pass
  else if s = "FAIL" then .ok .fail
  else .error (.invalid "rule outcome" ("unknown outcome '" ++ s ++ "'"))

end RuleOutcome

/-- The evaluation of one rule on one candle. -/
structure RuleResult where
  ruleCode : String
  ruleVersion : Nat
  outcome : RuleOutcome
  confidence : Decimal
  conditionsMet : List ConditionCode
  conditionsFailed : List ConditionCode
  deriving Inhabited

/-- The result as a JSON object. -/
def RuleResult.toJson (r : RuleResult) : Json :=
  .obj [("rule_code", .str r.ruleCode), ("rule_version", .num r.ruleVersion),
    ("outcome", .str r.outcome.name), ("confidence", .str r.confidence.toText),
    ("conditions_met", .arr (r.conditionsMet.map (.str ·.name))),
    ("conditions_failed", .arr (r.conditionsFailed.map (.str ·.name)))]

/-- What the conditions look at: the candle's close, its averages, and the middle average of
the candle before it in the same series, if there is one. -/
structure EvaluationInput where
  close : Decimal
  ema50 : Option Decimal
  ema200 : Option Decimal
  previousEma50 : Option Decimal

end ForexJournal
