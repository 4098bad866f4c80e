import ForexJournal.Signal.Rule

/-!
# Evaluating rules

Each condition compares two known values strictly; a condition on an unknown value does not
hold. A rule passes when it has conditions and all of them hold. Evaluating several rules
gives a map from rule code to result, ordered by code; codes that name no rule are skipped.
-/

namespace ForexJournal

def confidencePlaces : Nat := 4

def knownLt : Option Decimal → Option Decimal → Bool
  | some a, some b => Decimal.lt a b
  | _, _ => false

/-- Whether a condition holds. -/
def evaluateCondition (code : ConditionCode) (i : EvaluationInput) : Bool :=
  match code with
  | .ema50GtEma200 => knownLt i.ema200 i.ema50
  | .ema50LtEma200 => knownLt i.ema50 i.ema200
  | .closeGtEma50 => knownLt i.ema50 (some i.close)
  | .closeLtEma50 => knownLt (some i.close) i.ema50
  | .ema50SlopePositive => knownLt i.previousEma50 i.ema50
  | .ema50SlopeNegative => knownLt i.ema50 i.previousEma50

/-- A rule with `total` conditions passes when it has some and all `met` of them hold. -/
def shouldPass (met total : Nat) : Bool := 0 < total && met == total

/-- The share of conditions met, to four places, for a passing rule; zero otherwise. -/
def computeConfidence (met total : Nat) (outcome : RuleOutcome) : Decimal :=
  if total = 0 ∨ outcome = .fail then Decimal.zero
  else ((Decimal.ofSmallNat met).div (Decimal.ofSmallNat total)).roundDp confidencePlaces

/-- Evaluates one rule. -/
def evaluateRule (rule : RuleSpec) (i : EvaluationInput) : RuleResult :=
  let met := rule.conditions.filter (evaluateCondition · i)
  let failed := rule.conditions.filter (!evaluateCondition · i)
  let total := rule.conditions.length
  let outcome := if shouldPass met.length total then RuleOutcome.pass else .fail
  ⟨rule.code, rule.version, outcome, computeConfidence met.length total outcome, met, failed⟩

abbrev RuleResults := List (String × RuleResult)

/-- Puts a result under its code, replacing an earlier one, keeping codes ordered. -/
def insertResult (key : String) (r : RuleResult) : RuleResults → RuleResults
  | [] => [(key, r)]
  | (k, v) :: rest =>
    if key = k then (key, r) :: rest
    else if key < k then (key, r) :: (k, v) :: rest
    else (k, v) :: insertResult key r rest

/-- Evaluates the rules with the given codes, skipping unknown codes. -/
def evaluateRules (codes : List String) (i : EvaluationInput) : RuleResults :=
  codes.foldl (fun acc code =>
    match ruleByCode code with
    | .ok rule => insertResult rule.code (evaluateRule rule i) acc
    | .error _ => acc) []

def evaluateAllRules (i : EvaluationInput) : RuleResults :=
  evaluateRules (rules.map (·.code)) i

def evaluateRuleByCode (code : String) (i : EvaluationInput) : Except JournalError RuleResult :=
  return evaluateRule (← ruleByCode code) i

def RuleResults.toJson (rs : RuleResults) : Json := .obj (rs.map fun (k, r) => (k, r.toJson))

end ForexJournal
