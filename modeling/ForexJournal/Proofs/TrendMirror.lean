import Mathlib
import ForexJournal.Signal.Evaluation

/-!
# The bearish rule mirrors the bullish one

Negating every price of an evaluation input turns each strict comparison around, so a condition
of the bearish rule holds on an input exactly when its mirror condition of the bullish rule holds
on the negated input. The bearish rule lists the mirrors of the bullish rule's conditions in the
same order; hence its result on an input is the bullish result on the negated input, with the
conditions mirrored. Both rules require the middle average to be strictly on one side of the slow
one, so they never pass together.

Main statement: `evaluateAllRules_mirror`.
-/

namespace ForexJournal

namespace Decimal

theorem lt_iff_scaledTo {a b : Decimal} :
    a.lt b = true ↔ a.scaledTo (Nat.max a.scale b.scale) < b.scaledTo (Nat.max a.scale b.scale) := by
  simp [lt, compare, Int.compare_eq_lt]

theorem max_scale_comm (a b : Decimal) : Nat.max b.scale a.scale = Nat.max a.scale b.scale := by
  simp only [Nat.max_def]; split_ifs <;> omega

@[simp] theorem neg_scale (d : Decimal) : d.neg.scale = d.scale := rfl

theorem neg_scaledTo (d : Decimal) (target : Nat) : d.neg.scaledTo target = -d.scaledTo target := by
  cases h : d.negative <;> simp [scaledTo, signedMantissa, neg, h]

theorem lt_neg_neg (a b : Decimal) : a.neg.lt b.neg = b.lt a := by
  rw [Bool.eq_iff_iff, lt_iff_scaledTo, lt_iff_scaledTo, neg_scale, neg_scale, neg_scaledTo,
    neg_scaledTo, max_scale_comm, neg_lt_neg_iff]

theorem lt_asymm {a b : Decimal} (h : a.lt b = true) : b.lt a = false := by
  rw [lt_iff_scaledTo] at h
  rw [Bool.eq_false_iff, ne_eq, lt_iff_scaledTo, max_scale_comm]
  exact not_lt_of_gt h

end Decimal

/-- `knownLt` on negated values is `knownLt` the other way round; an unknown side stays
unknown. -/
theorem knownLt_neg (a b : Option Decimal) :
    knownLt (a.map Decimal.neg) (b.map Decimal.neg) = knownLt b a := by
  cases a <;> cases b <;> simp [knownLt, Decimal.lt_neg_neg]

theorem knownLt_asymm {a b : Option Decimal} (h : knownLt a b = true) : knownLt b a = false := by
  cases a <;> cases b <;> simp_all [knownLt, Decimal.lt_asymm]

namespace ConditionCode

/-- The condition of the opposite trend: each comparison turned around. -/
def mirror : ConditionCode → ConditionCode
  | .ema50GtEma200 => .ema50LtEma200
  | .closeGtEma50 => .closeLtEma50
  | .ema50SlopePositive => .ema50SlopeNegative
  | .ema50LtEma200 => .ema50GtEma200
  | .closeLtEma50 => .closeGtEma50
  | .ema50SlopeNegative => .ema50SlopePositive

@[simp] theorem mirror_mirror (c : ConditionCode) : c.mirror.mirror = c := by
  cases c <;> rfl

end ConditionCode

namespace EvaluationInput

/-- The input with every price negated; an unknown average stays unknown. -/
def neg (x : EvaluationInput) : EvaluationInput :=
  ⟨x.close.neg, x.ema50.map Decimal.neg, x.ema200.map Decimal.neg,
    x.previousEma50.map Decimal.neg⟩

end EvaluationInput

theorem evaluateCondition_mirror (c : ConditionCode) (x : EvaluationInput) :
    evaluateCondition c.mirror x = evaluateCondition c x.neg := by
  cases c <;>
    simp only [ConditionCode.mirror, evaluateCondition, EvaluationInput.neg, ← Option.map_some,
      knownLt_neg]

/-- The conditions of a mirrored list that hold are the mirrors of those that hold on the
negated input, in the same order; likewise for those that fail. -/
theorem filter_mirror (cs : List ConditionCode) (x : EvaluationInput) (keep : Bool → Bool) :
    (cs.map ConditionCode.mirror).filter (fun c => keep (evaluateCondition c x)) =
      (cs.filter fun c => keep (evaluateCondition c x.neg)).map ConditionCode.mirror := by
  rw [List.filter_map]
  congr 1
  exact List.filter_congr fun c _ => by simp [evaluateCondition_mirror]

/-- What the result of a rule shares with the result of the mirrored rule: the version, the
outcome and the confidence, and the met and failed conditions, mirrored. -/
structure RuleResult.Mirrors (r s : RuleResult) : Prop where
  version : r.ruleVersion = s.ruleVersion
  outcome : r.outcome = s.outcome
  confidence : r.confidence = s.confidence
  met : r.conditionsMet = s.conditionsMet.map ConditionCode.mirror
  failed : r.conditionsFailed = s.conditionsFailed.map ConditionCode.mirror

/-- A rule whose conditions mirror another's gives on an input what the other gives on the
negated input, mirrored. -/
theorem evaluateRule_mirrors {r s : RuleSpec} (hv : r.version = s.version)
    (hc : r.conditions = s.conditions.map ConditionCode.mirror) (x : EvaluationInput) :
    (evaluateRule r x).Mirrors (evaluateRule s x.neg) := by
  have hmet := filter_mirror s.conditions x id
  have hfailed := filter_mirror s.conditions x (!·)
  simp only [id] at hmet
  refine ⟨hv, ?_, ?_, ?_, ?_⟩ <;>
    simp only [evaluateRule, hc, hmet, hfailed, List.length_map]

theorem trendBearish_conditions :
    trendBearish.conditions = trendBullish.conditions.map ConditionCode.mirror := rfl

/-- Evaluating the registry gives the bearish and the bullish result, keyed and ordered by
code. -/
theorem evaluateAllRules_eq (x : EvaluationInput) :
    evaluateAllRules x = [("W1_TREND_BEARISH", evaluateRule trendBearish x),
      ("W1_TREND_BULLISH", evaluateRule trendBullish x)] := by
  have hlt : "W1_TREND_BEARISH" < "W1_TREND_BULLISH" := by rw [String.lt_iff_toList_lt]; decide
  simp [evaluateAllRules, evaluateRules, rules, ruleByCode, insertResult, trendBullish,
    trendBearish, hlt, ne_of_lt hlt]

theorem evaluateRule_pass {r : RuleSpec} {x : EvaluationInput}
    (h : (evaluateRule r x).outcome = .pass) : ∀ c ∈ r.conditions, evaluateCondition c x = true := by
  simp only [evaluateRule] at h
  by_cases hp : shouldPass (r.conditions.filter (evaluateCondition · x)).length
      r.conditions.length = true
  · simp only [shouldPass, Bool.and_eq_true, decide_eq_true_eq, beq_iff_eq] at hp
    exact List.length_filter_eq_length_iff.1 hp.2
  · simp [hp] at h

/-- The two trend rules never pass on the same input: each needs the middle average strictly on
its own side of the slow one. -/
theorem trend_rules_exclusive (x : EvaluationInput) :
    ¬ ((evaluateRule trendBullish x).outcome = .pass ∧
      (evaluateRule trendBearish x).outcome = .pass) := by
  rintro ⟨hbull, hbear⟩
  have hgt := evaluateRule_pass hbull .ema50GtEma200 (by simp [trendBullish])
  have hlt := evaluateRule_pass hbear .ema50LtEma200 (by simp [trendBearish])
  simp only [evaluateCondition] at hgt hlt
  simp [knownLt_asymm hgt] at hlt

/-- The registry's evaluation has exactly the bearish and the bullish key, the two rules never
both pass, and the bearish result on an input is the bullish result on the negated input with
each condition mirrored. -/
theorem evaluateAllRules_mirror (x : EvaluationInput) :
    ∃ bear bull, evaluateAllRules x = [("W1_TREND_BEARISH", bear), ("W1_TREND_BULLISH", bull)] ∧
      ¬ (bull.outcome = .pass ∧ bear.outcome = .pass) ∧
      ∃ bull', (evaluateAllRules x.neg).lookup "W1_TREND_BULLISH" = some bull' ∧
        bear.Mirrors bull' := by
  refine ⟨_, _, evaluateAllRules_eq x, trend_rules_exclusive x, evaluateRule trendBullish x.neg,
    ?_, @evaluateRule_mirrors trendBearish trendBullish rfl trendBearish_conditions x⟩
  rw [evaluateAllRules_eq]
  rfl

end ForexJournal
