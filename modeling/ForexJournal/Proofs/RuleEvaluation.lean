import Mathlib
import ForexJournal.Signal.Evaluation
import ForexJournal.Proofs.DecimalValue

/-!
# Evaluating one rule

Each condition compares two values of the input strictly, as exact rationals, and holds only
when both are known: an average the input lacks fails the condition, while a known average of
zero is compared like any other value. Evaluating a rule sorts its conditions into those that
hold and those that do not, each in the rule's order, so the two lists interleave to the rule's
own list, repeated codes included. The rule passes when it has conditions and none failed; its
confidence is then exactly one, and zero otherwise.

Main statement: `evaluateRule_reports`.
-/

namespace ForexJournal

/-- `Interleave l₁ l₂ l`: `l` merges `l₁` and `l₂`, keeping the order of each. -/
inductive Interleave {α : Type} : List α → List α → List α → Prop
  | nil : Interleave [] [] []
  | left {a : α} {l₁ l₂ l : List α} : Interleave l₁ l₂ l → Interleave (a :: l₁) l₂ (a :: l)
  | right {a : α} {l₁ l₂ l : List α} : Interleave l₁ l₂ l → Interleave l₁ (a :: l₂) (a :: l)

theorem interleave_filter {α : Type} (p : α → Bool) (l : List α) :
    Interleave (l.filter p) (l.filter (!p ·)) l := by
  induction l with
  | nil => exact .nil
  | cons a l ih =>
    cases h : p a with
    | false =>
      rw [List.filter_cons_of_neg (by simp [h]), List.filter_cons_of_pos (by simp [h])]
      exact .right ih
    | true =>
      rw [List.filter_cons_of_pos h, List.filter_cons_of_neg (by simp [h])]
      exact .left ih

namespace ConditionCode

/-- The two values a condition compares, the one that must be the smaller first. -/
def operands (c : ConditionCode) (i : EvaluationInput) : Option Decimal × Option Decimal :=
  match c with
  | .ema50GtEma200 => (i.ema200, i.ema50)
  | .ema50LtEma200 => (i.ema50, i.ema200)
  | .closeGtEma50 => (i.ema50, some i.close)
  | .closeLtEma50 => (some i.close, i.ema50)
  | .ema50SlopePositive => (i.previousEma50, i.ema50)
  | .ema50SlopeNegative => (i.ema50, i.previousEma50)

/-- Both values the condition compares are known, and the first is below the second. -/
def HoldsOn (c : ConditionCode) (i : EvaluationInput) : Prop :=
  ∃ x y, c.operands i = (some x, some y) ∧ x.val < y.val

/-- The condition reads a value the input does not have: the middle or slow average, or the
previous candle's middle average (no previous candle, or one without it). -/
def ReadsAbsent (c : ConditionCode) (i : EvaluationInput) : Prop :=
  (c.operands i).1 = none ∨ (c.operands i).2 = none

theorem not_holdsOn_of_readsAbsent {c : ConditionCode} {i : EvaluationInput}
    (h : c.ReadsAbsent i) : ¬ c.HoldsOn i := by
  rintro ⟨x, y, hxy, -⟩
  rcases h with h | h <;> simp [hxy] at h

end ConditionCode

theorem knownLt_eq_true_iff (p : Option Decimal × Option Decimal) :
    knownLt p.1 p.2 = true ↔ ∃ x y, p = (some x, some y) ∧ x.val < y.val := by
  obtain ⟨a, b⟩ := p
  cases a <;> cases b <;> simp [knownLt, Decimal.lt_iff_val]

theorem evaluateCondition_eq_knownLt (c : ConditionCode) (i : EvaluationInput) :
    evaluateCondition c i = knownLt (c.operands i).1 (c.operands i).2 := by
  cases c <;> rfl

theorem evaluateCondition_iff_holdsOn {c : ConditionCode} {i : EvaluationInput} :
    evaluateCondition c i = true ↔ c.HoldsOn i := by
  rw [evaluateCondition_eq_knownLt, knownLt_eq_true_iff]
  rfl

/-! ## The result of a rule -/

section Rule

variable (rule : RuleSpec) (i : EvaluationInput)

@[simp] theorem evaluateRule_ruleCode : (evaluateRule rule i).ruleCode = rule.code := rfl

@[simp] theorem evaluateRule_ruleVersion : (evaluateRule rule i).ruleVersion = rule.version := rfl

@[simp] theorem evaluateRule_conditionsMet :
    (evaluateRule rule i).conditionsMet = rule.conditions.filter (evaluateCondition · i) := rfl

@[simp] theorem evaluateRule_conditionsFailed :
    (evaluateRule rule i).conditionsFailed = rule.conditions.filter (!evaluateCondition · i) := rfl

theorem shouldPass_filter_iff {α : Type} (p : α → Bool) (l : List α) :
    shouldPass (l.filter p).length l.length = true ↔ l ≠ [] ∧ l.filter (!p ·) = [] := by
  simp [shouldPass, List.length_filter_eq_length_iff, List.length_pos_iff]

theorem evaluateRule_pass_iff :
    (evaluateRule rule i).outcome = .pass ↔
      rule.conditions ≠ [] ∧ (evaluateRule rule i).conditionsFailed = [] := by
  rw [evaluateRule_conditionsFailed, ← shouldPass_filter_iff]
  simp only [evaluateRule]
  split <;> simp_all

theorem Decimal.div_ofSmallNat_self {n : Nat} (h0 : 0 < n) (hn : n < mantissaBound) :
    (Decimal.ofSmallNat n).div (Decimal.ofSmallNat n) = Decimal.ofMantissa 1 0 := by
  have hdev : Decimal.develop n 1 0 0 false = some ⟨1, 0, false⟩ := by
    rw [Decimal.develop]
    simp [Decimal.quotientMove]
  have hs : Decimal.ofSmallNat n = ⟨false, n, 0, hn, Nat.zero_le _⟩ := by
    simp [Decimal.ofSmallNat, hn]
  have h1 : 1 < mantissaBound ∧ 0 ≤ maxScale := by decide
  rw [Decimal.ofMantissa_one h1.2, hs]
  simp [Decimal.div, Decimal.checkedDiv, Decimal.isZero, h0.ne', Nat.div_self h0, Nat.mod_self,
    hdev, Decimal.ofParts?, Decimal.ofRawParts?, h1]

theorem computeConfidence_all {n : Nat} (h0 : 0 < n) (hn : n < mantissaBound) :
    computeConfidence n n .pass = Decimal.ofMantissa 1 0 := by
  rw [computeConfidence, if_neg (by simp [h0.ne']), Decimal.div_ofSmallNat_self h0 hn,
    Decimal.ofMantissa_one (by decide)]
  simp [Decimal.roundDp, Decimal.roundTo]

theorem computeConfidence_fail (met total : Nat) :
    computeConfidence met total .fail = Decimal.zero := by
  simp [computeConfidence]

/-- The confidence is one for a passing rule and zero otherwise, for any list of conditions
whose length a 64-bit count holds. -/
theorem evaluateRule_confidence (hlen : rule.conditions.length < UInt64.size) :
    (evaluateRule rule i).confidence =
      if (evaluateRule rule i).outcome = .pass then Decimal.ofMantissa 1 0 else Decimal.zero := by
  have hB : rule.conditions.length < mantissaBound :=
    lt_trans hlen (by decide : UInt64.size < mantissaBound)
  simp only [evaluateRule]
  split
  · rename_i hp
    simp only [shouldPass, Bool.and_eq_true, decide_eq_true_eq, beq_iff_eq] at hp
    rw [if_pos rfl, hp.2]
    exact computeConfidence_all hp.1 hB
  · simp [computeConfidence_fail]

end Rule

/-- `r` reports the evaluation of `rule` on `i`: it carries the rule's code and version; its
met and failed conditions interleave to the rule's list, the met ones being exactly those that
hold; every condition reading an absent value failed; it passes exactly when the rule has
conditions and none failed; and its confidence is one when it passes and zero otherwise. -/
structure RuleResult.Reports (rule : RuleSpec) (i : EvaluationInput) (r : RuleResult) : Prop where
  code : r.ruleCode = rule.code
  version : r.ruleVersion = rule.version
  split : Interleave r.conditionsMet r.conditionsFailed rule.conditions
  met_iff : ∀ c, c ∈ r.conditionsMet ↔ c ∈ rule.conditions ∧ evaluateCondition c i = true
  failed_of_absent : ∀ c ∈ rule.conditions, c.ReadsAbsent i → c ∈ r.conditionsFailed
  pass_iff : r.outcome = .pass ↔ rule.conditions ≠ [] ∧ r.conditionsFailed = []
  confidence : r.confidence = if r.outcome = .pass then Decimal.ofMantissa 1 0 else Decimal.zero

/-- Evaluating any rule (any list of conditions, empty or with repeated codes, of a length a
64-bit count holds, as the counts are converted to 64-bit words) on any input reports it, and
each condition is the exact strict comparison of two known values, so a value of zero counts as
a value and only an absent one fails a condition by itself. -/
theorem evaluateRule_reports (rule : RuleSpec) (i : EvaluationInput)
    (hlen : rule.conditions.length < UInt64.size) :
    (∀ c, evaluateCondition c i = true ↔ c.HoldsOn i) ∧ (evaluateRule rule i).Reports rule i := by
  refine ⟨fun c => evaluateCondition_iff_holdsOn, rfl, rfl, interleave_filter _ _,
    fun c => by simp, fun c hc habs => ?_, evaluateRule_pass_iff rule i,
    evaluateRule_confidence rule i hlen⟩
  have hfalse : evaluateCondition c i = false := by
    rw [Bool.eq_false_iff, ne_eq, evaluateCondition_iff_holdsOn]
    exact ConditionCode.not_holdsOn_of_readsAbsent habs
  simp [hc, hfalse]

/-- The bullish rule on a candle whose previous candle has a middle average of zero. -/
theorem evaluateRule_reports_zero_previous :
    trendBullish.conditions.length < UInt64.size ∧
      let i : EvaluationInput := ⟨Decimal.ofMantissa 11 1, some (Decimal.ofMantissa 109 2),
        some (Decimal.ofMantissa 108 2), some Decimal.zero⟩
      (∀ c, evaluateCondition c i = true ↔ c.HoldsOn i) ∧
        (evaluateRule trendBullish i).Reports trendBullish i :=
  ⟨by decide, evaluateRule_reports trendBullish _ (by decide)⟩

end ForexJournal
