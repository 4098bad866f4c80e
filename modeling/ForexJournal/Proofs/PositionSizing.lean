import Mathlib
import ForexJournal.Proofs.DecimalPrecision
import ForexJournal.Proofs.TradeHistories

/-!
# Sizing a planned trade

Planning a trade checks the plan and sizes it from the money the plan puts at risk: the
planned share of the balance, spread over the stop's distance in pips at the value of a pip on
one lot, then cut down to whole lot steps. Every figure is checked and computed on decimals; this
module says what the checks and the sizing mean over the exact rationals.

The stop's distance is exact: a difference of prices below a twentieth loses no digit, and a
quotient by a pip only moves the point. The reward ratio the plan is held to is the exact one: a
ratio just below 1.5 that rounds up to it would need the prices on a finer grid than a decimal
has. The size, though, comes through three roundings (the share of the balance, its hundredth
and the quotient by the stop's value), and a quotient just below a lot step can round onto it.
So the money lost at the stop is the budget to within a rounding error, not at most the budget
(`planTrade_sized`, with the plan that shows the excess in `planTrade_over_budget`).

Main statement: `planTrade_sized`.
-/

namespace ForexJournal

namespace TradePlan

def stopPips (plan : TradePlan) : ℚ := |plan.plannedEntry.val - plan.plannedSl.val| * 10 ^ 4

/-- The distance from entry to target over the distance from entry to stop, exactly. -/
def rewardRatio (plan : TradePlan) : ℚ :=
  |plan.plannedTp.val - plan.plannedEntry.val| / |plan.plannedEntry.val - plan.plannedSl.val|

/-- The money the plan puts at risk, exactly: its share of the balance. -/
def budget (plan : TradePlan) (account : Account) : ℚ :=
  account.balance.val * plan.plannedRiskPct.val / 100

end TradePlan

def Account.leverageLots (account : Account) : ℚ :=
  account.balance.val * account.leverage / contractSize.val

/-- What a planned trade's figures mean over the exact rationals: the stop lies 5 to 500 pips
away, the risk share is positive and within the account's, the reward is at least 1.5 times the
risk, and the size is a positive number of lot steps whose loss at the stop is the budget to
within a rounding error, short of it by less than one lot step, and within the leverage cap to
within a rounding error. -/
structure Trade.Sized (account : Account) (plan : TradePlan) (t : Trade) : Prop where
  stop_within : 5 ≤ plan.stopPips ∧ plan.stopPips ≤ 500
  risk_within : 0 < plan.plannedRiskPct.val ∧ plan.plannedRiskPct.val ≤ account.maxRiskPct.val
  reward_ratio : 3 / 2 ≤ plan.rewardRatio
  lot_steps : ∃ n : ℕ, 0 < n ∧ t.plannedPositionSize.val = n / 100
  loss_above : plan.budget account - plan.stopPips / 10 - (plan.budget account + 1) / 10 ^ 24 <
    t.plannedPositionSize.val * plan.stopPips * 10
  loss_below : t.plannedPositionSize.val * plan.stopPips * 10 ≤
    plan.budget account + (plan.budget account + 1) / 10 ^ 24
  within_cap : t.plannedPositionSize.val ≤
    account.leverageLots + (account.leverageLots + 1) / 10 ^ 24

namespace Decimal

theorem sub_fits_of_pos {a b : Decimal} (ha : 0 < a.val) (hb : 0 < b.val) :
    Fits (a.val - b.val) (a.sub b) := by
  have hbound : |a.val - b.val| ≤ mantissaBound - 1 := by
    have hA := (abs_le.1 (abs_val_le a)).2
    have hB := (abs_le.1 (abs_val_le b)).2
    rw [abs_le]
    constructor <;> linarith
  obtain ⟨r, hr, hf⟩ := trySub_fits hbound
  have hsub : a.sub b = r := by simp [sub, trySub_eq_ok.1 hr]
  rwa [hsub]

/-- Cutting the last `s - dp` digits off a mantissa `m` of `s` places leaves the largest
multiple of `10 ^ -dp` not above `m / 10 ^ s`. -/
theorem cut_digits_between {m s dp : Nat} (h : dp ≤ s) :
    ((m / Nat.pow 10 (s - dp) : ℕ) : ℚ) / 10 ^ dp ≤ m / 10 ^ s ∧
      (m : ℚ) / 10 ^ s < ((m / Nat.pow 10 (s - dp) : ℕ) : ℚ) / 10 ^ dp + 1 / 10 ^ dp := by
  have hP : 0 < Nat.pow 10 (s - dp) := Nat.pow_pos (by norm_num)
  have hpow : (10 : ℚ) ^ s = 10 ^ dp * 10 ^ (s - dp) := by
    rw [← pow_add, Nat.add_sub_cancel' h]
  have h10 : (0 : ℚ) < 10 ^ dp := by positivity
  have hle : (m / Nat.pow 10 (s - dp) : ℕ) * (10 : ℚ) ^ (s - dp) ≤ m := by
    have := Nat.div_mul_le_self m (Nat.pow 10 (s - dp))
    rw [Nat.pow_eq] at this ⊢
    exact_mod_cast this
  have hlt : (m : ℚ) < 10 ^ (s - dp) * ((m / Nat.pow 10 (s - dp) : ℕ) + 1) := by
    have := Nat.lt_mul_div_succ m hP
    rw [Nat.pow_eq] at this ⊢
    exact_mod_cast this
  rw [hpow]
  constructor
  · rw [div_le_div_iff₀ h10 (by positivity)]
    nlinarith
  · rw [← add_div, div_lt_div_iff₀ (by positivity) h10]
    nlinarith

/-- Cutting a decimal that is not negative to `dp` places gives the largest multiple of
`10 ^ -dp` not above it. -/
theorem roundTo_towardZero {d : Decimal} (hd : d.negative = false) {dp : Nat}
    (hdp : dp ≤ maxScale) :
    ∃ n : ℕ, (d.roundTo dp .towardZero).val = n / 10 ^ dp ∧
      (d.roundTo dp .towardZero).val ≤ d.val ∧
      d.val < (d.roundTo dp .towardZero).val + 1 / 10 ^ dp := by
  have hdv : d.val = d.mantissa / 10 ^ d.scale := by
    rw [val_eq, hd]
    simp
  have hunit : (0 : ℚ) < 1 / 10 ^ dp := by positivity
  unfold roundTo
  split_ifs with hs hz
  · refine ⟨d.mantissa * 10 ^ (dp - d.scale), ?_, le_rfl, by linarith⟩
    rw [hdv]
    have hpow : (10 : ℚ) ^ dp = 10 ^ d.scale * 10 ^ (dp - d.scale) := by
      rw [← pow_add, Nat.add_sub_cancel' hs]
    rw [hpow]
    push_cast
    field_simp
  · have hd0 : d.val = 0 := val_of_isZero hz
    have hz' : ((ofRawParts? d.negative 0 dp).getD d).val = 0 := by
      cases hr : ofRawParts? d.negative 0 dp with
      | none => exact hd0
      | some r =>
        obtain ⟨-, hm, -⟩ := ofRawParts?_eq_some hr
        exact val_of_isZero (by simp [isZero, hm])
    refine ⟨0, by rw [hz']; simp, by rw [hz', hd0], by rw [hz', hd0]; linarith⟩
  · have hm' : d.mantissa / Nat.pow 10 (d.scale - dp) < mantissaBound :=
      lt_of_le_of_lt (Nat.div_le_self _ _) d.mantissa_lt
    obtain ⟨r, hr⟩ := ofParts?_isSome d.negative hm' hdp
    obtain ⟨-, -, hv⟩ := ofParts?_eq_some hr
    dsimp only
    rw [hr, Option.getD_some, hv, hd]
    simp only [Bool.false_eq_true, if_false]
    obtain ⟨hle, hlt⟩ := cut_digits_between (m := d.mantissa) (by omega : dp ≤ d.scale)
    exact ⟨_, rfl, hdv ▸ hle, hdv ▸ hlt⟩

/-- A product rounded and then divided by a constant of at least one, rounded again, is within
`(x / c + 1) / 10 ^ 26` of the exact quotient. -/
theorem Approx.div_const {X c : ℚ} {m r : Decimal} (hX : 0 ≤ X) (hc : 1 ≤ c)
    (hm : Approx X m) (hr : Approx (m.val / c) r) : |r.val - X / c| ≤ (X / c + 1) / 10 ^ 26 := by
  have hc0 : 0 < c := by linarith
  have ht : 0 ≤ X / c := div_nonneg hX hc0.le
  have h1 : |m.val / c - X / c| ≤ (10 * (X / c) + 1) / (2 * 10 ^ 28) := by
    have hm' : |m.val - X| ≤ (10 * X + 1) / (2 * 10 ^ 28) := by
      have := hm
      unfold Approx at this
      rwa [abs_of_nonneg hX] at this
    rw [← sub_div, abs_div, abs_of_pos hc0]
    calc |m.val - X| / c ≤ (10 * X + 1) / (2 * 10 ^ 28) / c :=
          div_le_div_of_nonneg_right hm' hc0.le
      _ = (10 * (X / c) + 1 / c) / (2 * 10 ^ 28) := by field_simp
      _ ≤ _ := by
        gcongr
        exact (div_le_one hc0).2 hc
  have hr' : |r.val - m.val / c| ≤ (10 * |m.val / c| + 1) / (2 * 10 ^ 28) := hr
  obtain ⟨l1, u1⟩ := abs_le.1 h1
  have hmc : |m.val / c| ≤ X / c + (10 * (X / c) + 1) / (2 * 10 ^ 28) :=
    abs_le.2 ⟨by linarith, by linarith⟩
  obtain ⟨l2, u2⟩ := abs_le.1 hr'
  rw [abs_le]
  constructor <;> nlinarith

/-- A product divided by a constant of at least one, both rounded, is within
`(x / c + 1) / 10 ^ 26` of the exact quotient. -/
theorem checkedMul_checkedDiv_near {a b m d r : Decimal} {c : ℚ} (hab : 0 ≤ a.val * b.val)
    (hd : d.val = c) (hc : 1 ≤ c) (hm : a.checkedMul b = some m) (hr : m.checkedDiv d = some r) :
    |r.val - a.val * b.val / c| ≤ (a.val * b.val / c + 1) / 10 ^ 26 := by
  have hdiv := checkedDiv_approx hr
  rw [hd] at hdiv
  exact Approx.div_const hab hc (checkedMul_approx hm) hdiv

/-- Rounding a quotient by `c > 0` and multiplying back errs by at most a decimal's precision of
the dividend and of `c`. -/
theorem Approx.mul_div_cancel {x c : ℚ} {r : Decimal} (hx : 0 ≤ x) (hc : 0 < c)
    (h : Approx (x / c) r) : |r.val * c - x| ≤ (10 * x + c) / (2 * 10 ^ 28) := by
  have h' : |r.val - x / c| ≤ (10 * (x / c) + 1) / (2 * 10 ^ 28) := by
    have := h
    unfold Approx at this
    rwa [abs_of_nonneg (div_nonneg hx hc.le)] at this
  have he : r.val * c - x = (r.val - x / c) * c := by field_simp
  rw [he, abs_mul, abs_of_pos hc]
  calc |r.val - x / c| * c ≤ (10 * (x / c) + 1) / (2 * 10 ^ 28) * c :=
        mul_le_mul_of_nonneg_right h' hc.le
    _ = _ := by field_simp

theorem exists_int_of_combination (a b c : Decimal) (i j k : ℤ) :
    ∃ z : ℤ, i * a.val + j * b.val + k * c.val = z / 10 ^ 28 := by
  obtain ⟨za, ha⟩ := a.val_on_grid a.scale_le
  obtain ⟨zb, hb⟩ := b.val_on_grid b.scale_le
  obtain ⟨zc, hc⟩ := c.val_on_grid c.scale_le
  refine ⟨i * za + j * zb + k * zc, ?_⟩
  rw [ha, hb, hc]
  unfold maxScale
  push_cast
  ring

end Decimal

open Decimal

/-- A ratio of exact distances on the grid of the 28th place, the risk at most a twentieth,
that rounds to at least 1.5 is at least 1.5: below it, it falls short by at least `10 ^ -27`,
more than the rounding can make up. -/
theorem three_halves_le_of_approx {ω ρ : ℚ} {rr : Decimal} (hρ : 0 < ρ) (hρ' : ρ ≤ 1 / 20)
    (hω : 0 < ω) (hgrid : ∃ z : ℤ, 3 * ρ - 2 * ω = z / 10 ^ 28)
    (happrox : Approx (ω / ρ) rr)
    (hge : 3 / 2 ≤ rr.val) : 3 / 2 ≤ ω / ρ := by
  by_contra hlt
  rw [not_le] at hlt
  obtain ⟨z, hz⟩ := hgrid
  have hpos : (0 : ℚ) < z / 10 ^ 28 := by
    rw [← hz]
    have : ω < 3 / 2 * ρ := by rwa [div_lt_iff₀ hρ] at hlt
    linarith
  have hz1 : (1 : ℚ) ≤ z := by
    have : (0 : ℚ) < z := by simpa [div_pos_iff, show (0 : ℚ) < 10 ^ 28 by norm_num] using hpos
    exact_mod_cast (show (1 : ℤ) ≤ z by exact_mod_cast this)
  have hgap : 1 / 10 ^ 28 ≤ 3 * ρ - 2 * ω := by
    rw [hz]
    exact div_le_div_of_nonneg_right hz1 (by positivity)
  have hx : ω / ρ ≤ 3 / 2 - 1 / 10 ^ 27 := by
    rw [div_le_iff₀ hρ]
    nlinarith
  have hx0 : 0 ≤ ω / ρ := (div_pos hω hρ).le
  have := happrox.le hx0
  linarith

/-- A ratio of exact distances on the grid of the 28th place, the risk at most a twentieth,
whose computed quotient is at least 1.5, is at least 1.5. The risk drops no digit, being below
a tenth; the reward either drops none, so the quotient is the exact ratio rounded, or is so wide
that the ratio is at least 2. -/
theorem three_halves_le_of_fits {ω ρ : ℚ} {R K rr : Decimal} (hω : 0 < ω) (hρ : 0 < ρ)
    (hρ' : ρ ≤ 1 / 20) (hgrid : ∃ z : ℤ, 3 * ρ - 2 * ω = z / 10 ^ 28) (hR : Fits ω R)
    (hK : Fits ρ K) (hdiv : R.checkedDiv K = some rr) (hge : 3 / 2 ≤ rr.val) :
    3 / 2 ≤ ω / ρ := by
  have hKv : K.val = ρ := hK.eq_of_abs_lt (by rw [abs_of_pos hρ]; linarith)
  rcases hR.eq_or_tenth_le with hRv | htenth
  · have happrox := checkedDiv_approx hdiv
    rw [hRv, hKv] at happrox
    exact three_halves_le_of_approx hρ hρ' hω hgrid happrox hge
  · rw [abs_of_pos hω] at htenth
    rw [le_div_iff₀ hρ]
    linarith

namespace Risk

theorem requirePositivePrices_eq_ok {ps : List Decimal} (h : requirePositivePrices ps = .ok ()) :
    ∀ p ∈ ps, 0 < p.val := by
  unfold requirePositivePrices at h
  split_ifs at h with hany
  have hall := List.any_eq_false.1 (by simpa using hany)
  exact fun p hp => isNonPositive_eq_false.1 (by simpa using hall p hp)

theorem requirePositive_eq_ok {field : String} {v : Decimal}
    (h : requirePositive field v = .ok ()) :
    0 < v.val := by
  unfold requirePositive at h
  split_ifs at h with hv
  exact isNonPositive_eq_false.1 (by simpa using hv)

theorem validateGeometry_eq_ok {entry sl tp : Decimal} {bias : Bias}
    (h : validateGeometry entry sl tp bias = .ok ()) :
    0 < entry.val ∧ 0 < sl.val ∧ 0 < tp.val ∧
      (bias = .long → sl.val < entry.val ∧ entry.val < tp.val) ∧
      (bias = .short → entry.val < sl.val ∧ tp.val < entry.val) := by
  simp only [validateGeometry, except_bind_eq_ok] at h
  obtain ⟨⟨⟩, hpos, h⟩ := h
  have hp := requirePositivePrices_eq_ok hpos
  refine ⟨hp _ (by simp), hp _ (by simp), hp _ (by simp), ?_⟩
  have hlt {a b : Decimal} (hab : ¬a.le b = true) : b.val < a.val :=
    not_le.1 fun h' => hab (le_iff_val.2 h')
  cases bias with
  | long =>
    dsimp only at h
    split_ifs at h with h1 h2
    exact ⟨fun _ => ⟨hlt h1, hlt h2⟩, fun h' => absurd h' (by decide)⟩
  | short =>
    dsimp only at h
    split_ifs at h with h1 h2
    exact ⟨fun h' => absurd h' (by decide), fun _ => ⟨hlt h1, hlt h2⟩⟩

theorem stopDistance_eq_ok {entry sl d : Decimal} (h : stopDistance entry sl = .ok d) :
    0 < entry.val ∧ 0 < sl.val ∧ d = (entry.sub sl).abs := by
  simp only [stopDistance, except_bind_eq_ok] at h
  obtain ⟨⟨⟩, hpos, h⟩ := h
  have hp := requirePositivePrices_eq_ok hpos
  split at h
  · cases h
  · cases h
    exact ⟨hp _ (by simp), hp _ (by simp), rfl⟩

theorem stopDistancePips_eq_ok {d s : Decimal} (h : stopDistancePips d pipSize = .ok s) :
    s.val = d.val * 10 ^ 4 ∧ s.scale ≤ d.scale - 4 := by
  simp only [stopDistancePips, except_bind_eq_ok, inRange_eq_ok] at h
  obtain ⟨⟨⟩, -, ⟨⟩, -, h⟩ := h
  exact checkedDiv_pow10 (by decide) h

theorem rewardRisk_eq_ok {entry sl tp rr : Decimal} {bias : Bias}
    (h : rewardRisk entry sl tp bias = .ok rr) :
    (bias = .long → (tp.sub entry).checkedDiv (entry.sub sl) = some rr) ∧
    (bias = .short → (entry.sub tp).checkedDiv (sl.sub entry) = some rr) := by
  simp only [rewardRisk, except_bind_eq_ok] at h
  obtain ⟨⟨⟩, -, h⟩ := h
  have hratio {reward risk : Decimal}
      (h : (if risk.isNonPositive = true then .error (JournalError.geometry "risk must be positive")
        else do
          let rr ← inRange "RR" (reward.checkedDiv risk)
          if rr.isNonPositive = true then .error (JournalError.geometry "RR must be positive")
          else .ok rr) = Except.ok rr) :
      reward.checkedDiv risk = some rr := by
    split at h
    · cases h
    · simp only [except_bind_eq_ok, inRange_eq_ok] at h
      obtain ⟨r, hr, h⟩ := h
      split at h
      · cases h
      · cases h
        exact hr
  cases bias with
  | long => exact ⟨fun _ => hratio h, fun h' => absurd h' (by decide)⟩
  | short => exact ⟨fun h' => absurd h' (by decide), fun _ => hratio h⟩

theorem riskAmount_eq_ok {balance pct amount : Decimal} (h : riskAmount balance pct = .ok amount) :
    0 < balance.val ∧ ∃ scaled, balance.checkedMul pct = some scaled ∧
      scaled.checkedDiv hundred = some amount := by
  simp only [riskAmount, except_bind_eq_ok] at h
  obtain ⟨⟨⟩, hbal, h⟩ := h
  split at h
  · cases h
  · simp only [except_bind_eq_ok, inRange_eq_ok] at h
    exact ⟨requirePositive_eq_ok hbal, h⟩

theorem positionSize_eq_ok {risk stopPips pipValue size : Decimal}
    (h : positionSize risk stopPips pipValue = .ok size) :
    0 < risk.val ∧ 0 < stopPips.val ∧
      ∃ stopValue, stopPips.checkedMul pipValue = some stopValue ∧
      risk.checkedDiv stopValue = some size := by
  simp only [positionSize, except_bind_eq_ok, inRange_eq_ok] at h
  obtain ⟨⟨⟩, hr, ⟨⟩, hs, ⟨⟩, -, stopValue, hv, h⟩ := h
  exact ⟨requirePositive_eq_ok hr, requirePositive_eq_ok hs, stopValue, hv, h⟩

/-- The leverage cap is the balance times the leverage over the contract size, both
computed. -/
theorem maxPositionSize_eq_ok {balance contract cap : Decimal} {leverage : Nat}
    (h : maxPositionSize balance leverage contract = .ok cap) :
    ∃ notional, balance.checkedMul (ofSmallNat leverage) = some notional ∧
      notional.checkedDiv contract = some cap := by
  simp only [maxPositionSize, except_bind_eq_ok] at h
  obtain ⟨⟨⟩, -, h⟩ := h
  split at h
  · cases h
  · simp only [except_bind_eq_ok, inRange_eq_ok] at h
    obtain ⟨⟨⟩, -, notional, hn, h⟩ := h
    exact ⟨notional, hn, h⟩

end Risk

theorem planTrade_checks {account : Account} {plan : TradePlan} {id : Uuid} {now : Instant}
    {t : Trade} (h : planTrade account plan id now = .ok t) :
    ∃ distance stopPips rr amount rawSize cap,
      Risk.validateGeometry plan.plannedEntry plan.plannedSl plan.plannedTp plan.bias = .ok () ∧
      ¬plan.plannedRiskPct.isNonPositive = true ∧
      ¬account.maxRiskPct.lt plan.plannedRiskPct = true ∧
      Risk.stopDistance plan.plannedEntry plan.plannedSl = .ok distance ∧
      Risk.stopDistancePips distance pipSize = .ok stopPips ∧
      ¬(stopPips.lt minStopPips || maxStopPips.lt stopPips) = true ∧
      Risk.rewardRisk plan.plannedEntry plan.plannedSl plan.plannedTp plan.bias = .ok rr ∧
      ¬rr.lt minRewardRisk = true ∧
      Risk.riskAmount account.balance plan.plannedRiskPct = .ok amount ∧
      Risk.positionSize amount stopPips pipValuePerLot = .ok rawSize ∧
      Risk.maxPositionSize account.balance account.leverage contractSize = .ok cap ∧
      ¬cap.lt (rawSize.roundTo lotStep.scale .towardZero) = true ∧
      t.plannedPositionSize = rawSize.roundTo lotStep.scale .towardZero := by
  unfold planTrade at h
  simp only [bind, Except.bind, pure, Except.pure, throw, throwThe, MonadExceptOf.throw] at h
  repeat' (split at h <;> try cases h)
  exact ⟨_, _, _, _, _, _, ‹_›, ‹_›, ‹_›, ‹_›, ‹_›, ‹_›, ‹_›, ‹_›, ‹_›, ‹_›, ‹_›, ‹_›,
    rfl⟩

/-! ## The instrument's figures as numbers -/

theorem val_minStopPips : minStopPips.val = 5 := by
  rw [minStopPips, val_ofMantissa (by decide) (by decide)]
  norm_num

theorem val_maxStopPips : maxStopPips.val = 500 := by
  rw [maxStopPips, val_ofMantissa (by decide) (by decide)]
  norm_num

theorem val_minRewardRisk : minRewardRisk.val = 3 / 2 := by
  rw [minRewardRisk, val_ofMantissa (by decide) (by decide)]
  norm_num

theorem val_hundred : hundred.val = 100 := by
  rw [hundred, val_ofMantissa (by decide) (by decide)]
  norm_num

theorem val_pipValuePerLot : pipValuePerLot.val = 10 := by
  rw [pipValuePerLot, val_ofMantissa (by decide) (by decide)]
  norm_num

theorem val_contractSize : contractSize.val = 100000 := by
  rw [contractSize, val_ofMantissa (by decide) (by decide)]
  norm_num

/-! ## Each figure over the rationals -/

theorem stopPips_within {stopPips : Decimal}
    (h : ¬(stopPips.lt minStopPips || maxStopPips.lt stopPips) = true) :
    5 ≤ stopPips.val ∧ stopPips.val ≤ 500 := by
  simp only [Bool.or_eq_true, not_or] at h
  obtain ⟨h5, h500⟩ := h
  exact ⟨not_lt.1 fun h' => h5 (lt_iff_val.2 (by rwa [val_minStopPips])),
    not_lt.1 fun h' => h500 (lt_iff_val.2 (by rwa [val_maxStopPips]))⟩

/-- A stop of at most 500 pips is the exact distance of the prices, on at most 24 places: the
difference of the prices is below a twentieth, so it drops no digit. -/
theorem stopDistancePips_exact {entry sl d stopPips : Decimal}
    (hdist : Risk.stopDistance entry sl = .ok d)
    (hpips : Risk.stopDistancePips d pipSize = .ok stopPips)
    (h500 : stopPips.val ≤ 500) :
    stopPips.val = |entry.val - sl.val| * 10 ^ 4 ∧ stopPips.scale ≤ 24 := by
  obtain ⟨he, hs, rfl⟩ := Risk.stopDistance_eq_ok hdist
  obtain ⟨hv, hscale⟩ := Risk.stopDistancePips_eq_ok hpips
  have hsmall : |(entry.sub sl).val| ≤ 1 / 20 := by
    rw [hv, val_abs] at h500
    linarith
  have hexact := (sub_fits_of_pos he hs).eq_of_abs_val_le hsmall
  have hds := (entry.sub sl).abs.scale_le
  unfold maxScale at hds
  exact ⟨by rw [hv, val_abs, hexact], by omega⟩

theorem rewardRatio_of_rewardRisk {plan : TradePlan} {rr : Decimal}
    (hgeo :
      Risk.validateGeometry plan.plannedEntry plan.plannedSl plan.plannedTp plan.bias = .ok ())
    (hrr : Risk.rewardRisk plan.plannedEntry plan.plannedSl plan.plannedTp plan.bias = .ok rr)
    (hge : ¬rr.lt minRewardRisk = true)
    (hsmall : |plan.plannedEntry.val - plan.plannedSl.val| ≤ 1 / 20) :
    3 / 2 ≤ plan.rewardRatio := by
  obtain ⟨he, hs, ht, hlong, hshort⟩ := Risk.validateGeometry_eq_ok hgeo
  obtain ⟨hrl, hrs⟩ := Risk.rewardRisk_eq_ok hrr
  have hge' : 3 / 2 ≤ rr.val := not_lt.1 fun h' => hge (lt_iff_val.2 (by rwa [val_minRewardRisk]))
  unfold TradePlan.rewardRatio
  cases hb : plan.bias with
  | long =>
    obtain ⟨h1, h2⟩ := hlong hb
    rw [abs_of_pos (sub_pos.2 h2)] at ⊢
    rw [abs_of_pos (sub_pos.2 h1)] at hsmall ⊢
    obtain ⟨z, hz⟩ :=
      exists_int_of_combination plan.plannedEntry plan.plannedSl plan.plannedTp 5 (-3) (-2)
    refine three_halves_le_of_fits (sub_pos.2 h2) (sub_pos.2 h1) hsmall ⟨z, ?_⟩
      (sub_fits_of_pos ht he) (sub_fits_of_pos he hs) (hrl hb) hge'
    rw [← hz]
    push_cast
    ring
  | short =>
    obtain ⟨h1, h2⟩ := hshort hb
    rw [abs_sub_comm, abs_of_pos (sub_pos.2 h2)] at ⊢
    rw [abs_sub_comm, abs_of_pos (sub_pos.2 h1)] at hsmall ⊢
    obtain ⟨z, hz⟩ :=
      exists_int_of_combination plan.plannedEntry plan.plannedSl plan.plannedTp (-5) 3 2
    refine three_halves_le_of_fits (sub_pos.2 h2) (sub_pos.2 h1) hsmall ⟨z, ?_⟩
      (sub_fits_of_pos he ht) (sub_fits_of_pos hs he) (hrs hb) hge'
    rw [← hz]
    push_cast
    ring

theorem riskAmount_near {balance pct amount : Decimal}
    (h : Risk.riskAmount balance pct = .ok amount) (hpct : 0 < pct.val) :
    0 < balance.val ∧
      |amount.val - balance.val * pct.val / 100| ≤
        (balance.val * pct.val / 100 + 1) / 10 ^ 26 := by
  obtain ⟨hbal, scaled, hs, hamount⟩ := Risk.riskAmount_eq_ok h
  exact ⟨hbal, checkedMul_checkedDiv_near (by positivity) val_hundred (by norm_num) hs hamount⟩

/-- The unrounded size times the stop's value is the money at risk, to within a decimal's
precision. The stop's value, at most 5000 on at most 24 places, is exact. -/
theorem positionSize_near {risk stopPips size : Decimal}
    (h : Risk.positionSize risk stopPips pipValuePerLot = .ok size) (h500 : stopPips.val ≤ 500)
    (hscale : stopPips.scale ≤ 24) :
    0 < risk.val ∧ 0 < stopPips.val ∧
      |size.val * (stopPips.val * 10) - risk.val| ≤
        (10 * risk.val + stopPips.val * 10) / (2 * 10 ^ 28) := by
  obtain ⟨hr, hs, stopValue, hv, hsize⟩ := Risk.positionSize_eq_ok h
  have hm : stopPips.mantissa ≤ 500 * 10 ^ 24 := by
    have h1 : (stopPips.mantissa : ℚ) / 10 ^ stopPips.scale ≤ 500 := by
      rw [← abs_val, abs_of_pos hs]
      exact h500
    rw [div_le_iff₀ (by positivity)] at h1
    have h2 : (stopPips.mantissa : ℚ) ≤ 500 * 10 ^ 24 :=
      h1.trans (by gcongr; norm_num)
    exact_mod_cast h2
  obtain ⟨stopValue', hv', hval⟩ := checkedMul_exact (a := stopPips) (b := pipValuePerLot)
    (by show stopPips.scale + 0 ≤ maxScale; unfold maxScale; omega)
    (by show stopPips.mantissa * 10 < mantissaBound; unfold mantissaBound; omega)
  rw [hv'] at hv
  cases hv
  have hdiv := checkedDiv_approx hsize
  rw [hval, val_pipValuePerLot] at hdiv
  exact ⟨hr, hs, Approx.mul_div_cancel hr.le (by positivity) hdiv⟩

/-- A size that passes the leverage check, of at least one lot step, is within the leverage
cap to within `(cap + 1) / 10 ^ 24`. A leverage too wide for a mantissa counts as zero, and then
no size passes. -/
theorem le_leverageLots {account : Account} {cap : Decimal} {size : ℚ}
    (hcap : Risk.maxPositionSize account.balance account.leverage contractSize = .ok cap)
    (hbal : 0 < account.balance.val) (hle : size ≤ cap.val) (hstep : 1 / 100 ≤ size) :
    size ≤ account.leverageLots + (account.leverageLots + 1) / 10 ^ 24 := by
  obtain ⟨notional, hn, hdiv⟩ := Risk.maxPositionSize_eq_ok hcap
  have hL : 0 ≤ (ofSmallNat account.leverage).val := by
    unfold ofSmallNat
    split
    · exact val_nonneg rfl
    · simp
  have herr := checkedMul_checkedDiv_near (by positivity) val_contractSize (by norm_num) hn hdiv
  obtain ⟨-, hup⟩ := abs_le.1 herr
  by_cases hlev : account.leverage < mantissaBound
  · rw [val_ofSmallNat hlev] at hup
    unfold Account.leverageLots
    rw [val_contractSize]
    have : (0 : ℚ) ≤ account.balance.val * account.leverage / 100000 := by positivity
    linarith
  · have hz : (ofSmallNat account.leverage).val = 0 := by simp [ofSmallNat, hlev]
    rw [hz] at hup
    norm_num at hup
    linarith

/-- The loss at the stop of a size cut to lot steps from an unrounded size near the budget's
share of the stop: within `(budget + 1) / 10 ^ 24` of the budget above, and short of it by
less than one lot step's loss below. -/
theorem loss_within {budget amount stopPips raw size : ℚ} (hb : 0 ≤ budget) (hP : 0 < stopPips)
    (h500 : stopPips ≤ 500) (hamount : |amount - budget| ≤ (budget + 1) / 10 ^ 26)
    (hraw : |raw * (stopPips * 10) - amount| ≤ (10 * amount + stopPips * 10) / (2 * 10 ^ 28))
    (hs1 : size ≤ raw) (hs2 : raw < size + 1 / 100) :
    budget - stopPips / 10 - (budget + 1) / 10 ^ 24 < size * stopPips * 10 ∧
      size * stopPips * 10 ≤ budget + (budget + 1) / 10 ^ 24 := by
  have hP10 : 0 < stopPips * 10 := by positivity
  have h1 : size * (stopPips * 10) ≤ raw * (stopPips * 10) :=
    mul_le_mul_of_nonneg_right hs1 hP10.le
  have h2 : raw * (stopPips * 10) < (size + 1 / 100) * (stopPips * 10) :=
    mul_lt_mul_of_pos_right hs2 hP10
  obtain ⟨l1, u1⟩ := abs_le.1 hamount
  obtain ⟨l2, u2⟩ := abs_le.1 hraw
  constructor <;> linarith

/-! ## The sizing of a planned trade -/

/-- Every planned trade is sized as `Trade.Sized` says: the stop, the risk share and the reward
ratio hold exactly, and the size is a positive number of lot steps whose loss at the stop is the
budget to within `(budget + 1) / 10 ^ 24`, short of it by less than one lot step, and within the
leverage cap to within as much. -/
theorem planTrade_sized {account : Account} {plan : TradePlan} {id : Uuid} {now : Instant}
    {t : Trade} (h : planTrade account plan id now = .ok t) : t.Sized account plan := by
  obtain ⟨distance, stopPips, rr, amount, rawSize, cap, hgeo, hpct, hmax, hdist, hpips, hstop,
    hrr, hrrge, hamount, hraw, hcap, hcapge, hsize⟩ := planTrade_checks h
  obtain ⟨h5, h500⟩ := stopPips_within hstop
  obtain ⟨hpv, hps⟩ := stopDistancePips_exact hdist hpips h500
  have hstopPips : stopPips.val = plan.stopPips := hpv
  have hsmall : |plan.plannedEntry.val - plan.plannedSl.val| ≤ 1 / 20 := by
    rw [hpv] at h500
    linarith
  have hpct0 : 0 < plan.plannedRiskPct.val := isNonPositive_eq_false.1 (by simpa using hpct)
  have hpctmax : plan.plannedRiskPct.val ≤ account.maxRiskPct.val :=
    not_lt.1 fun h' => hmax (lt_iff_val.2 h')
  obtain ⟨hbal, hamountv⟩ := riskAmount_near hamount hpct0
  obtain ⟨-, hP0, hrawv⟩ := positionSize_near hraw h500 hps
  have hscale : lotStep.scale = 2 := rfl
  rw [hscale] at hsize hcapge
  obtain ⟨n, hn, hs1, hs2⟩ :=
    roundTo_towardZero (Risk.positionSize_plus hraw) (show 2 ≤ maxScale by decide)
  rw [← hsize] at hn hs1 hs2 hcapge
  have hpos := (isPositive_iff.1 (planTrade_size_isPositive h))
  have hsize0 : 0 < t.plannedPositionSize.val :=
    lt_of_le_of_ne (val_nonneg hpos.1) (val_ne_zero hpos.2).symm
  have hn0 : 0 < n := by
    rw [hn] at hsize0
    exact_mod_cast (div_pos_iff_of_pos_right (by positivity)).1 hsize0
  have hstep : 1 / 100 ≤ t.plannedPositionSize.val := by
    rw [hn]
    have : (1 : ℚ) ≤ n := by exact_mod_cast hn0
    norm_num
    linarith
  obtain ⟨hlow, hhigh⟩ := loss_within (by positivity) hP0 h500 hamountv
    hrawv hs1 hs2
  rw [hstopPips] at hlow hhigh
  refine ⟨⟨hstopPips ▸ h5, hstopPips ▸ h500⟩, ⟨hpct0, hpctmax⟩,
    rewardRatio_of_rewardRisk hgeo hrr hrrge hsmall, ⟨n, hn0, by rw [hn]; norm_num⟩, hlow,
    hhigh,
    le_leverageLots hcap hbal (not_lt.1 fun h' => hcapge (lt_iff_val.2 h')) hstep⟩

/-- A balance of 10000 risking 1% over a 50-pip stop plans 0.2 lots, sized as `Trade.Sized`
says. -/
theorem planTrade_sized_tenth_lots :
    let account : Account :=
      ⟨Uuid.nil, "demo", ofMantissa 10000 0, 100, ofMantissa 2 0, "UTC", Instant.epoch⟩
    let plan : TradePlan := ⟨Uuid.nil, Uuid.nil, .long, ofMantissa 11000 4, ofMantissa 10950 4,
      ofMantissa 11100 4, ofMantissa 1 0, ""⟩
    ∃ t, planTrade account plan Uuid.nil Instant.epoch = .ok t ∧
      t.plannedPositionSize = ofMantissa 20 2 ∧ t.Sized account plan := by
  intro account plan
  obtain ⟨t, hp, hsize⟩ := exists_eq_ok_of_toOption
    (show (planTrade account plan Uuid.nil Instant.epoch).toOption.map (·.plannedPositionSize) =
      some (ofMantissa 20 2) by decide +kernel)
  exact ⟨t, hp, hsize, planTrade_sized hp⟩

/-- A balance of 6199.9999999999999999999999999 risking 1% over a 5-pip stop puts
61.999999999999999999999999999 at risk, which over the stop's value of 50 is
1.23999999999999999999999999998 lots: a digit too many, rounded up to 1.24. The plan's 1.24 lots
lose 62 at the stop, more than the budget. -/
theorem planTrade_over_budget :
    let account : Account := ⟨Uuid.nil, "demo", ofMantissa 61999999999999999999999999999 25, 100,
      ofMantissa 2 0, "UTC", Instant.epoch⟩
    let plan : TradePlan := ⟨Uuid.nil, Uuid.nil, .long, ofMantissa 11000 4, ofMantissa 10995 4,
      ofMantissa 11010 4, ofMantissa 1 0, ""⟩
    ∃ t, planTrade account plan Uuid.nil Instant.epoch = .ok t ∧
      t.plannedPositionSize = ofMantissa 124 2 ∧
      plan.budget account < t.plannedPositionSize.val * plan.stopPips * 10 := by
  intro account plan
  obtain ⟨t, hp, ht⟩ := exists_eq_ok_of_toOption
    (show (planTrade account plan Uuid.nil Instant.epoch).toOption.map (·.plannedPositionSize) =
      some (ofMantissa 124 2) by decide +kernel)
  refine ⟨t, hp, ht, ?_⟩
  rw [ht]
  simp only [account, plan, TradePlan.budget, TradePlan.stopPips]
  rw [val_ofMantissa (m := 61999999999999999999999999999) (s := 25) (by decide) (by decide),
    val_ofMantissa (m := 1) (s := 0) (by decide) (by decide),
    val_ofMantissa (m := 124) (s := 2) (by decide) (by decide),
    val_ofMantissa (m := 11000) (s := 4) (by decide) (by decide),
    val_ofMantissa (m := 10995) (s := 4) (by decide) (by decide)]
  norm_num

end ForexJournal
