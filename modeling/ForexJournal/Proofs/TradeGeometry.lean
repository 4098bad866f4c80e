import Mathlib
import ForexJournal.Proofs.PositionSizing

/-!
# Trade geometry and the calculators after it

`validateGeometry` decides whether entry, stop and target lie the bias's way round. The
calculators after it subtract prices and divide, each with its own sign check. A difference of
two positive prices never overflows and keeps the sign of the exact one, so on a geometry that
passes, the stop distance is positive and is the exact distance fitted into a decimal (exact
unless it has 28 digits at its scale), and the risk is positive.

The reward-to-risk quotient is rounded to at most 28 places, though. A reward below `10 ^ -28`
of the risk can round to zero, and the quotient's own sign check then refuses the trade as a
geometry error although the geometry holds (`rewardRisk_tiny_reward_refused`). A quotient that
passes is the exact ratio to within `(31 t + 1) / (2 * 10 ^ 28)`, about one and a half units of
its 28th significant digit and half a unit of the 28th place, and it passes only on a geometry
that the check accepts.

Main statement: `geometry_downstream`.
-/

namespace ForexJournal

namespace Decimal

/-- A fitted value is within a relative `1 / (2 * 10 ^ 27)` of the exact one: it is exact, or the
exact value has 28 digits at the kept place. -/
theorem Fits.rel {x : ℚ} {r : Decimal} (h : Fits x r) : |r.val - x| ≤ |x| / (2 * 10 ^ 27) := by
  rcases h.exact_or_wide with hx | hwide
  · rw [hx, sub_self, abs_zero]
    positivity
  · calc |r.val - x| ≤ 1 / (2 * 10 ^ r.scale) := h.near
      _ = (10 ^ 27 / 10 ^ r.scale) / (2 * 10 ^ 27) := by field_simp
      _ ≤ |x| / (2 * 10 ^ 27) := by gcongr

theorem Fits.pos {x : ℚ} {r : Decimal} (h : Fits x r) (hx : 0 < x) : 0 < r.val := by
  have hrel := (abs_le.1 h.rel).1
  rw [abs_of_pos hx] at hrel
  have hsmall : x / (2 * 10 ^ 27) < x := div_lt_self hx (by norm_num)
  linarith

theorem isZero_eq_false_of_pos {d : Decimal} (h : 0 < d.val) : d.isZero = false := by
  by_contra hz
  simp only [Bool.not_eq_false] at hz
  exact h.ne' (val_of_isZero hz)

theorem Fits.abs {x : ℚ} {r : Decimal} (h : Fits x r) : Fits |x| r.abs where
  near := by
    rw [val_abs]
    exact (abs_abs_sub_abs_le_abs_sub _ _).trans h.near
  exact_or_wide := h.exact_or_wide.imp (fun hv => by rw [val_abs, hv]) (fun hw => by rwa [abs_abs])
  nonneg _ := by
    rw [val_abs]
    exact abs_nonneg _
  nonpos hx := by
    have hx0 : x = 0 := abs_nonpos_iff.1 hx
    rw [val_abs, le_antisymm (h.nonpos hx0.le) (h.nonneg hx0.ge), abs_zero]

theorem checkedDiv_nonpos {a b r : Decimal} (ha : a.val ≤ 0) (hb : 0 < b.val)
    (h : a.checkedDiv b = some r) : r.val ≤ 0 := by
  unfold checkedDiv at h
  split at h
  · cases h
  split at h
  · cases h
    simp
  rename_i haz
  dsimp only at h
  split at h
  · cases h
  rename_i m s ie hdev
  rcases hp : (if ie then trimZeros m s.toNat else (m, s.toNat)) with ⟨q, s'⟩
  rw [hp] at h
  obtain ⟨-, -, hval⟩ := ofParts?_eq_some h
  have han : a.negative = true := by
    by_contra hn
    have hz : a.val = 0 := le_antisymm ha (val_nonneg (by simpa using hn))
    exact haz (isZero_of_val_eq_zero hz)
  have hbn : b.negative = false := by
    have hpos := isNonPositive_eq_false.2 hb
    simp only [isNonPositive, isPositive, Bool.not_eq_false', Bool.and_eq_true,
      Bool.not_eq_true'] at hpos
    exact hpos.1
  rw [hval, han, hbn]
  simp only [Bool.bne_false, if_true]
  exact div_nonpos_of_nonpos_of_nonneg (neg_nonpos.2 (Nat.cast_nonneg _)) (by positivity)

theorem checkedDiv_near_of_pos {a b r : Decimal} (ha : 0 < a.val) (hb : 0 < b.val)
    (h : a.checkedDiv b = some r) :
    |r.val - a.val / b.val| ≤ (10 * (a.val / b.val) + 1) / (2 * 10 ^ 28) := by
  have happrox := checkedDiv_approx h
  unfold Approx at happrox
  rwa [abs_of_pos (div_pos ha hb)] at happrox

end Decimal

open Decimal

/-- Values within a relative `ε` of positive `x` and `y` have a quotient within a relative
`2 ε / (1 - ε)` of `x / y`. -/
theorem abs_div_sub_div_le {x y R K ε : ℚ} (hx : 0 < x) (hy : 0 < y) (hε0 : 0 ≤ ε) (hε : ε < 1)
    (hR : |R - x| ≤ x * ε) (hK : |K - y| ≤ y * ε) :
    |R / K - x / y| ≤ x / y * (2 * ε / (1 - ε)) := by
  have hK0 : y * (1 - ε) ≤ K := by
    have := (abs_le.1 hK).1
    linarith
  have hKpos : 0 < K := lt_of_lt_of_le (mul_pos hy (by linarith)) hK0
  have hnum : |R * y - K * x| ≤ 2 * x * y * ε := by
    calc |R * y - K * x| = |(R - x) * y - x * (K - y)| := by ring_nf
      _ ≤ |(R - x) * y| + |x * (K - y)| := abs_sub _ _
      _ = |R - x| * y + x * |K - y| := by rw [abs_mul, abs_mul, abs_of_pos hy, abs_of_pos hx]
      _ ≤ x * ε * y + x * (y * ε) := by gcongr
      _ = 2 * x * y * ε := by ring
  rw [div_sub_div _ _ hKpos.ne' hy.ne', abs_div, abs_of_pos (mul_pos hKpos hy),
    div_le_iff₀ (mul_pos hKpos hy)]
  have hexpand : x / y * (2 * ε / (1 - ε)) * (K * y) = 2 * x * ε * K / (1 - ε) := by
    field_simp
  rw [hexpand, le_div_iff₀ (by linarith)]
  nlinarith [mul_le_mul_of_nonneg_left hK0 (by positivity : (0 : ℚ) ≤ 2 * x * ε),
    mul_le_mul_of_nonneg_right hnum (by linarith : (0 : ℚ) ≤ 1 - ε)]

namespace Risk

theorem requirePositivePrices_eq_ok_of {ps : List Decimal} (h : ∀ p ∈ ps, 0 < p.val) :
    requirePositivePrices ps = .ok () := by
  unfold requirePositivePrices
  rw [if_neg]
  simp only [List.any_eq_true, not_exists, not_and, Bool.not_eq_true]
  exact fun p hp => isNonPositive_eq_false.2 (h p hp)

theorem validateGeometry_eq_ok_iff {entry sl tp : Decimal} {bias : Bias} :
    validateGeometry entry sl tp bias = .ok () ↔
      0 < entry.val ∧ 0 < sl.val ∧ 0 < tp.val ∧
        (bias = .long → sl.val < entry.val ∧ entry.val < tp.val) ∧
        (bias = .short → entry.val < sl.val ∧ tp.val < entry.val) := by
  refine ⟨validateGeometry_eq_ok, fun ⟨he, hs, ht, hlong, hshort⟩ => ?_⟩
  have hpos : requirePositivePrices [entry, sl, tp] = .ok () :=
    requirePositivePrices_eq_ok_of (by simp [he, hs, ht])
  have hnle {a b : Decimal} (hab : b.val < a.val) : a.le b = false := by
    rw [Bool.eq_false_iff, ne_eq, le_iff_val]
    exact not_le.2 hab
  cases bias with
  | long =>
    obtain ⟨h1, h2⟩ := hlong rfl
    simp [validateGeometry, hpos, bind, Except.bind, hnle h1, hnle h2]
  | short =>
    obtain ⟨h1, h2⟩ := hshort rfl
    simp [validateGeometry, hpos, bind, Except.bind, hnle h1, hnle h2]

/-- What reward over risk does once its prices are known positive: refuse a risk that is not
positive, divide, and refuse a quotient that is not positive. -/
def ratioCheck (reward risk : Decimal) : Except JournalError Decimal :=
  if risk.isNonPositive then .error (.geometry "risk must be positive")
  else do
    let rr ← inRange "RR" (reward.checkedDiv risk)
    if rr.isNonPositive then .error (.geometry "RR must be positive") else .ok rr

theorem rewardRisk_long (entry sl tp : Decimal) :
    rewardRisk entry sl tp .long =
      (requirePositivePrices [entry, sl, tp] >>= fun _ => ratioCheck (tp.sub entry) (entry.sub sl)) :=
  rfl

theorem rewardRisk_short (entry sl tp : Decimal) :
    rewardRisk entry sl tp .short =
      (requirePositivePrices [entry, sl, tp] >>= fun _ => ratioCheck (entry.sub tp) (sl.sub entry)) :=
  rfl

theorem ratioCheck_eq_ok {reward risk rr : Decimal} (h : ratioCheck reward risk = .ok rr) :
    0 < reward.val ∧ 0 < risk.val ∧ reward.checkedDiv risk = some rr ∧ 0 < rr.val := by
  unfold ratioCheck at h
  split at h
  · cases h
  rename_i hrisk
  simp only [except_bind_eq_ok, inRange_eq_ok] at h
  obtain ⟨r, hr, h⟩ := h
  split at h
  · cases h
  rename_i hrr
  cases h
  have hK : 0 < risk.val := isNonPositive_eq_false.1 (by simpa using hrisk)
  have hpos : 0 < rr.val := isNonPositive_eq_false.1 (by simpa using hrr)
  have hR : 0 < reward.val := not_le.1 fun hle => (checkedDiv_nonpos hle hK hr).not_gt hpos
  exact ⟨hR, hK, hr, hpos⟩

section Ratio

variable {x y : ℚ} {reward risk : Decimal}

/-- The quotient of a reward and a risk fitted from positive `x` and `y` is within
`2 / (2 * 10 ^ 27 - 1)` of `x / y`, relatively. -/
theorem ratio_near (hx : 0 < x) (hy : 0 < y) (hR : Fits x reward) (hK : Fits y risk) :
    |reward.val / risk.val - x / y| ≤ x / y * (2 / (2 * 10 ^ 27 - 1)) := by
  have hε : 2 * (1 / (2 * 10 ^ 27 : ℚ)) / (1 - 1 / (2 * 10 ^ 27)) = 2 / (2 * 10 ^ 27 - 1) := by
    field_simp
  rw [← hε]
  refine abs_div_sub_div_le hx hy (by positivity) (by norm_num) ?_ ?_
  · simpa [abs_of_pos hx, div_eq_mul_one_div x] using hR.rel
  · simpa [abs_of_pos hy, div_eq_mul_one_div y] using hK.rel

/-- A quotient that passes is positive and within `(31 t + 1) / (2 * 10 ^ 28)` of `t = x / y`:
half a unit of the 28th digit of the computed ratio, widened by the fitting of the two
differences. -/
theorem ratioCheck_near (hx : 0 < x) (hy : 0 < y) (hR : Fits x reward) (hK : Fits y risk)
    {rr : Decimal} (h : ratioCheck reward risk = .ok rr) :
    0 < rr.val ∧ |rr.val - x / y| ≤ (31 * (x / y) + 1) / (2 * 10 ^ 28) := by
  obtain ⟨hRv, hKv, hdiv, hpos⟩ := ratioCheck_eq_ok h
  refine ⟨hpos, ?_⟩
  have happrox := checkedDiv_near_of_pos hRv hKv hdiv
  have hnear := ratio_near hx hy hR hK
  have ht : 0 < x / y := div_pos hx hy
  have hqt := (abs_le.1 hnear).2
  calc |rr.val - x / y| ≤ |rr.val - reward.val / risk.val| + |reward.val / risk.val - x / y| :=
        abs_sub_le _ _ _
    _ ≤ (10 * (reward.val / risk.val) + 1) / (2 * 10 ^ 28) + x / y * (2 / (2 * 10 ^ 27 - 1)) :=
        add_le_add happrox hnear
    _ ≤ (31 * (x / y) + 1) / (2 * 10 ^ 28) := by
        rw [div_add' _ _ _ (by norm_num), div_le_div_iff_of_pos_right (by norm_num)]
        nlinarith

/-- A risk fitted from a positive value passes, and the quotient is refused only as an
overflow, or as a quotient rounded to zero, which needs `x / y` below `10 ^ -28`. -/
theorem ratioCheck_eq_error (hx : 0 < x) (hy : 0 < y) (hR : Fits x reward) (hK : Fits y risk)
    {e : JournalError} (h : ratioCheck reward risk = .error e) :
    e = .invalid "RR" "exceeds the representable decimal range" ∨
      (e = .geometry "RR must be positive" ∧ x / y < 1 / 10 ^ 28) := by
  have hKv := hK.pos hy
  have hRv := hR.pos hx
  unfold ratioCheck at h
  rw [if_neg (by simpa using isNonPositive_eq_false.2 hKv)] at h
  cases hdiv : reward.checkedDiv risk with
  | none =>
    left
    simpa [hdiv, inRange, bind, Except.bind] using h.symm
  | some rr =>
    right
    simp only [hdiv, inRange, bind, Except.bind] at h
    split at h
    · rename_i hrr
      refine ⟨(Except.error.inj h).symm, ?_⟩
      have hle : rr.val ≤ 0 := not_lt.1 fun hp => by
        simp [isNonPositive_eq_false.2 hp] at hrr
      have happrox := checkedDiv_near_of_pos hRv hKv hdiv
      have hqr := (abs_le.1 happrox).1
      have hqt := (abs_le.1 (ratio_near hx hy hR hK)).1
      have ht : 0 < x / y := div_pos hx hy
      nlinarith
    · cases h

end Ratio

theorem stopDistance_of_geometry {entry sl tp : Decimal} {bias : Bias}
    (h : validateGeometry entry sl tp bias = .ok ()) :
    ∃ d, stopDistance entry sl = .ok d ∧ 0 < d.val ∧ Fits |entry.val - sl.val| d := by
  obtain ⟨he, hs, -, hlong, hshort⟩ := validateGeometry_eq_ok h
  have hne : 0 < |entry.val - sl.val| := by
    cases bias with
    | long => exact abs_pos.2 (sub_ne_zero.2 (hlong rfl).1.ne')
    | short => exact abs_pos.2 (sub_ne_zero.2 (hshort rfl).1.ne)
  have hfit := (sub_fits_of_pos he hs).abs
  have hd := hfit.pos hne
  refine ⟨(entry.sub sl).abs, ?_, hd, hfit⟩
  have hz := isZero_eq_false_of_pos hd
  have hpos : requirePositivePrices [entry, sl] = .ok () :=
    requirePositivePrices_eq_ok_of (by simp [he, hs])
  simp [stopDistance, hpos, bind, Except.bind, hz]

theorem pos_of_fits_sub {a b : Decimal} (ha : 0 < a.val) (hb : 0 < b.val)
    (h : 0 < (a.sub b).val) : 0 < a.val - b.val :=
  not_le.1 fun hle => ((sub_fits_of_pos ha hb).nonpos hle).not_gt h

/-- On a geometry that passes, reward over risk gives a positive quotient near the exact ratio,
or refuses it as out of range or, for a ratio below `10 ^ -28`, as rounded to zero. -/
theorem rewardRisk_of_geometry {entry sl tp : Decimal} {bias : Bias}
    (h : validateGeometry entry sl tp bias = .ok ()) :
    (∀ rr, rewardRisk entry sl tp bias = .ok rr → 0 < rr.val ∧
      |rr.val - (tp.val - entry.val) / (entry.val - sl.val)| ≤
        (31 * ((tp.val - entry.val) / (entry.val - sl.val)) + 1) / (2 * 10 ^ 28)) ∧
    (∀ e, rewardRisk entry sl tp bias = .error e →
      e = .invalid "RR" "exceeds the representable decimal range" ∨
      (e = .geometry "RR must be positive" ∧
        (tp.val - entry.val) / (entry.val - sl.val) < 1 / 10 ^ 28)) := by
  obtain ⟨he, hs, ht, hlong, hshort⟩ := validateGeometry_eq_ok h
  have hpos : requirePositivePrices [entry, sl, tp] = .ok () :=
    requirePositivePrices_eq_ok_of (by simp [he, hs, ht])
  cases bias with
  | long =>
    obtain ⟨h1, h2⟩ := hlong rfl
    have hR := sub_fits_of_pos ht he
    have hK := sub_fits_of_pos he hs
    simp only [rewardRisk_long, hpos, bind, Except.bind]
    exact ⟨fun rr hrr => ratioCheck_near (sub_pos.2 h2) (sub_pos.2 h1) hR hK hrr,
      fun e he' => ratioCheck_eq_error (sub_pos.2 h2) (sub_pos.2 h1) hR hK he'⟩
  | short =>
    obtain ⟨h1, h2⟩ := hshort rfl
    have hR := sub_fits_of_pos he ht
    have hK := sub_fits_of_pos hs he
    have hratio : (tp.val - entry.val) / (entry.val - sl.val) =
        (entry.val - tp.val) / (sl.val - entry.val) := by
      rw [← neg_sub entry.val tp.val, ← neg_sub sl.val entry.val, neg_div_neg_eq]
    simp only [rewardRisk_short, hpos, bind, Except.bind, hratio]
    exact ⟨fun rr hrr => ratioCheck_near (sub_pos.2 h2) (sub_pos.2 h1) hR hK hrr,
      fun e he' => ratioCheck_eq_error (sub_pos.2 h2) (sub_pos.2 h1) hR hK he'⟩

/-- Reward over risk gives a quotient only where the geometry check accepts: its own checks
find the prices positive and both differences positive, and a positive fitted difference has a
positive exact value. -/
theorem validateGeometry_of_rewardRisk {entry sl tp rr : Decimal} {bias : Bias}
    (h : rewardRisk entry sl tp bias = .ok rr) : validateGeometry entry sl tp bias = .ok () := by
  have hprices : requirePositivePrices [entry, sl, tp] = .ok () := by
    cases hp : requirePositivePrices [entry, sl, tp] with
    | ok u => rfl
    | error e' => cases bias <;> simp [rewardRisk_long, rewardRisk_short, hp, bind, Except.bind] at h
  have hp := requirePositivePrices_eq_ok hprices
  have he := hp entry (by simp)
  have hs := hp sl (by simp)
  have ht := hp tp (by simp)
  refine validateGeometry_eq_ok_iff.2 ⟨he, hs, ht, ?_, ?_⟩
  · rintro rfl
    simp only [rewardRisk_long, hprices, bind, Except.bind] at h
    obtain ⟨hR, hK, -, -⟩ := ratioCheck_eq_ok h
    have := pos_of_fits_sub ht he hR
    have := pos_of_fits_sub he hs hK
    constructor <;> linarith
  · rintro rfl
    simp only [rewardRisk_short, hprices, bind, Except.bind] at h
    obtain ⟨hR, hK, -, -⟩ := ratioCheck_eq_ok h
    have := pos_of_fits_sub he ht hR
    have := pos_of_fits_sub hs he hK
    constructor <;> linarith

/-- What the calculators after the geometry check give on a trade, `t` being the exact ratio
of reward to risk, `(tp - entry) / (entry - sl)` on either bias: a positive stop distance that
fits the exact one, and from reward over risk either a positive quotient within
`(31 t + 1) / (2 * 10 ^ 28)` of `t`, or a refusal as out of range, or, only for `t` below
`10 ^ -28`, a refusal of the quotient rounded to zero. -/
structure Downstream (entry sl tp : Decimal) (bias : Bias) : Prop where
  stop : ∃ d, stopDistance entry sl = .ok d ∧ 0 < d.val ∧ Fits |entry.val - sl.val| d
  ratio_near : ∀ rr, rewardRisk entry sl tp bias = .ok rr → 0 < rr.val ∧
    |rr.val - (tp.val - entry.val) / (entry.val - sl.val)| ≤
      (31 * ((tp.val - entry.val) / (entry.val - sl.val)) + 1) / (2 * 10 ^ 28)
  ratio_refused : ∀ e, rewardRisk entry sl tp bias = .error e →
    e = .invalid "RR" "exceeds the representable decimal range" ∨
      (e = .geometry "RR must be positive" ∧
        (tp.val - entry.val) / (entry.val - sl.val) < 1 / 10 ^ 28)

end Risk

open Risk in
/-- For every entry, stop, target and bias, the calculators after the geometry check behave as
`Downstream` says whenever the check accepts, and reward over risk gives a quotient only where
it accepts. -/
theorem geometry_downstream (entry sl tp : Decimal) (bias : Bias) :
    (validateGeometry entry sl tp bias = .ok () → Downstream entry sl tp bias) ∧
    (∀ rr, rewardRisk entry sl tp bias = .ok rr → validateGeometry entry sl tp bias = .ok ()) :=
  ⟨fun h => ⟨stopDistance_of_geometry h, (rewardRisk_of_geometry h).1,
    (rewardRisk_of_geometry h).2⟩, fun _ h => validateGeometry_of_rewardRisk h⟩

/-- A long trade entered at 1.1000 with its stop at 1.0950 and its target at 1.1100. -/
theorem geometry_downstream_eurusd :
    Risk.validateGeometry (Decimal.ofMantissa 11000 4) (Decimal.ofMantissa 10950 4)
        (Decimal.ofMantissa 11100 4) .long = .ok () ∧
      Risk.Downstream (Decimal.ofMantissa 11000 4) (Decimal.ofMantissa 10950 4)
        (Decimal.ofMantissa 11100 4) .long :=
  have h : Risk.validateGeometry (Decimal.ofMantissa 11000 4) (Decimal.ofMantissa 10950 4)
      (Decimal.ofMantissa 11100 4) .long = .ok () := by decide +kernel
  ⟨h, (geometry_downstream _ _ _ _).1 h⟩

/-- A geometry that passes, a short trade with a reward of `10 ^ -28` and a risk of nearly 8:
reward over risk rounds the quotient to zero and refuses it as a geometry error, and the stop
distance is the exact one rounded up to 8. -/
theorem rewardRisk_tiny_reward_refused :
    Risk.validateGeometry (Decimal.ofMantissa 2 28) (Decimal.ofMantissa 8 0)
        (Decimal.ofMantissa 1 28) .short = .ok () ∧
      Risk.rewardRisk (Decimal.ofMantissa 2 28) (Decimal.ofMantissa 8 0)
        (Decimal.ofMantissa 1 28) .short = .error (.geometry "RR must be positive") ∧
      Risk.stopDistance (Decimal.ofMantissa 2 28) (Decimal.ofMantissa 8 0) =
        .ok (Decimal.ofMantissa 8000000000000000000000000000 27) ∧
      (Decimal.ofMantissa 8000000000000000000000000000 27).val ≠
        |(Decimal.ofMantissa 2 28).val - (Decimal.ofMantissa 8 0).val| := by
  refine ⟨by decide +kernel, by decide +kernel, by decide +kernel, ?_⟩
  rw [Decimal.val_ofMantissa (by decide) (by decide), Decimal.val_ofMantissa (by decide) (by decide),
    Decimal.val_ofMantissa (by decide) (by decide)]
  norm_num

end ForexJournal
