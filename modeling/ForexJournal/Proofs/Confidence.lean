import Mathlib
import ForexJournal.Proofs.DecimalPrecision
import ForexJournal.Proofs.RuleEvaluation
import ForexJournal.Proofs.DecimalSign

/-!
# The confidence of a rule

A passing rule's confidence is its share of met conditions, `met / total`, divided as decimals
and then rounded half to even to four places. The division rounds first, at the 28th place
(`Decimal.checkedDiv_ofSmallNat`): a quotient of at most one never fills the mantissa, so the
long division runs on to the 28th place unless it ends exactly. Rounding twice is rounding once
when the divisor is below the ratio of the two grids (`roundHalfEven_twice`): the first rounding
moves the quotient by at most half a unit of the 28th place, which is less than its distance to
any midpoint of the coarser grid, and never lands it on one.

Main statement: `computeConfidence_share`.
-/

namespace ForexJournal

/-! ## Rounding twice -/

/-- A dividend `k d + t` with `t < d` rounds to `k`, or to `k + 1` when `t` is past half of
`d`, or exactly half of it with `k` odd. -/
theorem roundHalfEven_mul_add {k t d : Nat} (ht : t < d) :
    roundHalfEven (k * d + t) d = if 2 * t > d ∨ (2 * t = d ∧ k % 2 = 1) then k + 1 else k := by
  have hd : 0 < d := by omega
  have hdiv : (k * d + t) / d = k := by
    rw [Nat.add_comm, Nat.add_mul_div_right _ _ hd, Nat.div_eq_of_lt ht, Nat.zero_add]
  have hmod : (k * d + t) % d = t := by
    rw [Nat.add_comm, Nat.add_mul_mod_self_right, Nat.mod_eq_of_lt ht]
  simp only [roundHalfEven, hdiv, hmod]

/-- Adding an even multiple of the divisor moves the rounded quotient by that multiple: the
parity that breaks a tie is unchanged. -/
theorem roundHalfEven_even_mul_add {k n d : Nat} (hd : 0 < d) (hk : k % 2 = 0) :
    roundHalfEven (k * d + n) d = k + roundHalfEven n d := by
  have hn : k * d + n = (k + n / d) * d + n % d := by
    rw [Nat.add_mul, Nat.add_assoc, Nat.div_add_mod']
  rw [hn, roundHalfEven_mul_add (Nat.mod_lt _ hd)]
  conv_rhs => rw [← Nat.div_add_mod' n d, roundHalfEven_mul_add (Nat.mod_lt _ hd)]
  split_ifs <;> omega

/-- The rounded quotient of a remainder `r < b`, taken `D` times over, lies on the same side of
`D / 2` as `r` does of `b / 2`, for a divisor `b` below `D`. -/
theorem roundHalfEven_remainder_side {r b D : Nat} (hr : r < b) (hbD : b < D) (hD : D % 2 = 0) :
    (2 * roundHalfEven (r * D) b < D ↔ 2 * r < b) ∧ (2 * roundHalfEven (r * D) b = D ↔ 2 * r = b) := by
  have hb : 0 < b := by omega
  obtain ⟨h1, h2⟩ := roundHalfEven_near (n := r * D) hb
  set t := roundHalfEven (r * D) b with ht
  rcases lt_trichotomy (2 * r) b with h | h | h
  · have : 2 * t * b < D * b := by nlinarith
    have : 2 * t < D := by nlinarith
    omega
  · have hhalf : r * D = D / 2 * b := by
      obtain ⟨c, rfl⟩ : ∃ c, D = 2 * c := ⟨D / 2, by omega⟩
      rw [Nat.mul_div_cancel_left _ (by norm_num)]
      nlinarith
    have : t = D / 2 := by rw [ht, hhalf]; exact roundHalfEven_mul_self _ hb
    omega
  · have : D * b < 2 * t * b := by nlinarith
    have : D < 2 * t := by nlinarith
    omega


theorem roundHalfEven_remainder_lt {r b D : Nat} (hr : r < b) (hbD : b < D) :
    roundHalfEven (r * D) b < D := by
  have hb : 0 < b := by omega
  obtain ⟨-, h2⟩ := roundHalfEven_near (n := r * D) hb
  have : roundHalfEven (r * D) b * b < D * b := by nlinarith
  exact Nat.lt_of_mul_lt_mul_right this

/-- Rounding half to even at a grid `D` times finer and then at the coarse grid is rounding once
at the coarse grid, for a divisor below `D`: the first rounding never carries a quotient across
a midpoint of the coarse grid, nor onto one. -/
theorem roundHalfEven_twice {N b D : Nat} (hb : 0 < b) (hbD : b < D) (hD : D % 2 = 0) :
    roundHalfEven (roundHalfEven (N * D) b) D = roundHalfEven N b := by
  have hr : N % b < b := Nat.mod_lt _ hb
  have hN : N * D = N / b * D * b + N % b * D := by
    rw [Nat.mul_right_comm, ← Nat.add_mul, Nat.div_add_mod']
  have heven : N / b * D % 2 = 0 := by simp [Nat.mul_mod, hD]
  rw [hN, roundHalfEven_even_mul_add hb heven]
  have ht := roundHalfEven_remainder_lt (D := D) hr hbD
  obtain ⟨hlt, heq⟩ := roundHalfEven_remainder_side (D := D) hr hbD hD
  generalize roundHalfEven (N % b * D) b = t at ht hlt heq ⊢
  rw [roundHalfEven_mul_add ht]
  conv_rhs => rw [← Nat.div_add_mod' N b, roundHalfEven_mul_add hr]
  split_ifs <;> omega

theorem roundHalfEven_mono {n n' d : Nat} (hd : 0 < d) (hn : n ≤ n') :
    roundHalfEven n d ≤ roundHalfEven n' d := by
  by_contra hlt
  push Not at hlt
  obtain ⟨-, h2⟩ := roundHalfEven_near (n := n) hd
  obtain ⟨h1', -⟩ := roundHalfEven_near (n := n') hd
  have hstep : (2 * roundHalfEven n' d + 1) * d + d ≤ 2 * roundHalfEven n d * d := by nlinarith
  rcases Nat.eq_or_lt_of_le hn with rfl | hlt'
  · exact lt_irrefl _ hlt
  · omega

namespace Decimal

theorem quotient_le_of_le {a b q r k : Nat} (hb : 0 < b) (hab : a ≤ b)
    (hqr : q * b + r = a * Nat.pow 10 k) : q ≤ Nat.pow 10 k := by
  have : q * b ≤ Nat.pow 10 k * b := by nlinarith
  exact Nat.le_of_mul_le_mul_right this hb

theorem widen_nat (b q r p : Nat) :
    (q * Nat.pow 10 p + r * Nat.pow 10 p / b) * b + r * Nat.pow 10 p % b =
      (q * b + r) * Nat.pow 10 p := by
  calc _ = q * Nat.pow 10 p * b + (b * (r * Nat.pow 10 p / b) + r * Nat.pow 10 p % b) := by ring
    _ = (q * b + r) * Nat.pow 10 p := by rw [Nat.div_add_mod]; ring

theorem roundQuotient_of_lt {q r b : Nat} {scale : ℤ} (hr : r < b)
    (hq : q + 1 < mantissaBound) :
    roundQuotient q r b scale = some ⟨roundHalfEven (q * b + r) b, scale, true⟩ := by
  rw [roundHalfEven_mul_add hr]
  unfold roundQuotient
  split_ifs <;> rfl

theorem pow_ten_lt_mantissaBound {k : Nat} (hk : k ≤ 28) : Nat.pow 10 k < mantissaBound :=
  lt_of_le_of_lt (Nat.pow_le_pow_right (by norm_num) hk) (by decide)

theorem quotient_succ_lt {a b q r k : Nat} (hb : 0 < b) (hab : a ≤ b)
    (hqr : q * b + r = a * Nat.pow 10 k) (hk : k ≤ 28) : q + 1 < mantissaBound := by
  have hq := quotient_le_of_le hb hab hqr
  have hle : Nat.pow 10 k ≤ Nat.pow 10 28 := Nat.pow_le_pow_right (by norm_num) hk
  have h28 : Nat.pow 10 28 + 1 < mantissaBound := by decide
  omega

theorem mul_ten_lt_of_le {q k : Nat} (hq : q ≤ Nat.pow 10 k) (hk : k < 28) :
    q * 10 < mantissaBound := by
  have hpow : Nat.pow 10 k * 10 = Nat.pow 10 (k + 1) := rfl
  have := pow_ten_lt_mantissaBound (k := k + 1) hk
  omega

theorem widen_digits {a b q r k : Nat} (p : Nat) (hqr : q * b + r = a * Nat.pow 10 k) :
    (q * Nat.pow 10 p + r * Nat.pow 10 p / b) * b + r * Nat.pow 10 p % b =
      a * Nat.pow 10 (k + p) := by
  have hpow : Nat.pow 10 (k + p) = Nat.pow 10 k * Nat.pow 10 p := Nat.pow_add 10 _ _
  rw [hpow, ← Nat.mul_assoc, ← hqr]
  exact widen_nat b q r p

/-- Long division of a whole number by one at least as large: places are brought in until the
remainder is zero or the 28th place is reached, and only there is a digit rounded, so the
quotient is the exact one rounded half to even at the 28th place. -/
theorem develop_of_le {a b : Nat} (hb : 0 < b) (hab : a ≤ b) {q r : Nat} {scale : ℤ} {ie : Bool}
    (h0 : 0 ≤ scale) (h28 : scale ≤ 28) (hr : r < b)
    (hqr : q * b + r = a * Nat.pow 10 scale.toNat) :
    ∃ m s ie', develop b q r scale ie = some ⟨m, s, ie'⟩ ∧ 0 ≤ s ∧ s ≤ 28 ∧
      m * Nat.pow 10 (28 - s.toNat) = roundHalfEven (a * Nat.pow 10 28) b := by
  fun_induction develop b q r scale ie with
  | case1 q r scale ie result hmove =>
    have hq1 := quotient_succ_lt hb hab hqr (by omega)
    rcases @quotientMove_cases b q r scale ie (by omega) h0 h28 with
      ⟨hr0, h⟩ | ⟨hr0, h⟩ | ⟨-, p, -, -, -, h⟩
    · rw [hmove] at h
      cases h
      refine ⟨q, scale, ie, rfl, h0, h28, ?_⟩
      subst hr0
      have hsplit : a * Nat.pow 10 28 = q * Nat.pow 10 (28 - scale.toNat) * b := by
        have hpow : Nat.pow 10 28 = Nat.pow 10 scale.toNat * Nat.pow 10 (28 - scale.toNat) := by
          simp only [Nat.pow_eq]
          rw [← pow_add]
          congr 1
          omega
        rw [hpow, ← Nat.mul_assoc, ← hqr]
        ring
      rw [hsplit, roundHalfEven_mul_self _ hb]
    · rw [hmove] at h
      cases h
      rw [roundQuotient_of_lt hr (by omega)] at hmove
      have hs : scale = 28 := by
        rcases quotientMove_eq_finish h28 hmove with ⟨hr0', -⟩ | ⟨-, -, hs | hwide, -⟩
        · exact absurd hr0' hr0
        · exact hs
        · by_contra hs
          exact absurd hwide
            (not_le.2 (mul_ten_lt_of_le (quotient_le_of_le hb hab hqr) (by omega)))
      subst hs
      refine ⟨_, 28, true, roundQuotient_of_lt hr (by omega), by norm_num, le_rfl, ?_⟩
      rw [hqr, show (28 : ℤ).toNat = 28 from rfl, Nat.sub_self]
      exact Nat.mul_one _
    · rw [hmove] at h
      cases h
  | case2 q r scale ie p ie' hmove hp =>
    have hq1 := quotient_succ_lt hb hab hqr (by omega)
    have := quotientMove_widen (by omega) h0 h28 hmove
    omega
  | case3 q r scale ie p ie' hmove hp q1 hover =>
    have hq1 := quotient_succ_lt hb hab hqr (by omega)
    have := quotientMove_widen (by omega) h0 h28 hmove
    omega
  | case4 q r scale ie p ie' hmove hp q1 hq1 r1 q2 r2 hq2 =>
    exfalso
    have hle : q2 ≤ Nat.pow 10 (scale.toNat + p) := quotient_le_of_le hb hab (widen_digits p hqr)
    have := pow_ten_lt_mantissaBound (k := scale.toNat + p) (by omega)
    omega
  | case5 q r scale ie p ie' hmove hp q1 hq1 r1 q2 r2 hq2 ih =>
    have hk : (scale + p).toNat = scale.toNat + p := by omega
    exact ih (by omega) (by omega) (Nat.mod_lt _ hb) (hk ▸ widen_digits p hqr)

theorem SameNumber.at_28 {q s q' s' : Nat} (h : SameNumber q s (q', s')) (hs : s ≤ 28) :
    q' * Nat.pow 10 (28 - s') = q * Nat.pow 10 (28 - s) := by
  obtain ⟨hval, hs', -⟩ := h
  have hpow : ∀ k, k ≤ 28 → (10 : ℚ) ^ (28 - k) = 10 ^ 28 / 10 ^ k := fun k hk => by
    rw [eq_div_iff (by positivity), ← pow_add, Nat.sub_add_cancel hk]
  have hq : (q' : ℚ) * 10 ^ (28 - s') = q * 10 ^ (28 - s) := by
    rw [hpow s' (by omega), hpow s hs, mul_div_assoc', mul_div_assoc', mul_comm (q' : ℚ),
      mul_comm (q : ℚ), mul_div_assoc, mul_div_assoc]
    simp only at hval
    rw [hval]
  simp only [Nat.pow_eq]
  exact_mod_cast hq

theorem negative_of_ofParts?_plus {m s : Nat} {d : Decimal} (h : ofParts? false m s = some d) :
    d.negative = false :=
  (ofRawParts?_eq_some (show ofRawParts? false m s = some d by simpa [ofParts?] using h)).1

/-- A quotient of two counts `a ≤ b`, with `b` positive, is the exact quotient rounded half to
even at the 28th place. -/
theorem checkedDiv_ofSmallNat {a b : Nat} (hab : a ≤ b) (hb : 0 < b) (hbB : b < mantissaBound) :
    ∃ r, (ofSmallNat a).checkedDiv (ofSmallNat b) = some r ∧ r.negative = false ∧
      r.scale ≤ 28 ∧ r.mantissa * Nat.pow 10 (28 - r.scale) = roundHalfEven (a * Nat.pow 10 28) b := by
  have haB : a < mantissaBound := lt_of_le_of_lt hab hbB
  have hsa : ofSmallNat a = ⟨false, a, 0, haB, Nat.zero_le _⟩ := by simp [ofSmallNat, haB]
  have hsb : ofSmallNat b = ⟨false, b, 0, hbB, Nat.zero_le _⟩ := by simp [ofSmallNat, hbB]
  rw [hsa, hsb]
  rcases Nat.eq_zero_or_pos a with rfl | ha
  · refine ⟨zero, by simp [checkedDiv, isZero, hb.ne'], rfl, by decide, ?_⟩
    simp [zero, roundHalfEven_zero]
  obtain ⟨m, s, ie, hdev, hs0, hs28, hval⟩ := @develop_of_le a b hb hab (a / b) (a % b) 0 false
    le_rfl (by norm_num) (Nat.mod_lt _ hb) (by simp [Nat.div_add_mod'])
  have hm : m < mantissaBound := by
    have hle : roundHalfEven (a * Nat.pow 10 28) b ≤ Nat.pow 10 28 :=
      roundHalfEven_le_of_le (by rw [Nat.mul_comm]; exact Nat.mul_le_mul_left _ hab)
    have hpos : 0 < Nat.pow 10 (28 - s.toNat) := Nat.pow_pos (by norm_num)
    have : m ≤ Nat.pow 10 28 := le_trans (Nat.le_mul_of_pos_right m hpos) (hval ▸ hle)
    exact lt_of_le_of_lt this (pow_ten_lt_mantissaBound le_rfl)
  rcases hp : (if ie then trimZeros m s.toNat else (m, s.toNat)) with ⟨q', s'⟩
  have hsame : SameNumber m s.toNat (q', s') := by
    rw [← hp]
    split
    · exact sameNumber_trimZeros m s.toNat
    · exact SameNumber.refl m s.toNat
  obtain ⟨r, hr⟩ := ofParts?_isSome false (lt_of_le_of_lt hsame.2.2 hm)
    (le_trans hsame.2.1 (by unfold maxScale; omega))
  obtain ⟨hrm, hrs, -⟩ := ofParts?_eq_some hr
  refine ⟨r, ?_, ?_, by rw [hrs]; exact le_trans hsame.2.1 (by omega), ?_⟩
  · simp [checkedDiv, isZero, hb.ne', ha.ne', hdev, hp, hr]
  · exact negative_of_ofParts?_plus hr
  · rw [hrm, hrs, hsame.at_28 (by omega), hval]

/-- Rounding a decimal that is not negative to `dp ≤ 28` places rounds its digits, read at the
28th place, half to even at place `dp`. -/
theorem roundDp_at {d : Decimal} {dp : Nat} (hd : d.negative = false) (hdp : dp ≤ 28) :
    (d.roundDp dp).negative = false ∧ (d.roundDp dp).scale ≤ dp ∧
      (d.roundDp dp).mantissa * Nat.pow 10 (dp - (d.roundDp dp).scale) =
        roundHalfEven (d.mantissa * Nat.pow 10 (28 - d.scale)) (Nat.pow 10 (28 - dp)) := by
  have hs28 := d.scale_le
  unfold maxScale at hs28
  unfold roundDp roundTo
  split_ifs with hs hz
  · refine ⟨hd, hs, ?_⟩
    rw [roundHalfEven_shift_le (by omega), show 28 - d.scale - (28 - dp) = dp - d.scale by omega]
  · have hm : d.mantissa = 0 := by simpa [isZero] using hz
    have hzero : ofRawParts? d.negative 0 dp = some ⟨d.negative, 0, dp, by decide, hdp⟩ := by
      simp [ofRawParts?, hdp, maxScale, show 0 < mantissaBound by decide]
    rw [hzero, hm]
    exact ⟨hd, le_rfl, by simp [roundHalfEven_zero]⟩
  · have hle : roundHalfEven d.mantissa (Nat.pow 10 (d.scale - dp)) ≤ d.mantissa :=
      roundHalfEven_le_of_le (Nat.le_mul_of_pos_right _ (Nat.pow_pos (by norm_num)))
    obtain ⟨r, hr⟩ := ofParts?_isSome d.negative (s := dp) (lt_of_le_of_lt hle d.mantissa_lt)
      (by unfold maxScale; omega)
    obtain ⟨hrm, hrs, -⟩ := ofParts?_eq_some hr
    dsimp only
    rw [hr, Option.getD_some, hrm, hrs]
    have hshift := roundHalfEven_shift d.mantissa (28 - d.scale) (d.scale - dp)
    rw [show 28 - d.scale + (d.scale - dp) = 28 - dp by omega] at hshift
    refine ⟨?_, le_rfl, by rw [hshift, Nat.sub_self]; exact Nat.mul_one _⟩
    rw [hd] at hr
    exact negative_of_ofParts?_plus hr

end Decimal


/-- A decimal that is not negative, with at most `k` places, is its digits read at place `k`
over `10 ^ k`. -/
theorem Decimal.val_of_digits {d : Decimal} {k K : Nat} (hneg : d.negative = false)
    (hs : d.scale ≤ k) (h : d.mantissa * Nat.pow 10 (k - d.scale) = K) :
    d.val = K / 10 ^ k := by
  have hpow : (10 : ℚ) ^ k = 10 ^ d.scale * 10 ^ (k - d.scale) := by
    rw [← pow_add, Nat.add_sub_cancel' hs]
  rw [Decimal.val_eq, hneg, if_neg Bool.false_ne_true, ← h, hpow]
  push_cast [Nat.pow_eq]
  field_simp

/-- Read at four places, the confidence of a passing rule with `met` of its `total` conditions
met is the share `met / total` rounded half to even at the fourth place, for every total below
`10 ^ 24`: the quotient is rounded at the 28th place first, and that never moves it across a
midpoint of the grid of four places, nor onto one. -/
theorem computeConfidence_pass_digits {met total : Nat} (hmet : met ≤ total) (h0 : 0 < total)
    (htotal : total < Nat.pow 10 24) :
    (computeConfidence met total .pass).negative = false ∧
      (computeConfidence met total .pass).scale ≤ 4 ∧
      (computeConfidence met total .pass).mantissa *
          Nat.pow 10 (4 - (computeConfidence met total .pass).scale) =
        roundHalfEven (met * 10000) total := by
  have hB : total < mantissaBound := lt_trans htotal (Decimal.pow_ten_lt_mantissaBound (by norm_num))
  obtain ⟨r, hdiv, hneg, -, hval⟩ := Decimal.checkedDiv_ofSmallNat hmet h0 hB
  have hconf : computeConfidence met total .pass = r.roundDp 4 := by
    simp [computeConfidence, h0.ne', Decimal.div, hdiv, confidencePlaces]
  obtain ⟨h1, h2, h3⟩ := @Decimal.roundDp_at r 4 hneg (by norm_num)
  rw [hconf]
  refine ⟨h1, h2, ?_⟩
  have htwice := roundHalfEven_twice (N := met * 10000) h0 htotal (by decide)
  have hpow : Nat.pow 10 28 = 10000 * Nat.pow 10 24 := by decide
  rw [h3, hval, ← htwice, hpow, Nat.mul_assoc]


/-- The confidence of a passing rule is its share of met conditions rounded half to even at the
fourth place. -/
theorem computeConfidence_pass_val {met total : Nat} (hmet : met ≤ total) (h0 : 0 < total)
    (htotal : total < Nat.pow 10 24) :
    (computeConfidence met total .pass).val = (roundHalfEven (met * 10000) total : ℚ) / 10000 := by
  obtain ⟨hneg, hs, hdigits⟩ := computeConfidence_pass_digits hmet h0 htotal
  rw [Decimal.val_of_digits hneg hs hdigits]
  norm_num

theorem computeConfidence_of_zero_or_fail {met total : Nat} {outcome : RuleOutcome}
    (h : total = 0 ∨ outcome = .fail) : computeConfidence met total outcome = Decimal.zero := by
  simp [computeConfidence, h]

/-- The confidence of a rule with `met` of its `total` conditions met, for every pair of counts
that a 64-bit word holds: zero when the rule has no conditions or fails, and otherwise the share
`met / total` rounded half to even at the fourth place, so within half a unit of that place of
the share, with at most four places, between zero and one; and never smaller for more
conditions met. -/
theorem computeConfidence_share (met total : Nat) (outcome : RuleOutcome) (hmet : met ≤ total)
    (hword : total < UInt64.size) :
    ((total = 0 ∨ outcome = .fail) → computeConfidence met total outcome = Decimal.zero) ∧
    (0 < total → outcome = .pass →
      (computeConfidence met total outcome).val =
          (roundHalfEven (met * 10000) total : ℚ) / 10000 ∧
        |(computeConfidence met total outcome).val - met / total| ≤ 1 / 20000 ∧
        (computeConfidence met total outcome).scale ≤ 4 ∧
        0 ≤ (computeConfidence met total outcome).val ∧
        (computeConfidence met total outcome).val ≤ 1) ∧
    (∀ met', met ≤ met' → met' ≤ total →
      (computeConfidence met total outcome).val ≤ (computeConfidence met' total outcome).val) := by
  have htotal : total < Nat.pow 10 24 := lt_trans hword (by decide)
  refine ⟨computeConfidence_of_zero_or_fail, fun h0 hpass => ?_, fun met' hle hle' => ?_⟩
  · subst hpass
    have hT : (0 : ℚ) < total := by exact_mod_cast h0
    have hK : roundHalfEven (met * 10000) total ≤ 10000 :=
      roundHalfEven_le_of_le (by rw [Nat.mul_comm]; exact Nat.mul_le_mul_left _ hmet)
    have hK' : (roundHalfEven (met * 10000) total : ℚ) ≤ 10000 := by exact_mod_cast hK
    have hnear := roundHalfEven_sub_le (n := met * 10000) h0
    rw [computeConfidence_pass_val hmet h0 htotal]
    refine ⟨rfl, ?_, (computeConfidence_pass_digits hmet h0 htotal).2.1, by positivity, ?_⟩
    · have hshare : (met : ℚ) / total = ((met * 10000 : ℕ) : ℚ) / total / 10000 := by
        push_cast
        ring
      rw [hshare, ← sub_div, abs_div, abs_of_pos (by norm_num : (0 : ℚ) < 10000)]
      linarith [div_le_div_of_nonneg_right hnear (by norm_num : (0 : ℚ) ≤ 10000)]
    · rw [div_le_one (by norm_num)]
      exact hK'
  · rcases Nat.eq_zero_or_pos total with h0 | h0
    · simp [computeConfidence_of_zero_or_fail (Or.inl h0)]
    cases outcome with
    | fail => simp [computeConfidence_of_zero_or_fail (Or.inr rfl)]
    | pass =>
      rw [computeConfidence_pass_val hmet h0 htotal, computeConfidence_pass_val hle' h0 htotal]
      have hmono := roundHalfEven_mono h0 (Nat.mul_le_mul_right 10000 hle)
      have : (roundHalfEven (met * 10000) total : ℚ) ≤ roundHalfEven (met' * 10000) total := by
        exact_mod_cast hmono
      linarith

theorem computeConfidence_share_two_of_three :
    2 ≤ 3 ∧ 3 < UInt64.size ∧
      (((3 = 0 ∨ RuleOutcome.pass = .fail) → computeConfidence 2 3 .pass = Decimal.zero) ∧
      (0 < 3 → RuleOutcome.pass = .pass →
        (computeConfidence 2 3 .pass).val = (roundHalfEven (2 * 10000) 3 : ℚ) / 10000 ∧
          |(computeConfidence 2 3 .pass).val - (2 : ℕ) / (3 : ℕ)| ≤ 1 / 20000 ∧
          (computeConfidence 2 3 .pass).scale ≤ 4 ∧
          0 ≤ (computeConfidence 2 3 .pass).val ∧ (computeConfidence 2 3 .pass).val ≤ 1) ∧
      (∀ met', 2 ≤ met' → met' ≤ 3 →
        (computeConfidence 2 3 .pass).val ≤ (computeConfidence met' 3 .pass).val)) :=
  ⟨by decide, by decide, computeConfidence_share 2 3 .pass (by decide) (by decide)⟩

example : computeConfidence 2 3 .pass = Decimal.ofMantissa 6667 4 := by decide +kernel

end ForexJournal
