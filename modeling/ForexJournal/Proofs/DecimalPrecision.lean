import Mathlib
import ForexJournal.Proofs.DecimalValue

/-!
# The precision of decimal arithmetic

A checked operation that gives a result gives the exact one to the precision of a decimal: off by
at most half a unit of the 28th place and half a unit of the 28th significant digit together
(`Decimal.Approx`). Every rounding happens at the 28th place, or where the exact value has 28
digits at the kept place, or not at all, and each way the bound holds
(`abs_sub_le_precision`).

Sums and differences keep it (`Decimal.Fits.approx`), and so do products
(`Decimal.checkedMul_approx`) and quotients (`Decimal.checkedDiv_approx`). A quotient is
followed through every round of its long division from whatever scale it starts at, negative
ones included, since a divisor may have more places than its dividend. A fitted value below a
tenth has lost no digit at all (`Decimal.Fits.eq_of_abs_lt`).
-/

namespace ForexJournal

theorem le_foldl_max (l : List Nat) (a : Nat) : a ≤ l.foldl Nat.max a := by
  induction l generalizing a with
  | nil => exact le_rfl
  | cons x l ih => exact (Nat.le_max_left a x).trans (ih _)

theorem le_foldl_max_of_mem {l : List Nat} {x : Nat} (hx : x ∈ l) (a : Nat) :
    x ≤ l.foldl Nat.max a := by
  induction l generalizing a with
  | nil => cases hx
  | cons y l ih =>
    rw [List.foldl_cons]
    rcases List.mem_cons.1 hx with rfl | hx
    · exact (Nat.le_max_right a x).trans (le_foldl_max l _)
    · exact ih hx _

/-- Half a unit of the `g`th place is within a decimal's precision of `x` when the value is
exact, when `g` is the 28th place, or when `x` has 28 digits at place `g`. -/
theorem abs_sub_le_precision {y x : ℚ} {g : Nat} (hnear : |y - x| ≤ 1 / (2 * 10 ^ g))
    (hprec : y = x ∨ g = 28 ∨ (10 : ℚ) ^ 27 / 10 ^ g ≤ |x|) :
    |y - x| ≤ (10 * |x| + 1) / (2 * 10 ^ 28) := by
  have hx := abs_nonneg x
  rcases hprec with rfl | rfl | hwide
  · rw [sub_self, abs_zero]
    positivity
  · exact hnear.trans (div_le_div_of_nonneg_right (by linarith) (by positivity))
  · have hunit : 1 / (2 * 10 ^ g) = (10 : ℚ) ^ 27 / 10 ^ g * 10 / (2 * 10 ^ 28) := by
      field_simp
    rw [hunit] at hnear
    exact hnear.trans (div_le_div_of_nonneg_right (by linarith) (by positivity))

/-- `abs_sub_le_precision` for a value not below zero, at a place given as an integer that is
not negative. -/
theorem abs_sub_le_precision_zpow {y x : ℚ} {g : ℤ} (hx : 0 ≤ x) (hg : 0 ≤ g)
    (hnear : |y - x| ≤ 1 / (2 * 10 ^ g))
    (hprec : y = x ∨ g = 28 ∨ (10 : ℚ) ^ 27 / 10 ^ g ≤ x) :
    |y - x| ≤ (10 * x + 1) / (2 * 10 ^ 28) := by
  obtain ⟨n, rfl⟩ := Int.eq_ofNat_of_zero_le hg
  simp only [zpow_natCast] at hnear hprec
  have h := abs_sub_le_precision hnear (by
    rw [abs_of_nonneg hx]
    exact hprec.imp_right (Or.imp_left (by omega)))
  rwa [abs_of_nonneg hx] at h

namespace Decimal

/-- `r` is `x` to the precision of a decimal: off by at most half a unit of the 28th place and
half a unit of the 28th significant digit together. -/
def Approx (x : ℚ) (r : Decimal) : Prop :=
  |r.val - x| ≤ (10 * |x| + 1) / (2 * 10 ^ 28)

theorem Approx.of_val_eq {x : ℚ} {r : Decimal} (h : r.val = x) : Approx x r := by
  unfold Approx
  rw [h, sub_self, abs_zero]
  positivity

theorem Approx.le {x : ℚ} {r : Decimal} (h : Approx x r) (hx : 0 ≤ x) :
    r.val ≤ x + (10 * x + 1) / (2 * 10 ^ 28) := by
  have := (abs_le.1 h).2
  rw [abs_of_nonneg hx] at this
  linarith

/-- A fitted sum or difference is within a decimal's precision. -/
theorem Fits.approx {x : ℚ} {r : Decimal} (h : Fits x r) : Approx x r :=
  abs_sub_le_precision h.near (h.exact_or_wide.imp_right .inr)

/-- A fitted value is exact or at least a tenth: one with 28 digits at a place of at most 28
is at least a tenth. -/
theorem Fits.eq_or_tenth_le {x : ℚ} {r : Decimal} (h : Fits x r) : r.val = x ∨ 1 / 10 ≤ |x| := by
  refine h.exact_or_wide.imp_right fun hwide => le_trans ?_ hwide
  have hg : (10 : ℚ) ^ r.scale ≤ 10 ^ 28 := pow_le_pow_right₀ (by norm_num) r.scale_le
  rw [le_div_iff₀ (by positivity)]
  calc (1 : ℚ) / 10 * 10 ^ r.scale ≤ 1 / 10 * 10 ^ 28 := by gcongr
    _ = 10 ^ 27 := by norm_num

/-- A fitted value below a tenth has lost no digit. -/
theorem Fits.eq_of_abs_lt {x : ℚ} {r : Decimal} (h : Fits x r) (hx : |x| < 1 / 10) :
    r.val = x :=
  h.eq_or_tenth_le.resolve_right (not_le.2 hx)

theorem Fits.eq_of_abs_val_le {x : ℚ} {r : Decimal} (h : Fits x r) (hr : |r.val| ≤ 1 / 20) :
    r.val = x := by
  refine h.eq_of_abs_lt ?_
  have happrox : |r.val - x| ≤ (10 * |x| + 1) / (2 * 10 ^ 28) := h.approx
  have htri := abs_sub_abs_le_abs_sub x r.val
  rw [abs_sub_comm] at htri
  linarith

/-! ## Products -/

/-- Dropping `k` digits of `v` at scale `s` is within a decimal's precision when no digit is
dropped, when the 28th place is kept, or when one digit fewer would not fit. -/
theorem roundedAt_approx {v : ℤ} {s k : Nat} (hks : k ≤ s)
    (hk : k = 0 ∨ s - k = 28 ∨
      (1 ≤ k ∧ mantissaBound ≤ roundHalfEven v.natAbs (Nat.pow 10 (k - 1)))) :
    |roundedAt v s k - v / 10 ^ s| ≤ (10 * |(v : ℚ) / 10 ^ s| + 1) / (2 * 10 ^ 28) := by
  refine abs_sub_le_precision (roundedAt_near hks) ?_
  rcases hk with rfl | hk | ⟨hk1, hwide⟩
  · exact .inl roundedAt_zero
  · exact .inr (.inl hk)
  · exact .inr (.inr (roundedAt_wide hk1 hks hwide))

/-- Fitting a mantissa, dropping at least the places past the 28th and more only when fewer
do not fit, is within a decimal's precision. -/
theorem pairValue_approx {m s : Nat} {p : Nat × Nat} (h : fitDigits m s (s - maxScale) = some p) :
    |pairValue p - m / 10 ^ s| ≤ (10 * ((m : ℚ) / 10 ^ s) + 1) / (2 * 10 ^ 28) := by
  obtain ⟨k, hlk, hks, -, rfl, hmin⟩ := fitDigits_eq_some h
  have hv : pairValue (roundHalfEven m (Nat.pow 10 k), s - k) = roundedAt m s k := by
    simp [pairValue, roundedAt]
  have hk : k = 0 ∨ s - k = 28 ∨
      (1 ≤ k ∧ mantissaBound ≤ roundHalfEven (m : ℤ).natAbs (Nat.pow 10 (k - 1))) := by
    rcases Nat.eq_zero_or_pos k with hk0 | hk0
    · exact .inl hk0
    rcases Nat.lt_or_ge (s - maxScale) k with hlt | hge
    · exact .inr (.inr ⟨hk0, by simpa using hmin (k - 1) (by omega) (by omega)⟩)
    · exact .inr (.inl (by unfold maxScale at hlk hge; omega))
  have happrox := roundedAt_approx (v := m) hks hk
  rw [hv]
  simpa [abs_of_nonneg (by positivity : (0 : ℚ) ≤ m / 10 ^ s)] using happrox

private theorem abs_sign (c : Bool) : |(if c then -1 else 1 : ℚ)| = 1 := by
  cases c <;> simp

/-- A product is within a decimal's precision of the product of the values. -/
theorem checkedMul_approx {a b r : Decimal} (h : a.checkedMul b = some r) :
    Approx (a.val * b.val) r := by
  cases ha : a.isZero
  · cases hb : b.isZero
    · have hm := checkedMul_map_val ha hb
      rw [h, Option.map_some] at hm
      obtain ⟨p, hp, hv⟩ := Option.map_eq_some_iff.1 hm.symm
      have hx : a.val * b.val = (if a.negative != b.negative then -1 else 1) *
          ((a.mantissa * b.mantissa : ℕ) / 10 ^ (a.scale + b.scale)) := by
        rw [val_eq a, val_eq b, pow_add]
        cases a.negative <;> cases b.negative <;> simp <;> field_simp
      unfold Approx
      rw [← hv, hx, ← mul_sub, abs_mul, abs_mul, abs_sign, one_mul, one_mul,
        abs_of_nonneg (by positivity :
          (0 : ℚ) ≤ ((a.mantissa * b.mantissa : ℕ) : ℚ) / 10 ^ (a.scale + b.scale))]
      exact pairValue_approx hp
    · rw [checkedMul_of_isZero_right hb] at h
      cases h
      exact Approx.of_val_eq (by simp [val_of_isZero hb])
  · rw [checkedMul_of_isZero_left ha] at h
    cases h
    exact Approx.of_val_eq (by simp [val_of_isZero ha])

/-! ## Quotients -/

/-- When no place can be brought into a quotient short of the 28th, its digits already fill the
mantissa's width. -/
theorem quotientStep_eq_zero {q : Nat} {scale : ℤ} (h : quotientStep q scale = some 0)
    (h28 : scale < 28) : 0 ≤ scale ∧ mantissaBound ≤ q * 10 := by
  unfold quotientStep at h
  dsimp only at h
  generalize hcap : (if 19 < scale then (28 - scale).toNat else 9) = cap at h
  have hcap1 : 1 ≤ cap := by
    subst hcap
    split <;> omega
  generalize hp : ((List.range (cap + 1)).filter fun p => q * Nat.pow 10 p < mantissaBound).foldl
    Nat.max 0 = p at h
  split_ifs at h with h9 hneg
  · simp at h
  · cases h
    refine ⟨by omega, ?_⟩
    by_contra hq
    have hmem : 1 ∈ (List.range (cap + 1)).filter fun p => q * Nat.pow 10 p < mantissaBound := by
      simp only [List.mem_filter, List.mem_range, decide_eq_true_eq]
      exact ⟨by omega, by simpa using not_le.1 hq⟩
    have := le_foldl_max_of_mem hmem 0
    omega

/-- A finished round of long division ends with an exact quotient, or rounds its last digit at
the 28th place or where the digits fill the mantissa's width. -/
theorem quotientMove_eq_finish {b q r : Nat} {scale : ℤ} {ie : Bool} {res : Quotient}
    (h28 : scale ≤ 28) (h : quotientMove b q r scale ie = .finish (some res)) :
    (r = 0 ∧ 0 ≤ scale ∧ res = ⟨q, scale, ie⟩) ∨
    (r ≠ 0 ∧ 0 ≤ scale ∧ (scale = 28 ∨ mantissaBound ≤ q * 10) ∧
      roundQuotient q r b scale = some res) := by
  unfold quotientMove at h
  split_ifs at h with hr h0 hs
  · cases h
    exact .inl ⟨hr, h0, rfl⟩
  · exact .inr ⟨hr, by omega, .inl hs, QuotientMove.finish.inj h⟩
  · split at h
    · cases h
    · rename_i hstep
      obtain ⟨h0, hwide⟩ := quotientStep_eq_zero hstep (by omega)
      exact .inr ⟨hr, h0, .inr hwide, QuotientMove.finish.inj h⟩
    · cases h

theorem pow_le_of_fills {q : Nat} (hq : mantissaBound ≤ q + 1) : (10 : ℚ) ^ 28 ≤ q := by
  have : 10 ^ 28 ≤ q := by unfold mantissaBound at hq; omega
  exact_mod_cast this

theorem pow_le_of_fills_ten {q : Nat} (hq : mantissaBound ≤ q * 10) : (10 : ℚ) ^ 27 ≤ q := by
  have : 10 ^ 27 ≤ q := by unfold mantissaBound at hq; omega
  exact_mod_cast this

/-- The quotient digits `q` at `scale` are not above the number they stand for with the
remainder. -/
theorem div_le_quotient_target {q r b : Nat} (hb : 0 < b) (scale : ℤ) :
    (q : ℚ) / 10 ^ scale ≤ (q * b + r) / (b * 10 ^ scale) := by
  rw [quotient_target hb]
  have : (0 : ℚ) ≤ r / b := by positivity
  exact div_le_div_of_nonneg_right (by linarith) (zpow_pos (by norm_num) scale).le

/-- Rounding the last digit of a quotient whose digits end at the 28th place or fill the
mantissa's width is within a decimal's precision. -/
theorem roundQuotient_approx {q r b : Nat} {scale : ℤ} {res : Quotient} (hb : 0 < b)
    (hr : r < b) (hq : q < mantissaBound) (h0 : 0 ≤ scale)
    (hprec : scale = 28 ∨ mantissaBound ≤ q * 10) (h : roundQuotient q r b scale = some res) :
    0 ≤ res.scale ∧ |(res.mantissa : ℚ) / 10 ^ res.scale - (q * b + r) / (b * 10 ^ scale)| ≤
      (10 * ((q * b + r) / (b * 10 ^ scale)) + 1) / (2 * 10 ^ 28) := by
  have hX := div_le_quotient_target (r := r) hb (q := q) scale
  have hX0 : (0 : ℚ) ≤ (q * b + r) / (b * 10 ^ scale) :=
    le_trans (by positivity) hX
  by_cases hfirst : 1 ≤ scale ∨ q + 1 < mantissaBound
  · obtain ⟨m, s, hrq, -, h1, h2, h3, herr⟩ := roundQuotient_spec hb hr hq hfirst
    rw [hrq] at h
    cases h
    have hs : s = scale ∨ (s = scale - 1 ∧ q + 1 = mantissaBound) := by
      rcases (show s = scale ∨ s = scale - 1 by omega) with hs | hs
      · exact .inl hs
      · refine .inr ⟨hs, ?_⟩
        by_contra hq1
        have := h3 (by omega)
        omega
    have hs0 : 0 ≤ s := by omega
    refine ⟨hs0, abs_sub_le_precision_zpow hX0 hs0 herr (.inr ?_)⟩
    rcases hs with rfl | ⟨rfl, hq1⟩
    · rcases hprec with h28 | hwide
      · exact .inl h28
      · exact .inr (le_trans (div_le_div_of_nonneg_right (pow_le_of_fills_ten hwide)
          (zpow_pos (by norm_num) _).le) hX)
    · have hpow : (10 : ℚ) ^ 27 / 10 ^ (scale - 1) = 10 ^ 28 / 10 ^ scale := by
        rw [zpow_sub₀ (by norm_num), zpow_one]
        field_simp
      refine .inr ?_
      rw [hpow]
      exact le_trans (div_le_div_of_nonneg_right (pow_le_of_fills hq1.ge)
        (zpow_pos (by norm_num) _).le) hX
  · obtain rfl : scale = 0 := by omega
    have hq1 : q + 1 = mantissaBound := by omega
    unfold roundQuotient at h
    split_ifs at h with hup hfit
    · omega
    · simp [dropOverflowDigit] at h
    · cases h
      have hb' : (0 : ℚ) < b := by exact_mod_cast hb
      have hhalf : (r : ℚ) / b ≤ 1 / 2 := by
        rw [div_le_iff₀ hb']
        have : 2 * r ≤ b := by omega
        have : (2 * r : ℚ) ≤ b := by exact_mod_cast this
        linarith
      have hr0 : (0 : ℚ) ≤ r / b := by positivity
      refine ⟨le_rfl, abs_sub_le_precision_zpow hX0 le_rfl ?_ (.inr (.inr ?_))⟩
      · rw [quotient_target hb, zpow_zero, div_one, div_one, abs_le]
        constructor <;> linarith
      · have hX' : (q : ℚ) ≤ (q * b + r) / b := by simpa using hX
        rw [zpow_zero, div_one]
        simpa using le_trans (pow_le_of_fills_ten (by omega)) hX'

/-- Long division from any scale up to 28: a quotient that does not overflow is within a
decimal's precision of the exact quotient, at a scale of at least 0. -/
theorem develop_approx {b : Nat} (hb : 0 < b) {q r : Nat} {scale : ℤ} {ie : Bool}
    {res : Quotient} (hr : r < b) (hq : q < mantissaBound) (h28 : scale ≤ 28)
    (h : develop b q r scale ie = some res) :
    0 ≤ res.scale ∧ |(res.mantissa : ℚ) / 10 ^ res.scale - (q * b + r) / (b * 10 ^ scale)| ≤
      (10 * ((q * b + r) / (b * 10 ^ scale)) + 1) / (2 * 10 ^ 28) := by
  fun_induction develop b q r scale ie generalizing res with
  | case1 q r scale ie result hmove =>
    rw [h] at hmove
    rcases quotientMove_eq_finish h28 hmove with ⟨rfl, h0, rfl⟩ | ⟨-, h0, hprec, hround⟩
    · have hb' : (b : ℚ) ≠ 0 := by exact_mod_cast hb.ne'
      have hexact : ((q : ℚ) * b + ((0 : ℕ) : ℚ)) / (b * 10 ^ scale) = q / 10 ^ scale := by
        rw [Nat.cast_zero, add_zero, mul_comm (b : ℚ), mul_div_mul_right _ _ hb']
      refine ⟨h0, ?_⟩
      rw [hexact, sub_self, abs_zero]
      positivity
    · exact roundQuotient_approx hb hr hq h0 hprec hround
  | case2 => cases h
  | case3 => cases h
  | case4 q r scale ie p ie' hmove hp q1 hq1 r1 q2 r2 =>
    rename_i hq2
    obtain ⟨⟨m, s⟩, hd, rfl⟩ := Option.map_eq_some_iff.1 h
    have hu : 1 ≤ scale + p := by
      unfold dropOverflowDigit at hd
      split at hd
      · cases hd
      · omega
    have hb' : (0 : ℚ) < b := by exact_mod_cast hb
    have hr2 : r2 < b := Nat.mod_lt _ hb
    obtain ⟨m', hd', -, herr⟩ := @dropOverflowDigit_spec q2 (scale + p)
      (r2 != 0) ((r2 : ℚ) / b) hu (by positivity)
      (by rw [div_lt_one hb']; exact_mod_cast hr2)
      (by simp [Nat.pos_iff_ne_zero, hb'])
    rw [hd'] at hd
    cases hd
    have hpow : (10 : ℚ) ^ (scale + p) = 10 * 10 ^ (scale + p - 1) := by
      rw [← zpow_one_add₀ (by norm_num)]
      congr 1
      ring
    have hX : (q * b + r : ℚ) / (b * 10 ^ scale) = (q2 + r2 / b) / 10 ^ (scale + p) :=
      (widen_value hb scale).symm
    have hX0 : (0 : ℚ) ≤ (q2 + r2 / b) / 10 ^ (scale + p) := by positivity
    dsimp only
    refine ⟨by omega, ?_⟩
    rw [hX]
    refine abs_sub_le_precision_zpow (g := scale + p - 1) hX0 (by omega) ?_ (.inr (.inr ?_))
    · rw [hpow, ← div_div]
      exact abs_div_zpow_le herr
    · have hq2' : (10 : ℚ) ^ 28 ≤ q2 := pow_le_of_fills (by omega)
      have hr0 : (0 : ℚ) ≤ r2 / b := by positivity
      rw [hpow, div_le_div_iff₀ (zpow_pos (by norm_num) _) (by positivity)]
      have h10 : (0 : ℚ) < 10 ^ (scale + p - 1) := zpow_pos (by norm_num) _
      nlinarith
  | case5 q r scale ie p ie' hmove hp q1 hq1 r1 q2 r2 hq2 =>
    rename_i ih
    obtain ⟨hs0, herr⟩ := ih (Nat.mod_lt _ hb) (by omega) (by omega) h
    refine ⟨hs0, ?_⟩
    rw [← widen_value hb scale, ← quotient_target hb]
    exact herr

/-- A quotient is within a decimal's precision of the quotient of the values. -/
theorem checkedDiv_approx {a b r : Decimal} (h : a.checkedDiv b = some r) :
    Approx (a.val / b.val) r := by
  unfold checkedDiv at h
  split at h
  · cases h
  rename_i hb
  split at h
  · rename_i ha
    cases h
    exact Approx.of_val_eq (by simp [val_of_isZero ha])
  dsimp only at h
  split at h
  · cases h
  rename_i m s ie hdev
  have hbm : 0 < b.mantissa := Nat.pos_of_ne_zero (by simpa [isZero] using hb)
  have has := a.scale_le
  have hbs := b.scale_le
  unfold maxScale at has hbs
  obtain ⟨hs0, herr⟩ := develop_approx hbm (Nat.mod_lt _ hbm)
    (lt_of_le_of_lt (Nat.div_le_self _ _) a.mantissa_lt) (by omega) hdev
  dsimp only at hs0 herr
  rcases hp : (if ie then trimZeros m s.toNat else (m, s.toNat)) with ⟨q', s'⟩
  rw [hp] at h
  have hsame : SameNumber m s.toNat (q', s') := by
    rw [← hp]
    split
    · exact sameNumber_trimZeros m s.toNat
    · exact SameNumber.refl m s.toNat
  obtain ⟨-, -, hval⟩ := ofParts?_eq_some h
  have hpow : (10 : ℚ) ^ s.toNat = 10 ^ s := by
    rw [← zpow_natCast, Int.toNat_of_nonneg hs0]
  have hN : ((a.mantissa / b.mantissa : ℕ) : ℚ) * b.mantissa + (a.mantissa % b.mantissa : ℕ) =
      a.mantissa := by
    exact_mod_cast Nat.div_add_mod' a.mantissa b.mantissa
  rw [hN] at herr
  have hx : a.val / b.val = (if a.negative != b.negative then -1 else 1) *
      (a.mantissa / (b.mantissa * 10 ^ ((a.scale : ℤ) - b.scale))) := by
    have hb' : (b.mantissa : ℚ) ≠ 0 := by exact_mod_cast hbm.ne'
    rw [val_eq a, val_eq b, zpow_sub₀ (by norm_num), zpow_natCast, zpow_natCast]
    cases a.negative <;> cases b.negative <;> simp <;> field_simp
  have hrv : r.val = (if a.negative != b.negative then -1 else 1) * (m / 10 ^ s) := by
    rw [hval, ← hpow, ← hsame.1]
    cases a.negative != b.negative <;> simp [neg_div]
  unfold Approx
  rw [hrv, hx, ← mul_sub, abs_mul, abs_mul, abs_sign, one_mul, one_mul,
    abs_of_nonneg (by positivity :
      (0 : ℚ) ≤ a.mantissa / (b.mantissa * 10 ^ ((a.scale : ℤ) - b.scale)))]
  exact herr

end Decimal

end ForexJournal
