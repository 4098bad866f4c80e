import Mathlib
import ForexJournal.Proofs.DecimalRounding

/-!
# Quotients of decimals

A quotient is developed by long division: the integer quotient of the mantissas first, then
groups of digits brought in from the remainder, as many places as fit, until the remainder is
zero, the scale reaches 28 or no place fits; the last digit is then rounded half to even. The
invariant of that loop is that the digits so far and the remainder still stand for the exact
quotient (`quotient * divisor + remainder` is the dividend at the current scale), so the result
is the exact quotient within half a unit of its last place (`Decimal.develop_spec`).

Main statement: a quotient by a positive whole number never overflows and is rounded to a grid
at least as fine as the dividend's (`Decimal.checkedDiv_scales`).
-/

namespace ForexJournal

private theorem foldl_max_mem (l : List Nat) (a : Nat) :
    l.foldl Nat.max a = a ∨ l.foldl Nat.max a ∈ l := by
  induction l generalizing a with
  | nil => exact .inl rfl
  | cons x l ih =>
    rw [List.foldl_cons]
    rcases ih (Nat.max a x) with h | h
    · rw [h]
      unfold Nat.max
      rcases Nat.le_total a x with hax | hxa
      · rw [Nat.max_eq_right hax]
        exact .inr List.mem_cons_self
      · exact .inl (Nat.max_eq_left hxa)
    · exact .inr (List.mem_cons_of_mem _ h)

namespace Decimal

/-- The places brought into a quotient in one round fit the mantissa and keep the scale at
most 28. -/
theorem quotientStep_spec {q : Nat} {scale : ℤ} (hq : q < mantissaBound) (h0 : 0 ≤ scale)
    (h28 : scale ≤ 28) :
    ∃ p, quotientStep q scale = some p ∧ scale + p ≤ 28 ∧ q * Nat.pow 10 p < mantissaBound := by
  unfold quotientStep
  dsimp only
  generalize hcap : (if 19 < scale then (28 - scale).toNat else 9) = cap
  have hcap' : scale + cap ≤ 28 ∧ cap ≤ 9 := by
    subst hcap
    split <;> omega
  have hp : ∀ p, p = ((List.range (cap + 1)).filter fun p => q * Nat.pow 10 p < mantissaBound).foldl
      Nat.max 0 → p ≤ cap ∧ q * Nat.pow 10 p < mantissaBound := by
    rintro p rfl
    rcases foldl_max_mem ((List.range (cap + 1)).filter fun p => q * Nat.pow 10 p < mantissaBound) 0
      with h | h
    · rw [h]
      exact ⟨Nat.zero_le _, by simpa using hq⟩
    · simp only [List.mem_filter, List.mem_range, decide_eq_true_eq] at h
      exact ⟨by omega, h.2⟩
  obtain ⟨hle, hfit⟩ := hp _ rfl
  split
  · rename_i h9
    rw [h9] at hle hfit
    exact ⟨9, rfl, by omega, hfit⟩
  · rw [if_neg (by omega)]
    exact ⟨_, rfl, by omega, hfit⟩

/-- What one round of long division does, for a quotient that fits and a scale from 0 to 28: it
stops at an exact quotient, rounds the last digit, or brings in `p ≥ 1` places that fit. -/
theorem quotientMove_cases {b q r : Nat} {scale : ℤ} {ie : Bool} (hq : q < mantissaBound)
    (h0 : 0 ≤ scale) (h28 : scale ≤ 28) :
    (r = 0 ∧ quotientMove b q r scale ie = .finish (some ⟨q, scale, ie⟩)) ∨
    (r ≠ 0 ∧ quotientMove b q r scale ie = .finish (roundQuotient q r b scale)) ∨
    (r ≠ 0 ∧ ∃ p : Nat, 1 ≤ p ∧ scale + p ≤ 28 ∧ q * Nat.pow 10 p < mantissaBound ∧
      quotientMove b q r scale ie = .widen p true) := by
  unfold quotientMove
  by_cases hr : r = 0
  · exact .inl ⟨hr, by simp [hr, h0]⟩
  rw [if_neg hr]
  by_cases h28' : scale = 28
  · exact .inr (.inl ⟨hr, by rw [if_pos h28']⟩)
  rw [if_neg h28']
  obtain ⟨p, hp, hps, hfit⟩ := quotientStep_spec hq h0 h28
  rw [hp]
  cases p with
  | zero => exact .inr (.inl ⟨hr, rfl⟩)
  | succ p => exact .inr (.inr ⟨hr, p + 1, by omega, hps, hfit, rfl⟩)

/-- A round that brings in places brings in at least one, stays within the 28th place, and
the digits still fit after it. -/
theorem quotientMove_widen {b q r p : Nat} {scale : ℤ} {ie ie' : Bool} (hq : q < mantissaBound)
    (h0 : 0 ≤ scale) (h28 : scale ≤ 28) (hmove : quotientMove b q r scale ie = .widen p ie') :
    1 ≤ p ∧ scale + p ≤ 28 ∧ q * Nat.pow 10 p < mantissaBound := by
  rcases @quotientMove_cases b q r scale ie hq h0 h28 with
    ⟨-, h⟩ | ⟨-, h⟩ | ⟨-, p', hp1, hps, hfit, h⟩ <;> rw [hmove] at h <;> cases h
  exact ⟨hp1, hps, hfit⟩

/-- Dropping the last digit of `x + f`, for a fraction `0 ≤ f < 1` that is nonzero exactly when
`sticky` is set, rounds to within half a unit. -/
theorem dropOverflowDigit_spec {x : Nat} {u : ℤ} {sticky : Bool} {f : ℚ} (hu : 1 ≤ u)
    (hf0 : 0 ≤ f) (hf1 : f < 1) (hs : sticky = true ↔ 0 < f) :
    ∃ m, dropOverflowDigit x u sticky = some (m, u - 1) ∧ m ≤ x / 10 + 1 ∧
      |(m : ℚ) - (x + f) / 10| ≤ 1 / 2 := by
  unfold dropOverflowDigit
  rw [if_neg (by omega)]
  refine ⟨_, rfl, by split <;> omega, ?_⟩
  have hx : (x : ℚ) = 10 * (x / 10 : ℕ) + (x % 10 : ℕ) := by exact_mod_cast (Nat.div_add_mod x 10).symm
  have hd : x % 10 < 10 := Nat.mod_lt _ (by norm_num)
  rw [hx, abs_le]
  split_ifs with hup
  · have hd5 : (5 : ℚ) ≤ (x % 10 : ℕ) := by
      have : 5 ≤ x % 10 := by omega
      exact_mod_cast this
    have hd9 : ((x % 10 : ℕ) : ℚ) ≤ 9 := by exact_mod_cast (by omega : x % 10 ≤ 9)
    push_cast
    constructor <;> linarith
  · have hd5 : ((x % 10 : ℕ) : ℚ) + f ≤ 5 := by
      rcases Nat.lt_or_ge (x % 10) 5 with h | h
      · have : ((x % 10 : ℕ) : ℚ) ≤ 4 := by exact_mod_cast (by omega : x % 10 ≤ 4)
        linarith
      · have h5 : x % 10 = 5 := by omega
        have hf : f = 0 := by
          by_contra hf
          exact hup (.inr ⟨h5, .inl (hs.2 (lt_of_le_of_ne hf0 (Ne.symm hf)))⟩)
        rw [h5, hf]
        norm_num
    have : (0 : ℚ) ≤ (x % 10 : ℕ) := Nat.cast_nonneg _
    constructor <;> linarith

theorem abs_div_zpow_le {x y : ℚ} {s : ℤ} (h : |x - y| ≤ 1 / 2) :
    |x / 10 ^ s - y / 10 ^ s| ≤ 1 / (2 * 10 ^ s) := by
  have h10 : (0 : ℚ) < 10 ^ s := zpow_pos (by norm_num) s
  rw [← sub_div, abs_div, abs_of_pos h10]
  calc _ ≤ (1 / 2) / (10 : ℚ) ^ s := div_le_div_of_nonneg_right h h10.le
    _ = _ := by ring

theorem quotient_target {q r b : Nat} (hb : 0 < b) (s : ℤ) :
    (q * b + r : ℚ) / (b * 10 ^ s) = (q + r / b) / 10 ^ s := by
  have hb' : (b : ℚ) ≠ 0 := by exact_mod_cast hb.ne'
  field_simp

/-- Rounding the last digit of a quotient: within half a unit, and one place fewer only when the
rounded mantissa would not fit. -/
theorem roundQuotient_spec {q r b : Nat} {scale : ℤ} (hb : 0 < b) (hr : r < b)
    (hq : q < mantissaBound) (hfirst : 1 ≤ scale ∨ q + 1 < mantissaBound) :
    ∃ m s, roundQuotient q r b scale = some ⟨m, s, true⟩ ∧ m < mantissaBound ∧
      scale ≤ s + 1 ∧ s ≤ scale ∧ (q + 1 < mantissaBound → s = scale) ∧
      |(m : ℚ) / 10 ^ s - (q * b + r) / (b * 10 ^ scale)| ≤ 1 / (2 * 10 ^ s) := by
  have hb' : (0 : ℚ) < b := by exact_mod_cast hb
  have hrb0 : (0 : ℚ) ≤ r / b := by positivity
  have hrb1 : (r : ℚ) / b < 1 := by rw [div_lt_one hb']; exact_mod_cast hr
  rw [quotient_target hb]
  unfold roundQuotient
  split_ifs with hup hfit
  · have hhalf : (1 / 2 : ℚ) ≤ r / b := by
      rw [le_div_iff₀ hb']
      have : b ≤ 2 * r := by omega
      have : (b : ℚ) ≤ 2 * r := by exact_mod_cast this
      linarith
    refine ⟨q + 1, scale, rfl, hfit, by omega, le_rfl, fun _ => rfl, abs_div_zpow_le ?_⟩
    rw [abs_le]
    push_cast
    constructor <;> linarith
  · have hB : q + 1 = mantissaBound := by omega
    have hs : 1 ≤ scale := by omega
    have hq' : (q : ℚ) = 79228162514264337593543950335 := by
      have : q = 79228162514264337593543950335 := by unfold mantissaBound at hB; omega
      rw [this]
      norm_num
    refine ⟨7922816251426433759354395034, scale - 1, ?_, by decide, by omega, by omega,
      fun h => absurd h hfit, ?_⟩
    · rw [hB]
      simp [dropOverflowDigit, show ¬scale - 1 < 0 by omega, mantissaBound]
    · have hpow : (10 : ℚ) ^ scale = 10 * 10 ^ (scale - 1) := by
        rw [← zpow_one_add₀ (by norm_num)]
        congr 1
        ring
      rw [hpow, ← div_div]
      apply abs_div_zpow_le
      rw [abs_le, hq']
      constructor <;> linarith
  · have hhalf : (r : ℚ) / b ≤ 1 / 2 := by
      rw [div_le_iff₀ hb']
      have : 2 * r ≤ b := by omega
      have : (2 * r : ℚ) ≤ b := by exact_mod_cast this
      linarith
    refine ⟨q, scale, rfl, hq, by omega, le_rfl, fun _ => rfl, abs_div_zpow_le ?_⟩
    rw [abs_le]
    constructor <;> linarith

/-- Bringing `p` places into the quotient digits and the remainder keeps the number they stand
for. -/
theorem widen_value {b q r p : Nat} (hb : 0 < b) (s : ℤ) :
    ((q * Nat.pow 10 p + r * Nat.pow 10 p / b : ℕ) + (r * Nat.pow 10 p % b : ℕ) / b : ℚ) /
        10 ^ (s + p) = (q * b + r) / (b * 10 ^ s) := by
  have hnat : (q * Nat.pow 10 p + r * Nat.pow 10 p / b) * b + r * Nat.pow 10 p % b =
      (q * b + r) * Nat.pow 10 p := by
    calc _ = q * Nat.pow 10 p * b + (b * (r * Nat.pow 10 p / b) + r * Nat.pow 10 p % b) := by ring
      _ = (q * b + r) * Nat.pow 10 p := by rw [Nat.div_add_mod]; ring
  have hq : ((q * Nat.pow 10 p + r * Nat.pow 10 p / b : ℕ) * b + (r * Nat.pow 10 p % b : ℕ) : ℚ) =
      (q * b + r) * 10 ^ p := by
    rw [Nat.pow_eq] at hnat ⊢
    exact_mod_cast hnat
  have hb' : (b : ℚ) ≠ 0 := by exact_mod_cast hb.ne'
  rw [← quotient_target hb, hq, zpow_add₀ (by norm_num), zpow_natCast]
  field_simp

/-- Long division: from quotient digits `q` and a remainder `r < b` at a scale from 0 to 28,
developing gives a mantissa that fits and the exact quotient within half a unit of its last
place, at a scale no coarser than the start unless rounding up the first digits overflowed. -/
theorem develop_spec {b : Nat} (hb : 0 < b) {q r : Nat} {scale : ℤ} {ie : Bool}
    (hr : r < b) (hq : q < mantissaBound) (h0 : 0 ≤ scale) (h28 : scale ≤ 28)
    (hfirst : 1 ≤ scale ∨ q + 1 < mantissaBound ∨ r = 0) :
    ∃ m s ie', develop b q r scale ie = some ⟨m, s, ie'⟩ ∧ m < mantissaBound ∧
      ((q + 1 < mantissaBound ∨ r = 0) → scale ≤ s) ∧ scale ≤ s + 1 ∧ s ≤ 28 ∧
      |(m : ℚ) / 10 ^ s - (q * b + r) / (b * 10 ^ scale)| ≤ 1 / (2 * 10 ^ s) := by
  fun_induction develop b q r scale ie with
  | case1 q r scale ie result hmove =>
    rcases @quotientMove_cases b q r scale ie hq h0 h28 with
      ⟨hr0, h⟩ | ⟨hr0, h⟩ | ⟨-, p, -, -, -, h⟩
    · rw [hmove] at h
      cases h
      refine ⟨q, scale, ie, rfl, hq, fun _ => le_rfl, by omega, h28, ?_⟩
      subst hr0
      have hb' : (b : ℚ) ≠ 0 := by exact_mod_cast hb.ne'
      have hexact : ((q : ℚ) * b + ((0 : ℕ) : ℚ)) / (b * 10 ^ scale) = q / 10 ^ scale := by
        rw [Nat.cast_zero, add_zero, mul_comm (b : ℚ), mul_div_mul_right _ _ hb']
      rw [hexact, sub_self, abs_zero]
      exact one_div_nonneg.2 (mul_nonneg zero_le_two (zpow_pos (by norm_num) scale).le)
    · rw [hmove] at h
      cases h
      have hfirst' : 1 ≤ scale ∨ q + 1 < mantissaBound := by omega
      obtain ⟨m, s, hrq, hm, h1, h2, h3, herr⟩ := roundQuotient_spec hb hr hq hfirst'
      exact ⟨m, s, true, hrq, hm, fun h => by rcases h with h | h; exact (h3 h).ge; omega,
        h1, by omega, herr⟩
    · rw [hmove] at h
      cases h
  | case2 q r scale ie p ie' hmove hp =>
    have := quotientMove_widen hq h0 h28 hmove
    omega
  | case3 q r scale ie p ie' hmove hp q1 hq1 =>
    have := quotientMove_widen hq h0 h28 hmove
    omega
  | case4 q r scale ie p ie' hmove hp q1 hq1 r1 q2 r2 hq2 =>
    obtain ⟨hp1, hps, -⟩ := quotientMove_widen hq h0 h28 hmove
    have hb' : (0 : ℚ) < b := by exact_mod_cast hb
    have hr2 : r2 < b := Nat.mod_lt _ hb
    obtain ⟨m, hdrop, hm, herr⟩ := @dropOverflowDigit_spec q2 (scale + p)
      (r2 != 0) ((r2 : ℚ) / b) (by omega) (by positivity)
      (by rw [div_lt_one hb']; exact_mod_cast hr2)
      (by simp [Nat.pos_iff_ne_zero, hb'])
    have hX : Nat.pow 10 p ≤ Nat.pow 10 28 := Nat.pow_le_pow_right (by norm_num) (by omega)
    have hr1 : r1 / b < Nat.pow 10 p := by
      rw [Nat.div_lt_iff_lt_mul hb]
      show r * Nat.pow 10 p < Nat.pow 10 p * b
      rw [Nat.mul_comm (Nat.pow 10 p)]
      exact Nat.mul_lt_mul_of_pos_right hr (Nat.pow_pos (by norm_num : 0 < 10))
    refine ⟨m, scale + p - 1, true, by rw [hdrop]; rfl, ?_, fun _ => by omega, by omega,
      by omega, ?_⟩
    · have : q2 = q1 + r1 / b := rfl
      unfold mantissaBound at hq1 ⊢
      simp only [Nat.pow_eq] at hX hr1
      norm_num at hX
      omega
    · have hpow : (10 : ℚ) ^ (scale + p) = 10 * 10 ^ (scale + p - 1) := by
        rw [← zpow_one_add₀ (by norm_num)]
        congr 1
        ring
      rw [← widen_value hb scale, hpow, ← div_div]
      exact abs_div_zpow_le herr
  | case5 q r scale ie p ie' hmove hp q1 hq1 r1 q2 r2 hq2 ih =>
    obtain ⟨hp1, hps, -⟩ := quotientMove_widen hq h0 h28 hmove
    obtain ⟨m, s, ie'', hdev, hm, -, h1, h2, herr⟩ :=
      ih (Nat.mod_lt _ hb) (by omega) (by omega) hps (.inl (by omega))
    refine ⟨m, s, ie'', hdev, hm, fun _ => by omega, by omega, h2, ?_⟩
    rw [← widen_value hb scale, ← quotient_target hb]
    exact herr

/-! ## Trailing zeros and the quotient as a decimal -/

/-- `p` is `(q, s)` with trailing zeros removed: the same number, with no more places and no
larger mantissa. -/
def SameNumber (q s : Nat) (p : Nat × Nat) : Prop :=
  (p.1 : ℚ) / 10 ^ p.2 = q / 10 ^ s ∧ p.2 ≤ s ∧ p.1 ≤ q

theorem SameNumber.refl (q s : Nat) : SameNumber q s (q, s) := ⟨rfl, le_rfl, le_rfl⟩

theorem SameNumber.trans {q s q' s' : Nat} {p : Nat × Nat} (h : SameNumber q s (q', s'))
    (h' : SameNumber q' s' p) : SameNumber q s p :=
  ⟨h'.1.trans h.1, h'.2.1.trans h.2.1, h'.2.2.trans h.2.2⟩

theorem sameNumber_drop {q s j : Nat} (hq : q % Nat.pow 10 j = 0) (hj : j ≤ s) :
    SameNumber q s (q / Nat.pow 10 j, s - j) := by
  obtain ⟨c, hc⟩ := Nat.dvd_of_mod_eq_zero hq
  have hpos : 0 < Nat.pow 10 j := Nat.pow_pos (by norm_num)
  refine ⟨?_, Nat.sub_le _ _, Nat.div_le_self _ _⟩
  rw [hc, Nat.mul_div_cancel_left _ hpos, Nat.pow_eq]
  have hpow : (10 : ℚ) ^ s = 10 ^ j * 10 ^ (s - j) := by rw [← pow_add, Nat.add_sub_cancel' hj]
  push_cast
  rw [hpow]
  field_simp

theorem sameNumber_ite {q s j d : Nat} {c : Prop} [Decidable c] (hd : d = Nat.pow 10 j)
    (hc : c → q % d = 0 ∧ j ≤ s) :
    SameNumber q s (if c then (q / d, s - j) else (q, s)) := by
  subst hd
  split
  · rename_i h
    exact sameNumber_drop (hc h).1 (hc h).2
  · exact SameNumber.refl q s

theorem sameNumber_eights (q s fuel : Nat) : SameNumber q s (trimZeros.eights q s fuel) := by
  induction fuel generalizing q s with
  | zero => exact SameNumber.refl q s
  | succ fuel ih =>
    unfold trimZeros.eights
    split
    · rename_i h
      exact (sameNumber_drop (j := 8) h.2.2 h.2.1).trans (ih _ _)
    · exact SameNumber.refl q s

theorem sameNumber_trimZeros (q s : Nat) : SameNumber q s (trimZeros q s) := by
  unfold trimZeros
  rcases he : trimZeros.eights q s (s / 8) with ⟨q1, s1⟩
  have h1 : SameNumber q s (q1, s1) := he ▸ sameNumber_eights q s (s / 8)
  dsimp only
  rcases he2 : (if q1 % 10000 = 0 ∧ 4 ≤ s1 then (q1 / 10000, s1 - 4) else (q1, s1)) with
    ⟨q2, s2⟩
  have h2 : SameNumber q1 s1 (q2, s2) := he2 ▸ sameNumber_ite (j := 4) (by decide) fun h => h
  rcases he3 : (if q2 % 100 = 0 ∧ 2 ≤ s2 then (q2 / 100, s2 - 2) else (q2, s2)) with ⟨q3, s3⟩
  have h3 : SameNumber q2 s2 (q3, s3) := he3 ▸ sameNumber_ite (j := 2) (by decide) fun h => h
  exact h1.trans (h2.trans (h3.trans (sameNumber_ite (j := 1) (by decide) fun h => h)))

/-- A quotient by a positive whole number never overflows, and is rounded to a grid at least as
fine as the dividend's. -/
theorem checkedDiv_scales (d : Decimal) {n : Nat} (hn : 0 < n) (hnB : n < mantissaBound) :
    ∃ r, checkedDiv d (ofSmallNat n) = some r ∧ Scales (1 / n) d r := by
  have hb : ofSmallNat n = ⟨false, n, 0, hnB, Nat.zero_le _⟩ := by simp [ofSmallNat, hnB]
  rw [hb]
  unfold checkedDiv
  rw [if_neg (by simp [isZero]; omega)]
  split
  · rename_i hz
    refine ⟨zero, rfl, d.scale, le_rfl, ⟨0, by simp⟩, ?_⟩
    simp [val_of_isZero hz]
  rename_i hz
  dsimp only
  have hds : d.scale ≤ 28 := d.scale_le
  have hgood : d.mantissa / n + 1 < mantissaBound ∨ d.mantissa % n = 0 := by
    rcases Nat.lt_or_ge n 2 with h | h
    · right
      obtain rfl : n = 1 := by omega
      exact Nat.mod_one _
    · left
      have := d.mantissa_lt
      have : d.mantissa / n ≤ d.mantissa / 2 := Nat.div_le_div_left h (by norm_num)
      omega
  obtain ⟨m, s, ie, hdev, hm, hsc, -, hs28, herr⟩ := @develop_spec _ hn _ _ _ false (Nat.mod_lt _ hn)
    (lt_of_le_of_lt (Nat.div_le_self _ _) d.mantissa_lt)
    (show (0 : ℤ) ≤ (d.scale : ℤ) - ((0 : ℕ) : ℤ) by omega) (by omega) (.inr hgood)
  have hs : (d.scale : ℤ) ≤ s := by simpa using hsc hgood
  rw [hdev]
  dsimp only
  rcases hp : (if ie then trimZeros m s.toNat else (m, s.toNat)) with ⟨q', s'⟩
  have hsame : SameNumber m s.toNat (q', s') := by
    rw [← hp]
    split
    · exact sameNumber_trimZeros m s.toNat
    · exact SameNumber.refl m s.toNat
  obtain ⟨r, hr⟩ := ofParts?_isSome (d.negative != false) (m := q') (s := s')
    (lt_of_le_of_lt hsame.2.2 hm) (by have := hsame.2.1; unfold maxScale; omega)
  have hv : r.val = (if d.negative then -(m : ℚ) else m) / 10 ^ s.toNat := by
    obtain ⟨-, -, hval⟩ := ofParts?_eq_some hr
    rw [hval]
    cases d.negative <;> simp [neg_div, hsame.1]
  refine ⟨r, hr, s.toNat, by omega, ⟨if d.negative then -(m : ℤ) else m, ?_⟩, ?_⟩
  · rw [hv]
    split <;> simp
  · have hsn : s = (s.toNat : ℤ) := (Int.toNat_of_nonneg (by omega)).symm
    have hN : ((d.mantissa / n : ℕ) : ℚ) * n + (d.mantissa % n : ℕ) = d.mantissa := by
      exact_mod_cast Nat.div_add_mod' d.mantissa n
    simp only [Nat.cast_zero, sub_zero, hN] at herr
    rw [hsn, zpow_natCast, zpow_natCast] at herr
    have hn' : (n : ℚ) ≠ 0 := by exact_mod_cast hn.ne'
    have hdiv : (n : ℚ)⁻¹ * (d.mantissa / 10 ^ d.scale) = d.mantissa / (n * 10 ^ d.scale) := by
      field_simp
    rw [hv, val_eq]
    cases d.negative
    · simpa [hdiv] using herr
    · rw [← abs_neg]
      simpa [neg_div, hdiv, mul_neg, sub_eq_add_neg, add_comm] using herr

theorem tryDiv_scales (d : Decimal) {n : Nat} (hn : 0 < n) (hnB : n < mantissaBound) :
    ∃ r, d.tryDiv (ofSmallNat n) = .ok r ∧ Scales (1 / n) d r := by
  obtain ⟨r, hr, hs⟩ := checkedDiv_scales d hn hnB
  refine ⟨r, ?_, hs⟩
  have hnz : (ofSmallNat n).isZero = false := by simp [ofSmallNat, hnB, isZero]; omega
  simp [tryDiv, hnz, hr]

end Decimal

end ForexJournal
