import Mathlib
import ForexJournal.Proofs.DecimalValue
import ForexJournal.Proofs.DecimalSign
import ForexJournal.Proofs.IndicatorHistory

/-!
# Where an average stays

An average of a period of at least two, fed closes of one sign, never leaves the closes it has
seen: each value it reports lies between two of them. Each step moves the last
value toward the next close by a rounded part of at most nine tenths of the rounded
difference, which stops short of the close (`add_scaled_between`), and the sum is then fitted
into a decimal. Fitting drops digits only from a sum of 29 digits, and it does not pass a
decimal on either side: a bound on the kept grid is not passed by rounding to the nearest
point, and a bound with more places than are kept would have let the sum keep one more digit
(`Decimal.tryAdd_between`). Closes that are not positive are the same run turned over: every
difference, part and sum is the opposite of the one for the negated closes (`Ema.Mirror`).

The bounds need all three conditions. At period one the factor is `1`, the whole rounded
difference is added, and where the difference of a small value and a close of 29 digits is
rounded up, the sum passes the close. The count `period + 1` of the largest period wraps to
zero. And two closes of opposite signs can be too far apart for their difference. What holds
for every run that finishes is the count: one value per close, none before the period's
close. And a constant series is reported exactly from the period's close on, at every period
whose successor is a word.

Main statement: `Ema.series_counts_bounds_steady`.
-/

namespace ForexJournal

namespace Decimal

theorem val_eq_of_nonneg {d : Decimal} (h : 0 ≤ d.val) : d.val = d.mantissa / 10 ^ d.scale := by
  rw [← abs_val, abs_of_nonneg h]

theorem grid_le_of_le_add_half {a b : ℤ} {g : Nat}
    (h : (a : ℚ) / 10 ^ g ≤ b / 10 ^ g + 1 / (2 * 10 ^ g)) : (a : ℚ) / 10 ^ g ≤ b / 10 ^ g := by
  have h10 : (0 : ℚ) < 10 ^ g := by positivity
  have hhalf : (1 : ℚ) / (2 * 10 ^ g) < 1 / 10 ^ g :=
    one_div_lt_one_div_of_lt h10 (by linarith)
  exact grid_le_of_lt_add (by linarith)

/-! ## A fitted sum does not pass a decimal -/

/-- Fitting a value that is not negative does not pass a decimal above it. A decimal on the
kept grid is not passed by rounding to the nearest point; one with more places than are kept
would have let the value keep one more digit. -/
theorem ofSignedExact?_le_of_le {v : ℤ} {s : Nat} {r b : Decimal}
    (h : ofSignedExact? v s 0 = some r) (hv : 0 ≤ (v : ℚ) / 10 ^ s)
    (hb : (v : ℚ) / 10 ^ s ≤ b.val) : r.val ≤ b.val := by
  obtain ⟨k, -, hks, -, hval, hmin⟩ := ofSignedExact?_eq_some h
  rcases Nat.eq_zero_or_pos k with rfl | hk
  · rwa [hval, roundedAt_zero]
  by_cases hbs : b.scale ≤ s - k
  · obtain ⟨zb, hzb⟩ := b.val_on_grid hbs
    obtain ⟨zr, hzr⟩ := roundedAt_eq_int v s k
    have hnear := (abs_le.1 (roundedAt_near (v := v) hks)).2
    rw [hval, hzr, hzb]
    exact grid_le_of_le_add_half (by rw [← hzr, ← hzb]; linarith)
  · have hv0 : (0 : ℚ) ≤ v := by simpa using (le_div_iff₀ (by positivity : (0 : ℚ) < 10 ^ s)).1 hv
    have hb0 : 0 ≤ b.val := hv.trans hb
    have hpow : (10 : ℚ) ^ s ≤ 10 ^ b.scale * 10 ^ (k - 1) := by
      rw [← pow_add]
      exact pow_le_pow_right₀ (by norm_num) (by omega)
    rw [val_eq_of_nonneg hb0, div_le_div_iff₀ (by positivity) (by positivity)] at hb
    have hq : (v.natAbs : ℚ) * 10 ^ b.scale ≤ b.mantissa * 10 ^ (k - 1) * 10 ^ b.scale := by
      rw [Nat.cast_natAbs, Int.cast_abs, abs_of_nonneg hv0]
      calc (v : ℚ) * 10 ^ b.scale ≤ b.mantissa * 10 ^ s := hb
        _ ≤ b.mantissa * (10 ^ b.scale * 10 ^ (k - 1)) := by gcongr
        _ = _ := by ring
    have hV : v.natAbs ≤ b.mantissa * Nat.pow 10 (k - 1) := by
      have := le_of_mul_le_mul_right hq (by positivity)
      rw [Nat.pow_eq]
      exact_mod_cast this
    have hfit := roundHalfEven_le_of_le hV
    have hwide := hmin (k - 1) (Nat.zero_le _) (by omega)
    have hbm := b.mantissa_lt
    omega

/-- A value that had to drop a digit keeps, at the kept scale, more than the tenth of the
largest mantissa: `7922816251426433759354395033.5` rounds up. -/
theorem ten_mul_roundHalfEven_of_wide {V k : Nat} (hk : 0 < k)
    (hwide : (mantissaBound - 1) * Nat.pow 10 (k - 1) < V) :
    mantissaBound - 1 < 10 * roundHalfEven V (Nat.pow 10 k) := by
  have hPk : 0 < Nat.pow 10 k := Nat.pow_pos (by norm_num)
  have hpk : Nat.pow 10 k = 10 * Nat.pow 10 (k - 1) := by
    simp only [Nat.pow_eq]
    rw [← pow_succ', Nat.sub_add_cancel hk]
  obtain ⟨hn, -⟩ := roundHalfEven_near (n := V) hPk
  set R := roundHalfEven V (Nat.pow 10 k)
  rw [hpk] at hn
  by_contra hle
  have h1 : (2 * R + 1) * 10 * Nat.pow 10 (k - 1) ≤ 2 * (mantissaBound - 1) * Nat.pow 10 (k - 1) :=
    Nat.mul_le_mul_right _ (by unfold mantissaBound at hle ⊢; omega)
  nlinarith

/-- Fitting a value does not pass a decimal below it that is not negative. A decimal on the
kept grid is not passed; one with more places than are kept is at most the tenth of the
largest mantissa at the kept scale, and a value that had to drop a digit keeps more. -/
theorem le_ofSignedExact?_of_le {v : ℤ} {s : Nat} {r a : Decimal}
    (h : ofSignedExact? v s 0 = some r) (ha : 0 ≤ a.val) (hav : a.val ≤ (v : ℚ) / 10 ^ s) :
    a.val ≤ r.val := by
  obtain ⟨k, -, hks, -, hval, hmin⟩ := ofSignedExact?_eq_some h
  rcases Nat.eq_zero_or_pos k with rfl | hk
  · rwa [hval, roundedAt_zero]
  have hv0 : (0 : ℚ) ≤ v := by
    simpa using (le_div_iff₀ (by positivity : (0 : ℚ) < 10 ^ s)).1 (ha.trans hav)
  by_cases has : a.scale ≤ s - k
  · obtain ⟨za, hza⟩ := a.val_on_grid has
    obtain ⟨zr, hzr⟩ := roundedAt_eq_int v s k
    have hnear := (abs_le.1 (roundedAt_near (v := v) hks)).1
    rw [hval, hzr, hza]
    exact grid_le_of_le_add_half (by rw [← hzr, ← hza]; linarith)
  · have hwide : (mantissaBound - 1) * Nat.pow 10 (k - 1) < v.natAbs := by
      by_contra hle
      have hB := (hmin (k - 1) (Nat.zero_le _) (by omega)).trans
        (roundHalfEven_le_of_le (not_lt.1 hle))
      unfold mantissaBound at hB
      omega
    have hR := ten_mul_roundHalfEven_of_wide hk hwide
    have hRq :
        (79228162514264337593543950335 : ℚ) ≤ 10 * roundHalfEven v.natAbs (Nat.pow 10 k) := by
      unfold mantissaBound at hR
      exact_mod_cast (by omega : 79228162514264337593543950335 ≤
        10 * roundHalfEven v.natAbs (Nat.pow 10 k))
    have ham : (a.mantissa : ℚ) ≤ 79228162514264337593543950335 := by
      have := a.mantissa_lt
      unfold mantissaBound at this
      exact_mod_cast (by omega : a.mantissa ≤ 79228162514264337593543950335)
    have hpow : (10 : ℚ) ^ (s - k) * 10 ≤ 10 ^ a.scale := by
      rw [← pow_succ]
      exact pow_le_pow_right₀ (by norm_num) (by omega)
    have hr : r.val = roundHalfEven v.natAbs (Nat.pow 10 k) / 10 ^ (s - k) := by
      rw [hval, roundedAt, if_neg (not_lt.2 (by exact_mod_cast hv0))]
    calc a.val = a.mantissa / 10 ^ a.scale := val_eq_of_nonneg ha
      _ ≤ 79228162514264337593543950335 / (10 ^ (s - k) * 10) := by gcongr
      _ ≤ roundHalfEven v.natAbs (Nat.pow 10 k) / 10 ^ (s - k) := by
        rw [div_le_div_iff₀ (by positivity) (by positivity)]
        nlinarith [pow_pos (by norm_num : (0 : ℚ) < 10) (s - k)]
      _ = r.val := hr.symm

theorem checkedAdd_cases {x y m : Decimal} (h : checkedAdd x y = some m) :
    m.val = x.val + y.val ∨ ofSignedExact? (x.scaledTo (Nat.max x.scale y.scale) +
      y.scaledTo (Nat.max x.scale y.scale)) (Nat.max x.scale y.scale) 0 = some m := by
  unfold checkedAdd addSub at h
  split at h
  · rename_i hx
    simp only [Bool.false_and, Bool.false_eq_true, if_false, Option.some.injEq] at h
    exact .inl (by rw [← h, val_of_isZero hx, zero_add])
  · split at h
    · rename_i hy
      cases h
      exact .inl (by rw [val_of_isZero hy, add_zero])
    · exact .inr (by simpa [exactSum] using h)

theorem checkedAdd_of_isZero {x y : Decimal} (h : x.isZero = true ∨ y.isZero = true) :
    ∃ m, checkedAdd x y = some m ∧ m.val = x.val + y.val := by
  unfold checkedAdd addSub
  rcases h with hx | hy
  · exact ⟨y, by simp [hx], by rw [val_of_isZero hx, zero_add]⟩
  · by_cases hx : x.isZero = true
    · exact ⟨y, by simp [hx], by rw [val_of_isZero hx, zero_add]⟩
    · exact ⟨x, by simp [hx, hy], by rw [val_of_isZero hy, add_zero]⟩

theorem checkedAdd_between {x y m a b : Decimal} (h : checkedAdd x y = some m) (ha : 0 ≤ a.val)
    (hax : a.val ≤ x.val + y.val) (hxb : x.val + y.val ≤ b.val) :
    a.val ≤ m.val ∧ m.val ≤ b.val := by
  rcases checkedAdd_cases h with hm | hm
  · rw [hm]
    exact ⟨hax, hxb⟩
  · have hsum := exactSum_value x y false
    simp only [Bool.false_eq_true, if_false] at hsum
    rw [← hsum] at hax hxb
    exact ⟨le_ofSignedExact?_of_le hm ha hax, ofSignedExact?_le_of_le hm (ha.trans hax) hxb⟩

theorem tryAdd_between {x y m a b : Decimal} (h : x.tryAdd y = .ok m) (ha : 0 ≤ a.val)
    (hax : a.val ≤ x.val + y.val) (hxb : x.val + y.val ≤ b.val) :
    a.val ≤ m.val ∧ m.val ≤ b.val :=
  checkedAdd_between (tryAdd_eq_ok.1 h) ha hax hxb

theorem Scales.eq_of_one {d r : Decimal} (h : Scales 1 d r) : r.val = d.val := by
  obtain ⟨g, hg, ⟨z, hz⟩, herr⟩ := h
  obtain ⟨zd, hzd⟩ := d.val_on_grid hg
  rw [one_mul, abs_le] at herr
  rw [hz, hzd]
  refine le_antisymm (grid_le_of_le_add_half ?_) (grid_le_of_le_add_half ?_) <;>
    rw [← hz, ← hzd] <;> linarith [herr.1, herr.2]

end Decimal

namespace Ema

open Decimal

/-! ## The smoothing factor -/

/-- From period four on the smoothing factor is at most a half: `2 / (period + 1)` is at most
two fifths, and a point of a grid within half a unit of it is at most a half. -/
theorem new_k_le_half {p : Nat} (hp4 : 4 ≤ Nat.max p 1) (hp : Nat.max p 1 + 1 < mantissaBound) :
    (new p).k.val ≤ 1 / 2 := by
  obtain ⟨g, -, ⟨z, hz⟩, herr⟩ := new_k_scales hp
  rw [hz]
  rw [val_ofSmallNat (by decide), hz, abs_le] at herr
  have hT : (1 : ℚ) ≤ 10 ^ g := one_le_pow₀ (by norm_num)
  have hexact : (1 : ℚ) / ((Nat.max p 1 + 1 : ℕ) : ℚ) * 2 ≤ 2 / 5 := by
    have h5 : (5 : ℚ) ≤ ((Nat.max p 1 + 1 : ℕ) : ℚ) := by
      exact_mod_cast (by omega : 5 ≤ Nat.max p 1 + 1)
    rw [one_div_mul_eq_div, div_le_div_iff₀ (by positivity) (by norm_num)]
    linarith
  have h2z : 2 * (z : ℚ) ≤ 4 / 5 * 10 ^ g + 1 := by
    have hle : (z : ℚ) / 10 ^ g ≤ 2 / 5 + 1 / (2 * 10 ^ g) := by linarith [herr.2]
    rw [div_le_iff₀ (by positivity)] at hle
    have he : (2 / 5 + 1 / (2 * 10 ^ g)) * (10 : ℚ) ^ g = 2 / 5 * 10 ^ g + 1 / 2 := by
      field_simp
    linarith
  rw [div_le_iff₀ (by positivity)]
  rcases Nat.eq_zero_or_pos g with rfl | hg
  · have hz0 : z ≤ 0 := by
      have : (z : ℚ) < 1 := by norm_num at h2z; linarith
      exact_mod_cast Int.lt_add_one_iff.1 (by exact_mod_cast this)
    have : (z : ℚ) ≤ 0 := by exact_mod_cast hz0
    rw [pow_zero, mul_one]
    linarith
  · have h10 : (10 : ℚ) ≤ 10 ^ g := le_self_pow₀ (by norm_num) hg.ne'
    linarith

theorem new_k_le {p : Nat} (hp2 : 2 ≤ Nat.max p 1) (hp : Nat.max p 1 + 1 < mantissaBound) :
    (new p).k.val ≤ 9 / 10 := by
  have hnine : (ofMantissa 9 1).val = 9 / 10 := by
    norm_num [ofMantissa, val_eq, mantissaBound, maxScale]
  rcases (by omega : Nat.max p 1 = 2 ∨ Nat.max p 1 = 3 ∨ 4 ≤ Nat.max p 1) with h | h | h
  · have hk : (new p).k = (new 2).k := by simp only [new, h]; rfl
    rw [hk, ← hnine]
    exact le_iff_val.1 (by decide +kernel)
  · have hk : (new p).k = (new 3).k := by simp only [new, h]; rfl
    rw [hk, ← hnine]
    exact le_iff_val.1 (by decide +kernel)
  · exact (new_k_le_half h hp).trans (by norm_num)

theorem first_close_exact {e : Ema} {c : Decimal} (h0 : e.seen = 0)
    (hz : e.seedMean.isZero = true) :
    ∃ d q m, c.trySub e.seedMean = .ok d ∧ d.tryDiv (ofSmallNat (e.seen + 1)) = .ok q ∧
      e.seedMean.tryAdd q = .ok m ∧ m.val = c.val := by
  obtain ⟨d, hd, -⟩ := trySub_fits (a := c) (b := e.seedMean)
    (by rw [val_of_isZero hz, sub_zero]; exact abs_val_le c)
  have hdv : d.val = c.val := by
    rw [val_of_checkedSub_isZero hz (trySub_eq_ok.1 hd), val_of_isZero hz, sub_zero]
  obtain ⟨q, hq, hqs⟩ := tryDiv_scales d (n := e.seen + 1) (Nat.succ_pos _) (by rw [h0]; decide)
  rw [h0, Nat.zero_add, Nat.cast_one, div_one] at hqs
  obtain ⟨m, hm, hmv⟩ := checkedAdd_of_isZero (y := q) (.inl hz)
  exact ⟨d, q, m, hd, hq, tryAdd_eq_ok.2 hm, by
    rw [hmv, val_of_isZero hz, hqs.eq_of_one, hdv, zero_add]⟩

/-! ## Bounds from period two on -/

def Within (pre : List Decimal) (x : Decimal) : Prop :=
  (∃ a ∈ pre, a.val ≤ x.val) ∧ ∃ b ∈ pre, x.val ≤ b.val

theorem Within.nonneg {pre : List Decimal} {x : Decimal} (h : Within pre x)
    (hpre : ∀ a ∈ pre, 0 ≤ a.val) : 0 ≤ x.val :=
  let ⟨⟨a, ha, hax⟩, _⟩ := h
  (hpre a ha).trans hax

/-- A value between `v` and `c`, for `v` between two closes of `pre`, lies between two closes
of `pre` and `c`. -/
theorem Within.toward {pre : List Decimal} {v c : Decimal} {x : ℚ} (hv : Within pre v)
    (hx : min v.val c.val ≤ x ∧ x ≤ max v.val c.val) :
    (∃ a ∈ pre ++ [c], a.val ≤ x) ∧ ∃ b ∈ pre ++ [c], x ≤ b.val := by
  obtain ⟨⟨a, ha, hav⟩, ⟨b, hb, hvb⟩⟩ := hv
  have hc : c ∈ pre ++ [c] := List.mem_append_right _ (List.mem_singleton.2 rfl)
  constructor
  · rcases le_total v.val c.val with h | h
    · exact ⟨a, List.mem_append_left _ ha, hav.trans (by simpa [min_eq_left h] using hx.1)⟩
    · exact ⟨c, hc, by simpa [min_eq_right h] using hx.1⟩
  · rcases le_total v.val c.val with h | h
    · exact ⟨c, hc, by simpa [max_eq_right h] using hx.2⟩
    · have hxv : x ≤ v.val := by simpa [max_eq_left h] using hx.2
      exact ⟨b, List.mem_append_left _ hb, hxv.trans hvb⟩

/-- One move of an average toward a close that is not negative, from `v` between two closes of
`pre`, by the part `r` of the difference `d` of the close and `v`: the sum does not overflow,
and is fitted between two closes of `pre` and the new one. -/
theorem Within.move {pre : List Decimal} {v c d r : Decimal} {κ : ℚ} (hv : Within pre v)
    (hpre : ∀ a ∈ pre, 0 ≤ a.val) (hc : 0 ≤ c.val) (hκ0 : 0 ≤ κ) (hκ1 : κ ≤ 1)
    (hκ : κ ≤ 9 / 10 ∨ d.val = c.val - v.val) (hd : Fits (c.val - v.val) d)
    (hr : Scales κ d r) : ∃ m, v.tryAdd r = .ok m ∧ Within (pre ++ [c]) m := by
  have hx := add_scaled_between hκ0 hκ1 hκ hd hr
  obtain ⟨-, hxB⟩ := between_bounds (hv.nonneg hpre) hc hx
  obtain ⟨m, hm, -⟩ := tryAdd_fits hxB
  obtain ⟨⟨a, ha, hax⟩, ⟨b, hb, hxb⟩⟩ := hv.toward hx
  have hall : ∀ a ∈ pre ++ [c], 0 ≤ a.val :=
    List.forall_mem_append.2 ⟨hpre, List.forall_mem_singleton.2 hc⟩
  obtain ⟨ham, hmb⟩ := tryAdd_between hm (hall a ha) hax hxb
  exact ⟨m, hm, ⟨a, ha, ham⟩, ⟨b, hb, hmb⟩⟩

/-- An average that has taken the closes `pre`, none negative, with a smoothing factor from 0
to nine tenths: its running mean, once a close is in and while it seeds, and its value, once
seeded, lie between two of the closes. -/
structure Ranged (pre : List Decimal) (e : Ema) : Prop where
  k_nonneg : 0 ≤ e.k.val
  k_le : e.k.val ≤ 9 / 10
  closes_nonneg : ∀ a ∈ pre, 0 ≤ a.val
  mean_fresh : e.seen = 0 → e.seedMean.isZero = true
  mean_within : e.value = none → e.seen ≠ 0 → Within pre e.seedMean
  value_within : ∀ v, e.value = some v → Within pre v
  seeding : e.value = none → e.seen < e.period
  period_lt : e.period < mantissaBound

/-- A close that is not negative, fed to an average that stays between its closes, never
overflows, and the average stays between its closes. -/
theorem Ranged.step {pre : List Decimal} {e : Ema} (he : e.Ranged pre) {c : Decimal}
    (hc : 0 ≤ c.val) : ∃ e', e.step c = .ok e' ∧ e'.Ranged (pre ++ [c]) := by
  have hall : ∀ a ∈ pre ++ [c], 0 ≤ a.val :=
    List.forall_mem_append.2 ⟨he.closes_nonneg, List.forall_mem_singleton.2 hc⟩
  cases hv : e.value with
  | some prev =>
    have hp := he.value_within prev hv
    obtain ⟨d, hd, hdf⟩ := trySub_fits (abs_sub_le_of_nonneg hc (hp.nonneg he.closes_nonneg))
    have hk : |e.k.val| ≤ 1 := by
      rw [abs_le]
      constructor <;> linarith [he.k_nonneg, he.k_le]
    obtain ⟨r, hr, hrs⟩ := checkedMul_scales d hk
    obtain ⟨m, hm, hmw⟩ := hp.move he.closes_nonneg hc he.k_nonneg (by linarith [he.k_le])
      (.inl he.k_le) hdf hrs
    refine ⟨_, step_of_seeded hv hd (tryMul_eq_ok.2 hr) hm, he.k_nonneg, he.k_le, hall,
      fun h => absurd h (Nat.succ_ne_zero _), fun h => (Option.some_ne_none m h).elim,
      fun v hv' => ?_, fun h => (Option.some_ne_none m h).elim, he.period_lt⟩
    cases hv'
    exact hmw
  | none =>
    have hseen := he.seeding hv
    have hn : e.seen + 1 < mantissaBound := by have := he.period_lt; omega
    have hmove : ∃ d q m, c.trySub e.seedMean = .ok d ∧
        d.tryDiv (ofSmallNat (e.seen + 1)) = .ok q ∧ e.seedMean.tryAdd q = .ok m ∧
        Within (pre ++ [c]) m := by
      rcases Nat.eq_zero_or_pos e.seen with h0 | hpos
      · obtain ⟨d, q, m, hd, hq, hm, hmv⟩ := first_close_exact h0 (he.mean_fresh h0)
        have hc' : c ∈ pre ++ [c] := List.mem_append_right _ (List.mem_singleton.2 rfl)
        exact ⟨d, q, m, hd, hq, hm, ⟨c, hc', hmv.ge⟩, ⟨c, hc', hmv.le⟩⟩
      · have hmean := he.mean_within hv hpos.ne'
        obtain ⟨d, hd, hdf⟩ :=
          trySub_fits (abs_sub_le_of_nonneg hc (hmean.nonneg he.closes_nonneg))
        obtain ⟨q, hq, hqs⟩ := tryDiv_scales d (n := e.seen + 1) (Nat.succ_pos _) hn
        have hκ := one_div_count_le hpos
        have hκ1 : (1 : ℚ) / (e.seen + 1 : ℕ) ≤ 1 := hκ.trans (by norm_num)
        obtain ⟨m, hm, hmw⟩ :=
          hmean.move he.closes_nonneg hc (by positivity) hκ1 (.inl hκ) hdf hqs
        exact ⟨d, q, m, hd, hq, hm, hmw⟩
    obtain ⟨d, q, m, hd, hq, hm, hmw⟩ := hmove
    exact ⟨_, step_of_seeding hv hd hq hm, he.k_nonneg, he.k_le, hall,
      fun h => absurd h (Nat.succ_ne_zero _), fun _ _ => hmw,
      fun v hv' => (seeded_value hv') ▸ hmw, still_seeding hseen, he.period_lt⟩

/-- An average that stays between its closes, fed closes that are not negative, never
overflows, and each value it reports lies between two of the closes taken so far. -/
theorem Ranged.run {pre : List Decimal} {e : Ema} (he : e.Ranged pre) {cs : List Decimal}
    (hcs : ∀ c ∈ cs, 0 ≤ c.val) :
    ∃ vs last, e.run cs = .ok (vs, last) ∧
      ∀ (i : Nat) (v : Decimal), vs[i]? = some (some v) → Within (pre ++ cs.take (i + 1)) v := by
  induction cs generalizing pre e with
  | nil => exact ⟨[], e, rfl, fun i v h => by simp at h⟩
  | cons c cs ih =>
    obtain ⟨e', hstep, he'⟩ := he.step (hcs c List.mem_cons_self)
    obtain ⟨vs, last, hrun, hvs⟩ := ih he' fun c hc => hcs c (List.mem_cons_of_mem _ hc)
    refine ⟨e'.value :: vs, last, ?_, fun i v hi => ?_⟩
    · simp only [Ema.run, hstep, hrun, bind, Except.bind, pure, Except.pure]
    · cases i with
      | zero => simpa using he'.value_within v (by simpa using hi)
      | succ i => simpa [List.append_assoc] using hvs i v (by simpa using hi)

theorem ranged_new {p : Nat} (hp2 : 2 ≤ Nat.max p 1) (hp : Nat.max p 1 + 1 < mantissaBound) :
    (new p).Ranged [] where
  k_nonneg := new_k_nonneg hp
  k_le := new_k_le hp2 hp
  closes_nonneg := by simp
  mean_fresh _ := rfl
  mean_within _ h := absurd rfl h
  value_within _ h := by simp [new] at h
  seeding _ := by show 0 < Nat.max p 1; omega
  period_lt := by show Nat.max p 1 < mantissaBound; omega

/-- The averages of a period of at least two whose successor is a word, over closes that are
not negative, never overflow, and each lies between two of the closes up to its own. -/
theorem series_within {p : Nat} (hp2 : 2 ≤ p) (hp : p + 1 < wordModulus) {cs : List Decimal}
    (hcs : ∀ c ∈ cs, 0 ≤ c.val) :
    ∃ vs, series cs p = .ok vs ∧
      ∀ (i : Nat) (v : Decimal), vs[i]? = some (some v) → Within (cs.take (i + 1)) v := by
  have hmax : Nat.max p 1 = p := by unfold Nat.max; omega
  have hpw : Nat.max p 1 + 1 < wordModulus := by rwa [hmax]
  obtain ⟨vs, last, hrun, hvs⟩ :=
    (ranged_new (by rwa [hmax]) (lt_trans hpw (by decide))).run hcs
  exact ⟨vs, by simp [series_eq_run hpw, hrun, Functor.map, Except.map], fun i v hi => by
    simpa using hvs i v hi⟩

/-! ## Closes of the other sign -/

/-- Two averages of one period and factor at one count, the second's running mean and value
opposite to the first's: it has taken the first's closes turned over. -/
structure Mirror (e e' : Ema) : Prop where
  period_eq : e.period = e'.period
  k_eq : e.k = e'.k
  seen_eq : e.seen = e'.seen
  mean : e.seedMean.Opposite e'.seedMean
  value : Option.Rel Opposite e.value e'.value

theorem mirror_new (p : Nat) : (new p).Mirror (new p) :=
  ⟨rfl, rfl, rfl, opposite_zero, .none⟩

/-- An average fed a close moves as its mirror fed the opposite close: each difference, part
and sum on one side has its opposite on the other. -/
theorem Mirror.step {e e' e₁ : Ema} {c c' : Decimal} (he : e.Mirror e') (hc : c.Opposite c')
    (h : e.step c = .ok e₁) : ∃ e₁', e'.step c' = .ok e₁' ∧ e₁.Mirror e₁' := by
  obtain ⟨p, k, n, μ, v⟩ := e
  obtain ⟨p', k', n', μ', v'⟩ := e'
  obtain ⟨rfl, rfl, rfl, hμ, hv⟩ := he
  cases hv with
  | @some prev prev' hprev =>
    obtain ⟨d, r, m, hd, hr, hm, rfl⟩ := step_seeded_cases rfl h
    obtain ⟨d', hd', hdd⟩ := hc.trySub hprev hd
    obtain ⟨r', hr', hrr⟩ := hdd.tryMul hr
    obtain ⟨m', hm', hmm⟩ := hprev.tryAdd hrr hm
    exact ⟨_, step_of_seeded rfl hd' hr' hm', rfl, rfl, rfl, hμ, .some hmm⟩
  | none =>
    obtain ⟨d, q, m, hd, hq, hm, rfl⟩ := step_seeding_cases rfl h
    obtain ⟨d', hd', hdd⟩ := hc.trySub hμ hd
    obtain ⟨q', hq', hqq⟩ := hdd.tryDiv hq
    obtain ⟨m', hm', hmm⟩ := hμ.tryAdd hqq hm
    refine ⟨_, step_of_seeding rfl hd' hq' hm', rfl, rfl, rfl, hmm, ?_⟩
    dsimp only
    split_ifs
    · exact .some hmm
    · exact .none

theorem Mirror.run {e e' : Ema} (he : e.Mirror e') {cs cs' : List Decimal}
    (hcs : List.Forall₂ Opposite cs cs') {vs : List (Option Decimal)} {last : Ema}
    (h : e.run cs = .ok (vs, last)) :
    ∃ vs' last', e'.run cs' = .ok (vs', last') ∧ ∀ (i : Nat) (v' : Decimal),
      vs'[i]? = some (some v') → ∃ v, vs[i]? = some (some v) ∧ v.Opposite v' := by
  induction hcs generalizing e e' vs with
  | nil => exact ⟨[], e', rfl, fun i v' hi => by simp at hi⟩
  | cons hc _ ih =>
    obtain ⟨e₁, vs₁, hstep, hrun, rfl⟩ := run_cons_eq_ok h
    obtain ⟨e₁', hstep', he₁⟩ := he.step hc hstep
    obtain ⟨vs₁', last', hrun', hvs⟩ := ih he₁ hrun
    refine ⟨e₁'.value :: vs₁', last', ?_, fun i v' hi => ?_⟩
    · simp only [Ema.run, hstep', hrun', bind, Except.bind, pure, Except.pure]
    · cases i with
      | zero => simpa using exists_of_rel_some_right he₁.value (by simpa using hi)
      | succ i => simpa using hvs i v' (by simpa using hi)

theorem series_mirror {p : Nat} (hp : Nat.max p 1 + 1 < wordModulus) {cs cs' : List Decimal}
    (hcs : List.Forall₂ Opposite cs cs') {vs : List (Option Decimal)} (h : series cs p = .ok vs) :
    ∃ vs', series cs' p = .ok vs' ∧ ∀ (i : Nat) (v' : Decimal),
      vs'[i]? = some (some v') → ∃ v, vs[i]? = some (some v) ∧ v.Opposite v' := by
  rw [series_eq_run hp] at h
  cases hrun : (new p).run cs with
  | error f => simp [hrun, Functor.map, Except.map] at h
  | ok res =>
    obtain ⟨vs₀, last⟩ := res
    simp only [hrun, Functor.map, Except.map, Except.ok.injEq] at h
    subst h
    obtain ⟨vs', last', hrun', hvs⟩ := (mirror_new p).run hcs hrun
    exact ⟨vs', by simp [series_eq_run hp, hrun', Functor.map, Except.map], hvs⟩

theorem Within.of_neg {pre : List Decimal} {u v : Decimal} (h : Within (pre.map neg) u)
    (huv : u.Opposite v) : Within pre v := by
  obtain ⟨⟨_, ha, hau⟩, ⟨_, hb, hub⟩⟩ := h
  obtain ⟨a, hapre, rfl⟩ := List.mem_map.1 ha
  obtain ⟨b, hbpre, rfl⟩ := List.mem_map.1 hb
  have hv := huv.val_eq_neg
  rw [val_neg] at hau hub
  exact ⟨⟨b, hbpre, by linarith⟩, ⟨a, hapre, by linarith⟩⟩

/-- The same bounds over closes that are not positive: their negations are not negative, and
the averages are those of the negations turned over. -/
theorem series_within_of_nonpos {p : Nat} (hp2 : 2 ≤ p) (hp : p + 1 < wordModulus)
    {cs : List Decimal} (hcs : ∀ c ∈ cs, c.val ≤ 0) :
    ∃ vs, series cs p = .ok vs ∧
      ∀ (i : Nat) (v : Decimal), vs[i]? = some (some v) → Within (cs.take (i + 1)) v := by
  have hmax : Nat.max p 1 = p := by unfold Nat.max; omega
  have hneg : ∀ c ∈ cs.map neg, 0 ≤ c.val := by
    intro _ hc
    obtain ⟨c, hcs', rfl⟩ := List.mem_map.1 hc
    rw [val_neg]
    exact neg_nonneg.2 (hcs c hcs')
  obtain ⟨us, hus, hwithin⟩ := series_within hp2 hp hneg
  have hturn : List.Forall₂ Opposite (cs.map neg) cs :=
    List.forall₂_map_left_iff.2 (List.forall₂_same.2 fun c _ => (opposite_neg c).symm)
  obtain ⟨vs, hvs, hrel⟩ := series_mirror (by rwa [hmax]) hturn hus
  refine ⟨vs, hvs, fun i v hi => ?_⟩
  obtain ⟨u, hu, huv⟩ := hrel i v hi
  have hu' : Within ((cs.take (i + 1)).map neg) u := by
    simpa [List.map_take] using hwithin i u hu
  exact hu'.of_neg huv

/-! ## The count -/

/-- One step counts the close and seeds the average at the period's close; the period
stays. -/
theorem step_counts {e e' : Ema} {c : Decimal} (h : e.step c = .ok e') :
    e'.period = e.period ∧ e'.seen = e.seen + 1 ∧
      (e'.value = none ↔ e.value = none ∧ e.seen + 1 ≠ e.period) := by
  unfold step at h
  cases hv : e.value with
  | some prev =>
    simp only [hv, bind, Except.bind, pure, Except.pure] at h
    repeat' split at h
    all_goals (try cases h)
    all_goals simp
  | none =>
    simp only [hv, bind, Except.bind, pure, Except.pure] at h
    repeat' split at h
    all_goals (try cases h)
    all_goals simp_all

/-- A run that finishes gives one value per close, and reports nothing exactly while fewer
closes than the period are in: from an average that is seeded once its count reaches the
period, the value after `i + 1` more closes is missing exactly when the count is below the
period. -/
theorem run_counts {e last : Ema} {cs : List Decimal} {vs : List (Option Decimal)}
    (h : e.run cs = .ok (vs, last)) (he : e.value = none ↔ e.seen < e.period) :
    ∀ i (hi : i < vs.length), vs[i] = none ↔ e.seen + i + 1 < e.period := by
  induction cs generalizing e vs with
  | nil =>
    simp only [run, Except.ok.injEq, Prod.mk.injEq] at h
    intro i hi
    simp [← h.1] at hi
  | cons c cs ih =>
    obtain ⟨e', vs', hstep, hrun, rfl⟩ := Ema.run_cons_eq_ok h
    obtain ⟨hper, hseen, hval⟩ := step_counts hstep
    have he' : e'.value = none ↔ e'.seen < e'.period := by
      rw [hval, hper, hseen, he]
      omega
    intro i hi
    cases i with
    | zero => simp [he', hper, hseen]
    | succ i =>
      have := ih hrun he' i (by simpa using hi)
      simp only [List.getElem_cons_succ, this, hper, hseen]
      omega

/-- The program's averages of any period, where they finish: one per close, the first
`period - 1` missing and the others present. -/
theorem series_counts {p : Nat} {cs : List Decimal} {vs : List (Option Decimal)}
    (h : series cs p = .ok vs) :
    vs.length = cs.length ∧ ∀ i (hi : i < vs.length), vs[i] = none ↔ i + 1 < Nat.max p 1 := by
  unfold series at h
  cases hc : create p with
  | error err => simp [hc, bind, Except.bind] at h
  | ok e =>
    have he : e = ⟨Nat.max p 1, e.k, 0, Decimal.zero, none⟩ := by
      unfold create at hc
      simp only [bind, Except.bind, pure, Except.pure] at hc
      split at hc
      · cases hc
      · cases hc
        rfl
    cases hrun : e.run cs with
    | error err => simp [hc, hrun, bind, Except.bind, Functor.map, Except.map] at h
    | ok res =>
      obtain ⟨vs', last⟩ := res
      simp only [hc, hrun, bind, Except.bind, Functor.map, Except.map, Except.ok.injEq] at h
      subst h
      refine ⟨run_length _ _ _ _ hrun, fun i hi => ?_⟩
      have hcount := run_counts hrun (by rw [he]; simp)
      rw [hcount i hi, he]
      simp

/-! ## A constant series -/

/-- An average fed one close `c` over and over: its mean, once a close is in and while it
seeds, and its value, once seeded, are worth `c`. -/
structure Steady (c : Decimal) (e : Ema) : Prop where
  mean_fresh : e.seen = 0 → e.seedMean.isZero = true
  mean_eq : e.value = none → e.seen ≠ 0 → e.seedMean.val = c.val
  value_eq : ∀ v, e.value = some v → v.val = c.val
  seeding : e.value = none → e.seen < e.period
  period_lt : e.period < mantissaBound

theorem trySub_of_val_eq {c v : Decimal} (h : v.val = c.val) :
    ∃ d, c.trySub v = .ok d ∧ d.isZero = true := by
  obtain ⟨d, hd, hdf⟩ := trySub_fits (a := c) (b := v)
    (by rw [h, sub_self, abs_zero]; norm_num [mantissaBound])
  rw [h, sub_self] at hdf
  exact ⟨d, hd, isZero_of_val_eq_zero (le_antisymm (hdf.nonpos le_rfl) (hdf.nonneg le_rfl))⟩

/-- The same close again moves nothing: every part of a zero difference is zero, and adding it
is exact. -/
theorem Steady.step {c : Decimal} {e : Ema} (he : e.Steady c) :
    ∃ e', e.step c = .ok e' ∧ e'.Steady c := by
  cases hv : e.value with
  | some prev =>
    obtain ⟨d, hd, hdz⟩ := trySub_of_val_eq (he.value_eq prev hv)
    obtain ⟨m, hm, hmv⟩ := checkedAdd_of_isZero (x := prev) (y := Decimal.zero) (.inr rfl)
    refine ⟨_, step_of_seeded hv hd (tryMul_eq_ok.2 (checkedMul_of_isZero_left hdz))
      (tryAdd_eq_ok.2 hm), fun h => absurd h (Nat.succ_ne_zero _),
      fun h => (Option.some_ne_none m h).elim, fun v hv' => ?_,
      fun h => (Option.some_ne_none m h).elim, he.period_lt⟩
    cases hv'
    rw [hmv, val_zero, add_zero]
    exact he.value_eq prev hv
  | none =>
    have hseen := he.seeding hv
    have hn : e.seen + 1 < mantissaBound := by have := he.period_lt; omega
    have hmove : ∃ d q m, c.trySub e.seedMean = .ok d ∧
        d.tryDiv (ofSmallNat (e.seen + 1)) = .ok q ∧ e.seedMean.tryAdd q = .ok m ∧
        m.val = c.val := by
      rcases Nat.eq_zero_or_pos e.seen with h0 | hpos
      · exact first_close_exact h0 (he.mean_fresh h0)
      · obtain ⟨d, hd, hdz⟩ := trySub_of_val_eq (he.mean_eq hv hpos.ne')
        obtain ⟨q, hq, hqs⟩ := tryDiv_scales d (n := e.seen + 1) (Nat.succ_pos _) hn
        have hq0 : q.val = 0 := le_antisymm (hqs.nonpos (by positivity) (val_of_isZero hdz).le)
          (hqs.nonneg (by positivity) (val_of_isZero hdz).ge)
        obtain ⟨m, hm, hmv⟩ := checkedAdd_of_isZero (x := e.seedMean)
          (.inr (isZero_of_val_eq_zero hq0))
        exact ⟨d, q, m, hd, hq, tryAdd_eq_ok.2 hm, by
          rw [hmv, hq0, add_zero, he.mean_eq hv hpos.ne']⟩
    obtain ⟨d, q, m, hd, hq, hm, hmv⟩ := hmove
    exact ⟨_, step_of_seeding hv hd hq hm, fun h => absurd h (Nat.succ_ne_zero _),
      fun _ _ => hmv, fun v hv' => (seeded_value hv') ▸ hmv, still_seeding hseen, he.period_lt⟩

/-- The same close fed over and over never overflows, and every value reported is worth
it. -/
theorem Steady.run {c : Decimal} {e : Ema} (he : e.Steady c) (n : Nat) :
    ∃ vs last, e.run (List.replicate n c) = .ok (vs, last) ∧
      ∀ (i : Nat) (v : Decimal), vs[i]? = some (some v) → v.val = c.val := by
  induction n generalizing e with
  | zero => exact ⟨[], e, rfl, fun i v h => by simp at h⟩
  | succ n ih =>
    obtain ⟨e', hstep, he'⟩ := he.step
    obtain ⟨vs, last, hrun, hvs⟩ := ih he'
    refine ⟨e'.value :: vs, last, ?_, fun i v hi => ?_⟩
    · simp only [List.replicate_succ, Ema.run, hstep, hrun, bind, Except.bind, pure, Except.pure]
    · cases i with
      | zero => exact he'.value_eq v (by simpa using hi)
      | succ i => exact hvs i v (by simpa using hi)

theorem steady_new {p : Nat} (hp : Nat.max p 1 + 1 < mantissaBound) (c : Decimal) :
    (new p).Steady c where
  mean_fresh _ := rfl
  mean_eq _ h := absurd rfl h
  value_eq _ h := by simp [new] at h
  seeding _ := by
    show 0 < Nat.max p 1
    unfold Nat.max
    omega
  period_lt := Nat.lt_of_succ_lt hp

/-- At a period whose successor is a word, a constant series never overflows, and every value
reported is worth the constant. -/
theorem series_steady {p : Nat} (hp : Nat.max p 1 + 1 < wordModulus) (c : Decimal) (n : Nat) :
    ∃ vs, series (List.replicate n c) p = .ok vs ∧
      ∀ (i : Nat) (v : Decimal), vs[i]? = some (some v) → v.val = c.val := by
  obtain ⟨vs, last, hrun, hvs⟩ := (steady_new (lt_trans hp (by decide)) c).run n
  exact ⟨vs, by simp [series_eq_run hp, hrun, Functor.map, Except.map], hvs⟩

/-! ## The averages reported -/

/-- The averages the program reports. Every run that finishes gives one value per close, none
before the period's close and one from there on. From period two on, at a period whose
successor is a word, closes of one sign never make it overflow, and each value lies between
two of the closes up to its own. And at every period whose successor is a word, a constant
series never overflows and is reported exactly. -/
theorem series_counts_bounds_steady (p : Nat) (cs : List Decimal) :
    (∀ vs, series cs p = .ok vs →
      vs.length = cs.length ∧ ∀ i (hi : i < vs.length), vs[i] = none ↔ i + 1 < Nat.max p 1) ∧
    (2 ≤ p → p + 1 < wordModulus → ((∀ c ∈ cs, 0 ≤ c.val) ∨ ∀ c ∈ cs, c.val ≤ 0) →
      ∃ vs, series cs p = .ok vs ∧ ∀ (i : Nat) (v : Decimal), vs[i]? = some (some v) →
        (∃ a ∈ cs.take (i + 1), a.val ≤ v.val) ∧ ∃ b ∈ cs.take (i + 1), v.val ≤ b.val) ∧
    (Nat.max p 1 + 1 < wordModulus → ∀ c : Decimal, (∀ x ∈ cs, x = c) →
      ∃ vs, series cs p = .ok vs ∧
        ∀ (i : Nat) (v : Decimal), vs[i]? = some (some v) → v.val = c.val) := by
  refine ⟨fun _ h => series_counts h,
    fun hp2 hp hcs => hcs.elim (series_within hp2 hp) (series_within_of_nonpos hp2 hp),
    fun hp c hc => ?_⟩
  rw [List.eq_replicate_iff.2 ⟨rfl, hc⟩]
  exact series_steady hp c cs.length

/-- Period three over closes 1.1, 1.2 and 1.3: one value per close, two of them missing, and
the third between the closes; and three closes of 1.1 give 1.1. -/
theorem series_counts_bounds_steady_period_three :
    let cs := [ofMantissa 11 1, ofMantissa 12 1, ofMantissa 13 1]
    (∃ vs, series cs 3 = .ok vs ∧ vs.length = cs.length ∧
      (∀ i (hi : i < vs.length), vs[i] = none ↔ i + 1 < Nat.max 3 1) ∧
      ∀ (i : Nat) (v : Decimal), vs[i]? = some (some v) →
        (∃ a ∈ cs.take (i + 1), a.val ≤ v.val) ∧ ∃ b ∈ cs.take (i + 1), v.val ≤ b.val) ∧
    ∃ vs, series (List.replicate 3 (ofMantissa 11 1)) 3 = .ok vs ∧
      ∀ (i : Nat) (v : Decimal), vs[i]? = some (some v) → v.val = (ofMantissa 11 1).val := by
  intro cs
  obtain ⟨hcount, hwithin, -⟩ := series_counts_bounds_steady 3 cs
  have hcs : ∀ c ∈ cs, 0 ≤ c.val := fun c hc => val_nonneg (by
    simp only [cs, List.mem_cons, List.not_mem_nil, or_false] at hc
    rcases hc with rfl | rfl | rfl <;> decide)
  obtain ⟨vs, hrun, hvs⟩ := hwithin (by decide) (by decide) (.inl hcs)
  obtain ⟨hlen, hnone⟩ := hcount vs hrun
  obtain ⟨-, -, hsteady⟩ := series_counts_bounds_steady 3 (List.replicate 3 (ofMantissa 11 1))
  exact ⟨⟨vs, hrun, hlen, hnone, hvs⟩,
    hsteady (by decide) _ (fun _ hx => List.eq_of_mem_replicate hx)⟩

/-- At period one the whole rounded difference is added. From 1.5, the close
79228162514264337593543950333 is 79228162514264337593543950331.5 away, a digit too many, which
rounds up; the average passes the close, to 79228162514264337593543950334. -/
theorem series_period_one_passes_close :
    series [ofMantissa 15 1, ofMantissa 79228162514264337593543950333 0] 1 =
      .ok [some (ofMantissa 15 1), some (ofMantissa 79228162514264337593543950334 0)] ∧
    (ofMantissa 79228162514264337593543950333 0).val <
      (ofMantissa 79228162514264337593543950334 0).val :=
  ⟨by decide +kernel, lt_iff_val.1 (by decide)⟩

end Ema

end ForexJournal
