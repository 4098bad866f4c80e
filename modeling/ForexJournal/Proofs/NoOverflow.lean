import Mathlib
import ForexJournal.Proofs.DecimalQuotient
import ForexJournal.Market.Indicators

/-!
# The indicators of consistent candles never overflow

Every computed step of an average moves the last value toward the next close by a rounded part
of the difference: `(close - mean) / count` while the average is seeded, `(close - ema) * k`
after. A part of at most nine tenths of a difference, rounded on a grid at least as fine as
the difference's, never carries the value past the close (`Decimal.add_scaled_between`). So every
value stays between two closes or the initial zero, hence within the range of decimals, and
no sum, difference, product or quotient of the average overflows on closes that are not
negative (`Ema.Sane.run`). The same argument shows that the middle of a consistent candle,
computed as the low plus half the range, never overflows (`Candle.geometry_isOk`).
-/

namespace ForexJournal

namespace Decimal

theorem val_on_grid (d : Decimal) {g : Nat} (hg : d.scale ≤ g) : ∃ z : ℤ, d.val = z / 10 ^ g :=
  ⟨d.scaledTo g, (scaledTo_div hg).symm⟩

theorem grid_le_of_lt_add {a b : ℤ} {g : Nat} (h : (a : ℚ) / 10 ^ g < b / 10 ^ g + 1 / 10 ^ g) :
    (a : ℚ) / 10 ^ g ≤ b / 10 ^ g := by
  have h10 : (0 : ℚ) < 10 ^ g := by positivity
  rw [← add_div, div_lt_div_iff_of_pos_right h10] at h
  have hab : a < b + 1 := by exact_mod_cast h
  exact div_le_div_of_nonneg_right (by exact_mod_cast (by omega : a ≤ b)) h10.le

theorem abs_sub_le_of_nonneg {a b : Decimal} (ha : 0 ≤ a.val) (hb : 0 ≤ b.val) :
    |a.val - b.val| ≤ mantissaBound - 1 := by
  have := abs_val_le a
  have := abs_val_le b
  rw [abs_le] at *
  constructor <;> linarith

/-- A part of a decimal that is not negative, by a factor that is not negative, is not
negative. -/
theorem Scales.nonneg {κ : ℚ} {d r : Decimal} (hκ : 0 ≤ κ) (hd : 0 ≤ d.val)
    (hr : Scales κ d r) : 0 ≤ r.val := by
  obtain ⟨g, -, ⟨z, hz⟩, herr⟩ := hr
  have hw0 : (0 : ℚ) < 1 / 10 ^ g := by positivity
  have hw2 : (1 : ℚ) / (2 * 10 ^ g) = 1 / 10 ^ g / 2 := by ring
  rw [abs_le, hw2] at herr
  have h := grid_le_of_lt_add (a := 0) (b := z) (g := g)
    (by rw [← hz]; simp only [Int.cast_zero, zero_div]; linarith [mul_nonneg hκ hd])
  simpa [← hz] using h

theorem Scales.nonpos {κ : ℚ} {d r : Decimal} (hκ : 0 ≤ κ) (hd : d.val ≤ 0)
    (hr : Scales κ d r) : r.val ≤ 0 := by
  obtain ⟨g, -, ⟨z, hz⟩, herr⟩ := hr
  have hw0 : (0 : ℚ) < 1 / 10 ^ g := by positivity
  have hw2 : (1 : ℚ) / (2 * 10 ^ g) = 1 / 10 ^ g / 2 := by ring
  rw [abs_le, hw2] at herr
  have h := grid_le_of_lt_add (a := z) (b := 0) (g := g)
    (by rw [← hz]; simp only [Int.cast_zero, zero_div, zero_add]
        linarith [mul_nonpos_of_nonneg_of_nonpos hκ hd])
  simpa [← hz] using h

end Decimal

open Decimal in
/-- Moving `v` toward `c`: with `d` the difference `c - v` as computed and `r` that difference
scaled by `κ ≤ 1` on a grid at least as fine, `v + r` lies between `v` and `c`, provided
`κ ≤ 9/10` or the difference was computed exactly. -/
theorem add_scaled_between {v c d r : Decimal} {κ : ℚ} (hκ0 : 0 ≤ κ) (hκ1 : κ ≤ 1)
    (hκ : κ ≤ 9 / 10 ∨ d.val = c.val - v.val) (hd : Fits (c.val - v.val) d) (hr : Scales κ d r) :
    min v.val c.val ≤ v.val + r.val ∧ v.val + r.val ≤ max v.val c.val := by
  have hrpos := hr.nonneg hκ0
  have hrneg := hr.nonpos hκ0
  obtain ⟨g, hg, ⟨z, hz⟩, herr⟩ := hr
  obtain ⟨zd, hzd⟩ := d.val_on_grid hg
  have hu0 : (0 : ℚ) < 1 / 10 ^ d.scale := by positivity
  have hw0 : (0 : ℚ) < 1 / 10 ^ g := by positivity
  have hwu : (1 : ℚ) / 10 ^ g ≤ 1 / 10 ^ d.scale :=
    one_div_le_one_div_of_le (by positivity) (pow_le_pow_right₀ (by norm_num) hg)
  have hnear := hd.near
  have hwide : d.val = c.val - v.val ∨ 10 ^ 27 * (1 / 10 ^ d.scale) ≤ |c.val - v.val| := by
    rcases hd.exact_or_wide with h | h
    · exact .inl h
    · exact .inr (by rwa [mul_one_div])
  have hw2 : (1 : ℚ) / (2 * 10 ^ g) = 1 / 10 ^ g / 2 := by ring
  have hu2 : (1 : ℚ) / (2 * 10 ^ d.scale) = 1 / 10 ^ d.scale / 2 := by ring
  rw [abs_le, hw2] at herr
  rw [abs_le, hu2] at hnear
  rcases le_total 0 (c.val - v.val) with hx | hx
  · have hd0 := hd.nonneg hx
    have hκd : κ * d.val ≤ d.val := mul_le_of_le_one_left hd0 hκ1
    have hr0 := hrpos hd0
    have hrd : r.val ≤ d.val := by
      rw [hz, hzd]
      exact grid_le_of_lt_add (by rw [← hz, ← hzd]; linarith)
    have hrx : r.val ≤ c.val - v.val := by
      rcases hwide with hex | hw
      · exact hex ▸ hrd
      rcases hκ with hκ | hex
      · rw [abs_of_nonneg hx] at hw
        have : κ * d.val ≤ 9 / 10 * d.val := mul_le_mul_of_nonneg_right hκ hd0
        linarith
      · exact hex ▸ hrd
    constructor
    · exact le_trans (min_le_left _ _) (by linarith)
    · exact le_trans (by linarith) (le_max_right _ _)
  · have hd0 := hd.nonpos hx
    have hκd : d.val ≤ κ * d.val := by nlinarith
    have hr0 := hrneg hd0
    have hrd : d.val ≤ r.val := by
      rw [hz, hzd]
      exact grid_le_of_lt_add (by rw [← hz, ← hzd]; linarith)
    have hrx : c.val - v.val ≤ r.val := by
      rcases hwide with hex | hw
      · exact hex ▸ hrd
      rcases hκ with hκ | hex
      · rw [abs_of_nonpos hx] at hw
        have : 9 / 10 * d.val ≤ κ * d.val := mul_le_mul_of_nonpos_right hκ hd0
        linarith
      · exact hex ▸ hrd
    constructor
    · exact le_trans (min_le_right _ _) (by linarith)
    · exact le_trans (by linarith) (le_max_left _ _)

/-- A value between two decimals that are not negative is not negative and no larger than the
greatest decimal. -/
theorem between_bounds {x : ℚ} {a b : Decimal} (ha : 0 ≤ a.val) (hb : 0 ≤ b.val)
    (h : min a.val b.val ≤ x ∧ x ≤ max a.val b.val) : 0 ≤ x ∧ |x| ≤ mantissaBound - 1 := by
  have hx0 : 0 ≤ x := le_trans (le_min ha hb) h.1
  have hxa := a.abs_val_le
  have hxb := b.abs_val_le
  rw [abs_of_nonneg ha] at hxa
  rw [abs_of_nonneg hb] at hxb
  exact ⟨hx0, by rw [abs_of_nonneg hx0]; exact le_trans h.2 (max_le hxa hxb)⟩

/-! ## Averages -/

namespace Ema

/-- An average that cannot overflow on closes that are not negative: a smoothing factor from 0
to one half, a running mean and an average that are not negative, a zero mean before the first
close, and a seed that completes at a count below the mantissa bound. -/
structure Sane (e : Ema) : Prop where
  k_nonneg : 0 ≤ e.k.val
  k_le_half : e.k.val ≤ 1 / 2
  mean_nonneg : 0 ≤ e.seedMean.val
  mean_fresh : e.seen = 0 → e.seedMean.isZero = true
  value_nonneg : ∀ v, e.value = some v → 0 ≤ v.val
  seeding : e.value = none → e.seen < e.period
  period_lt : e.period < mantissaBound

open Decimal

theorem step_of_seeded {e : Ema} {c prev d r m : Decimal} (hv : e.value = some prev)
    (hd : c.trySub prev = .ok d) (hr : d.tryMul e.k = .ok r) (hm : prev.tryAdd r = .ok m) :
    e.step c = .ok { e with seen := e.seen + 1, value := some m } := by
  unfold step
  rw [hv]
  simp only [hd, hr, hm, bind, Except.bind, pure, Except.pure]

/-- While seeding, a step moves the mean to `mean + (c - mean) / count` and reports it once the
count reaches the period. -/
theorem step_of_seeding {e : Ema} {c d q m : Decimal} (hv : e.value = none)
    (hd : c.trySub e.seedMean = .ok d) (hq : d.tryDiv (ofSmallNat (e.seen + 1)) = .ok q)
    (hm : e.seedMean.tryAdd q = .ok m) :
    e.step c = .ok ⟨e.period, e.k, e.seen + 1, m,
      if e.seen + 1 = e.period then some m else none⟩ := by
  unfold step
  rw [hv]
  simp only [hd, hq, hm, bind, Except.bind, pure, Except.pure]

theorem step_seeded_cases {e e₁ : Ema} {c prev : Decimal} (hv : e.value = some prev)
    (h : e.step c = .ok e₁) : ∃ d r m, c.trySub prev = .ok d ∧ d.tryMul e.k = .ok r ∧
      prev.tryAdd r = .ok m ∧ e₁ = { e with seen := e.seen + 1, value := some m } := by
  unfold step at h
  simp only [hv, bind, Except.bind, pure, Except.pure] at h
  split at h
  · cases h
  rename_i d hd
  split at h
  · cases h
  rename_i r hr
  split at h
  · cases h
  rename_i m hm
  exact ⟨d, r, m, hd, hr, hm, (Except.ok.inj h).symm⟩

theorem step_seeding_cases {e e₁ : Ema} {c : Decimal} (hv : e.value = none)
    (h : e.step c = .ok e₁) : ∃ d q m, c.trySub e.seedMean = .ok d ∧
      d.tryDiv (ofSmallNat (e.seen + 1)) = .ok q ∧ e.seedMean.tryAdd q = .ok m ∧
      e₁ = ⟨e.period, e.k, e.seen + 1, m, if e.seen + 1 = e.period then some m else none⟩ := by
  unfold step at h
  simp only [hv, bind, Except.bind, pure, Except.pure] at h
  split at h
  · cases h
  rename_i d hd
  split at h
  · cases h
  rename_i q hq
  split at h
  · cases h
  rename_i m hm
  exact ⟨d, q, m, hd, hq, hm, (Except.ok.inj h).symm⟩

theorem seeded_value {e : Ema} {m v : Decimal}
    (h : (if e.seen + 1 = e.period then some m else none) = some v) : v = m := by
  split at h
  · exact (Option.some.inj h).symm
  · cases h

theorem still_seeding {e : Ema} {m : Decimal} (hseen : e.seen < e.period)
    (h : (if e.seen + 1 = e.period then some m else none) = none) : e.seen + 1 < e.period := by
  split at h
  · cases h
  · omega

theorem one_div_count_le {n : Nat} (hn : 0 < n) : (1 : ℚ) / (n + 1 : ℕ) ≤ 9 / 10 := by
  have h2 : (2 : ℚ) ≤ (n + 1 : ℕ) := by exact_mod_cast (by omega : 2 ≤ n + 1)
  exact (one_div_le_one_div_of_le (by norm_num) h2).trans (by norm_num)

/-- A close that is not negative, fed to a sane average, never overflows and leaves the average
sane. -/
theorem Sane.step {e : Ema} (he : e.Sane) {c : Decimal} (hc : 0 ≤ c.val) :
    ∃ e', e.step c = .ok e' ∧ e'.Sane := by
  cases hv : e.value with
  | some prev =>
    have hp := he.value_nonneg prev hv
    obtain ⟨d, hd, hdf⟩ := trySub_fits (abs_sub_le_of_nonneg hc hp)
    have hk : |e.k.val| ≤ 1 := by
      rw [abs_le]
      constructor <;> linarith [he.k_nonneg, he.k_le_half]
    obtain ⟨r, hr, hrs⟩ := checkedMul_scales d hk
    obtain ⟨hm0, hmB⟩ := between_bounds hp hc
      (add_scaled_between he.k_nonneg (by linarith [he.k_le_half])
        (.inl (by linarith [he.k_le_half])) hdf hrs)
    obtain ⟨m, hm, hmf⟩ := tryAdd_fits hmB
    refine ⟨_, step_of_seeded hv hd (tryMul_eq_ok.2 hr) hm, he.k_nonneg, he.k_le_half,
      he.mean_nonneg, fun h => absurd h (Nat.succ_ne_zero _), fun v hv' => ?_,
      fun h => (Option.some_ne_none m h).elim, he.period_lt⟩
    simp only [Option.some.injEq] at hv'
    exact hv' ▸ hmf.nonneg hm0
  | none =>
    have hseen := he.seeding hv
    have hm0 := he.mean_nonneg
    obtain ⟨d, hd, hdf⟩ := trySub_fits (abs_sub_le_of_nonneg hc hm0)
    obtain ⟨q, hq, hqs⟩ := tryDiv_scales d (n := e.seen + 1) (Nat.succ_pos _)
      (by have := he.period_lt; omega)
    have hκ : (1 : ℚ) / (e.seen + 1 : ℕ) ≤ 9 / 10 ∨ d.val = c.val - e.seedMean.val := by
      rcases Nat.eq_zero_or_pos e.seen with h0 | hpos
      · exact .inr (val_of_checkedSub_isZero (he.mean_fresh h0) (trySub_eq_ok.1 hd))
      · exact .inl (one_div_count_le hpos)
    have hκ1 : (1 : ℚ) / (e.seen + 1 : ℕ) ≤ 1 := by
      rw [div_le_one (by positivity)]
      exact_mod_cast Nat.succ_pos _
    obtain ⟨hs0, hsB⟩ := between_bounds hm0 hc
      (add_scaled_between (by positivity) hκ1 hκ hdf hqs)
    obtain ⟨m, hm, hmf⟩ := tryAdd_fits hsB
    refine ⟨_, step_of_seeding hv hd hq hm, he.k_nonneg, he.k_le_half, hmf.nonneg hs0,
      fun h => absurd h (Nat.succ_ne_zero _), fun v hv' => (seeded_value hv') ▸ hmf.nonneg hs0,
      still_seeding hseen, he.period_lt⟩

/-- A sane average fed closes that are not negative never overflows. -/
theorem Sane.run {e : Ema} (he : e.Sane) {cs : List Decimal} (hcs : ∀ c ∈ cs, 0 ≤ c.val) :
    ∃ vs last, e.run cs = .ok (vs, last) := by
  induction cs generalizing e with
  | nil => exact ⟨[], e, rfl⟩
  | cons c cs ih =>
    obtain ⟨e', hstep, he'⟩ := he.step (hcs c List.mem_cons_self)
    obtain ⟨vs, last, hrun⟩ := ih he' fun c hc => hcs c (List.mem_cons_of_mem _ hc)
    exact ⟨e'.value :: vs, last, by
      simp only [Ema.run, hstep, hrun, bind, Except.bind, pure, Except.pure]⟩

theorem new_k_scales {p : Nat} (hp : Nat.max p 1 + 1 < mantissaBound) :
    Scales (1 / ((Nat.max p 1 + 1 : ℕ) : ℚ)) (ofSmallNat 2) (new p).k := by
  obtain ⟨k, hdiv, hks⟩ := checkedDiv_scales (ofSmallNat 2) (Nat.succ_pos (Nat.max p 1)) hp
  have hkv : (new p).k = k := by simp only [new, Decimal.div, hdiv, Option.getD_some]
  rwa [hkv]

theorem new_k_nonneg {p : Nat} (hp : Nat.max p 1 + 1 < mantissaBound) : 0 ≤ (new p).k.val :=
  (new_k_scales hp).nonneg (by positivity) (by rw [val_ofSmallNat (by decide)]; norm_num)

/-- A fresh average is sane once its smoothing factor is at most a half, as it is from period 3
on, and its period fits the mantissa. -/
theorem sane_new {p : Nat} (hp : p + 1 < mantissaBound) (hk : (Ema.new p).k.val ≤ 1 / 2) :
    (Ema.new p).Sane := by
  have hk0 : 0 ≤ (Ema.new p).k.val := new_k_nonneg (by unfold Nat.max mantissaBound at *; omega)
  refine ⟨hk0, hk, by simp [Ema.new], fun _ => rfl, fun v h => absurd h (by simp [Ema.new]),
    fun _ => ?_, ?_⟩
  · show 0 < Nat.max p 1
    unfold Nat.max
    omega
  · show Nat.max p 1 < mantissaBound
    unfold Nat.max mantissaBound at *
    omega

private theorem val_half : (ofMantissa 5 1).val = 1 / 2 := by
  simp [ofMantissa, val_eq, mantissaBound, maxScale]
  norm_num

theorem sane_new_fast : (Ema.new emaFast).Sane :=
  sane_new (by decide) (val_half ▸ le_iff_val.1 (by decide +kernel))

theorem sane_new_mid : (Ema.new emaMid).Sane :=
  sane_new (by decide) (val_half ▸ le_iff_val.1 (by decide +kernel))

theorem sane_new_slow : (Ema.new emaSlow).Sane :=
  sane_new (by decide) (val_half ▸ le_iff_val.1 (by decide +kernel))

theorem create_eq_ok {p : Nat} (hp : Nat.max p 1 + 1 < wordModulus) : create p = .ok (new p) := by
  have hw : (Nat.max p 1 + 1) % wordModulus = Nat.max p 1 + 1 := Nat.mod_eq_of_lt hp
  obtain ⟨k, hk, -⟩ := checkedDiv_scales (ofSmallNat 2) (Nat.succ_pos (Nat.max p 1))
    (lt_trans hp (by decide))
  have hz : (ofSmallNat (Nat.max p 1 + 1)).isZero = false := by
    simp [ofSmallNat, lt_trans hp (by decide : wordModulus < mantissaBound), isZero]
  simp [create, new, hw, tryDiv, hz, hk, Decimal.div, bind, Except.bind, pure, Except.pure]

theorem series_eq_run {p : Nat} (hp : Nat.max p 1 + 1 < wordModulus) (cs : List Decimal) :
    series cs p = (·.1) <$> (new p).run cs := by
  rw [series, create_eq_ok hp]
  rfl

/-- The averages of a period whose fresh average is sane and whose successor is a word, over
closes that are not negative, never overflow: one value per close. -/
theorem series_isOk {p : Nat} (hp : Nat.max p 1 + 1 < wordModulus) (hnew : (Ema.new p).Sane)
    {cs : List Decimal} (hcs : ∀ c ∈ cs, 0 ≤ c.val) :
    ∃ vs, Ema.series cs p = .ok vs ∧ vs.length = cs.length := by
  obtain ⟨vs, last, hrun⟩ := hnew.run hcs
  exact ⟨vs, by simp [series_eq_run hp, hrun, Functor.map, Except.map], run_length _ _ _ _ hrun⟩

end Ema

/-! ## Candle geometry -/

namespace Candle

/-- The prices of a consistent candle, as values: the low is positive and at most the open and
the close, and these are at most the high. -/
structure Ordered (c : Candle) : Prop where
  low_pos : 0 < c.low.val
  low_le_open : c.low.val ≤ c.openPrice.val
  open_le_high : c.openPrice.val ≤ c.high.val
  low_le_close : c.low.val ≤ c.close.val
  close_le_high : c.close.val ≤ c.high.val

open Decimal in
theorem ordered_of_validate {c : Candle} (h : c.validate = .ok ()) : c.Ordered := by
  unfold validate at h
  split_ifs at h with h1 h2 h3 h4
  simp only [List.any_cons, List.any_nil, Bool.or_false, Bool.or_eq_true, not_or,
    Bool.not_eq_true] at h1
  simp only [Bool.not_eq_true] at h2
  simp only [Bool.or_eq_true, not_or, Bool.not_eq_true] at h3 h4
  have hlt {a b : Decimal} (hab : a.lt b = false) : b.val ≤ a.val :=
    not_lt.1 fun h => by rw [← lt_iff_val] at h; simp [h] at hab
  exact ⟨isNonPositive_eq_false.1 h1.2.2.1, hlt h3.2, hlt h3.1, hlt h4.2, hlt h4.1⟩

theorem Ordered.low_nonneg {c : Candle} (h : c.Ordered) : 0 ≤ c.low.val := h.low_pos.le

theorem Ordered.open_nonneg {c : Candle} (h : c.Ordered) : 0 ≤ c.openPrice.val :=
  h.low_nonneg.trans h.low_le_open

theorem Ordered.close_nonneg {c : Candle} (h : c.Ordered) : 0 ≤ c.close.val :=
  h.low_nonneg.trans h.low_le_close

theorem Ordered.high_nonneg {c : Candle} (h : c.Ordered) : 0 ≤ c.high.val :=
  h.open_nonneg.trans h.open_le_high

theorem maxOf_cases (a b : Decimal) : Decimal.maxOf a b = a ∨ Decimal.maxOf a b = b := by
  unfold Decimal.maxOf
  split
  · exact .inr rfl
  · exact .inl rfl

theorem minOf_cases (a b : Decimal) : Decimal.minOf a b = a ∨ Decimal.minOf a b = b := by
  unfold Decimal.minOf
  split
  · exact .inl rfl
  · exact .inr rfl

open Decimal in
/-- The geometry of a candle whose prices are in order never overflows; in particular the
middle, the low plus half the range, stays within the range. -/
theorem geometry_isOk {c : Candle} (h : c.Ordered) : ∃ g, c.geometry = .ok g := by
  have hmax : 0 ≤ (maxOf c.openPrice c.close).val := by
    rcases maxOf_cases c.openPrice c.close with e | e <;> rw [e]
    exacts [h.open_nonneg, h.close_nonneg]
  have hmin : 0 ≤ (minOf c.openPrice c.close).val := by
    rcases minOf_cases c.openPrice c.close with e | e <;> rw [e]
    exacts [h.open_nonneg, h.close_nonneg]
  obtain ⟨range, hrange, hrf⟩ := trySub_fits (abs_sub_le_of_nonneg h.high_nonneg h.low_nonneg)
  obtain ⟨body, hbody, -⟩ := trySub_fits (abs_sub_le_of_nonneg h.close_nonneg h.open_nonneg)
  obtain ⟨upper, hupper, -⟩ := trySub_fits (abs_sub_le_of_nonneg h.high_nonneg hmax)
  obtain ⟨lower, hlower, -⟩ := trySub_fits (abs_sub_le_of_nonneg hmin h.low_nonneg)
  obtain ⟨half, hhalf, hhs⟩ := tryDiv_scales range (n := 2) (by norm_num) (by decide)
  obtain ⟨-, hmB⟩ := between_bounds h.low_nonneg h.high_nonneg
    (add_scaled_between (by norm_num) (by norm_num) (.inl (by norm_num)) hrf hhs)
  obtain ⟨mid, hmid, -⟩ := tryAdd_fits hmB
  have hrs : c.rangeSize = .ok range := hrange
  refine ⟨⟨range, body.abs, upper, lower, mid⟩, ?_⟩
  simp only [geometry, rangeSize, bodySize, upperWick, lowerWick, midPrice, hrange, hbody,
    hupper, hlower, hhalf, hmid, bind, Except.bind, pure, Except.pure, Functor.map, Except.map]

end Candle

end ForexJournal
