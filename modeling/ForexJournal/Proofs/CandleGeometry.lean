import Mathlib
import ForexJournal.Proofs.AverageRange
import ForexJournal.Proofs.TradeGeometry

/-!
# The geometry of a consistent candle

Range, body and wicks are each one difference of two prices, computed on its own and fitted
into a decimal: exact unless the exact difference has 28 digits at its scale, and then rounded
at its last place (`Candle.GeometryFits`). On a consistent candle none of them, nor the middle,
overflows, and all four are not negative.

Exactly, the body and the two wicks cover the range: the body runs between open and close, the
wicks from there to the high and to the low. Fitted one by one, their sum can miss the fitted
range, since each difference drops its digits at its own place
(`geometry_parts_miss_range`). It misses by at most `(high - low) / 10 ^ 27`, and not at all
when the four prices share a scale, since a difference of two prices of one scale always fits.

The middle is the low plus half the range. Half the range is rounded on a grid at least as fine
as the range's, so the exact sum stays within the range, and fitting it passes neither the low
nor the high.
-/

namespace ForexJournal

namespace Decimal

theorem trySub_ok_fits {a b r : Decimal} (h : a.trySub b = .ok r) : Fits (a.val - b.val) r := by
  simpa [sub_eq_add_neg] using addSub_fits (trySub_eq_ok.1 h)

@[simp] theorem val_maxOf (a b : Decimal) : (maxOf a b).val = Max.max a.val b.val := by
  unfold maxOf
  split
  · rename_i h
    exact (max_eq_right (le_iff_val.1 h)).symm
  · rename_i h
    exact (max_eq_left (not_le.1 fun hle => h (le_iff_val.2 hle)).le).symm

@[simp] theorem val_minOf (a b : Decimal) : (minOf a b).val = Min.min a.val b.val := by
  unfold minOf
  split
  · rename_i h
    exact (min_eq_left (le_iff_val.1 h)).symm
  · rename_i h
    exact (min_eq_right (not_le.1 fun hle => h (le_iff_val.2 hle)).le).symm

theorem signedMantissa_nonneg_of_val {d : Decimal} (h : 0 ≤ d.val) : 0 ≤ d.signedMantissa := by
  have h10 : (0 : ℚ) < 10 ^ d.scale := by positivity
  unfold val at h
  exact_mod_cast (div_nonneg_iff.1 h).elim (·.1) fun h' => absurd h'.2 (not_le.2 h10)

/-- A difference of two decimals of one scale, neither negative, is exact: at that scale its
mantissa is at most the larger of the two, so it fits. -/
theorem trySub_exact_of_scale_eq {a b r : Decimal} (hs : a.scale = b.scale) (ha : 0 ≤ a.val)
    (hb : 0 ≤ b.val) (h : a.trySub b = .ok r) : r.val = a.val - b.val := by
  have hc := trySub_eq_ok.1 h
  unfold checkedSub addSub at hc
  split at hc
  · rename_i hz
    rw [val_of_isZero hz, zero_sub]
    split at hc <;> cases hc
    · exact val_neg b
    · rename_i hb0
      simp only [Bool.true_and, Bool.not_eq_eq_eq_not, Bool.not_true, Bool.not_eq_false] at hb0
      simp [val_of_isZero (by simpa using hb0)]
  · split at hc
    · rename_i _ hz
      cases hc
      simp [val_of_isZero hz]
    · unfold exactSum at hc
      obtain ⟨k, -, hks, -, hval, hmin⟩ := ofSignedExact?_eq_some hc
      have hma := signedMantissa_nonneg_of_val ha
      have hmb := signedMantissa_nonneg_of_val hb
      have hla : a.signedMantissa < mantissaBound := by
        have := a.mantissa_lt
        have := natAbs_signedMantissa a
        omega
      have hlb : b.signedMantissa < mantissaBound := by
        have := b.mantissa_lt
        have := natAbs_signedMantissa b
        omega
      have hk : k = 0 := by
        by_contra hk
        have hwide := hmin 0 (Nat.zero_le _) (Nat.pos_of_ne_zero hk)
        have hp : Nat.pow 10 0 = 1 := rfl
        have hq : Int.pow 10 0 = 1 := rfl
        rw [hp, roundHalfEven_one] at hwide
        simp only [scaledTo, hs, Nat.max_self, Nat.sub_self, hq, mul_one, if_true] at hwide
        omega
      subst hk
      rw [hval, roundedAt_zero]
      simpa [sub_eq_add_neg] using exactSum_value a b true

end Decimal

namespace Candle

open Decimal

variable {c : Candle}

theorem Ordered.low_le_high (h : c.Ordered) : c.low.val ≤ c.high.val :=
  h.low_le_open.trans h.open_le_high

/-! ## One difference each -/

theorem rangeSize_fits {r : Decimal} (h : c.rangeSize = .ok r) :
    Fits (c.high.val - c.low.val) r :=
  trySub_ok_fits h

theorem bodySize_fits {r : Decimal} (h : c.bodySize = .ok r) :
    Fits |c.close.val - c.openPrice.val| r := by
  unfold bodySize at h
  cases hd : c.close.trySub c.openPrice with
  | error e => simp [hd, Functor.map, Except.map] at h
  | ok d =>
    simp only [hd, Functor.map, Except.map, Except.ok.injEq] at h
    exact h ▸ (trySub_ok_fits hd).abs

theorem upperWick_fits {r : Decimal} (h : c.upperWick = .ok r) :
    Fits (c.high.val - max c.openPrice.val c.close.val) r := by
  simpa using trySub_ok_fits h

theorem lowerWick_fits {r : Decimal} (h : c.lowerWick = .ok r) :
    Fits (min c.openPrice.val c.close.val - c.low.val) r := by
  simpa using trySub_ok_fits h

/-- The middle is the low plus half the range: half the range, rounded on a grid at least as
fine, keeps the exact sum within the range, and fitting that sum passes neither end. -/
theorem midPrice_between (ho : c.Ordered) {m : Decimal} (h : c.midPrice = .ok m) :
    c.low.val ≤ m.val ∧ m.val ≤ c.high.val := by
  unfold midPrice at h
  cases hr : c.rangeSize with
  | error e => simp [hr, bind, Except.bind] at h
  | ok r =>
    obtain ⟨q, hq, hqs⟩ := tryDiv_scales r (n := 2) (by norm_num) (by decide)
    simp only [hr, hq, bind, Except.bind] at h
    obtain ⟨hlo, hhi⟩ := add_scaled_between (by norm_num) (by norm_num) (.inl (by norm_num))
      (rangeSize_fits hr) hqs
    rw [min_eq_left ho.low_le_high] at hlo
    rw [max_eq_right ho.low_le_high] at hhi
    exact tryAdd_between h ho.low_nonneg hlo hhi

theorem geometry_eq_ok {g : CandleGeometry} (h : c.geometry = .ok g) :
    c.rangeSize = .ok g.rangeSize ∧ c.bodySize = .ok g.bodySize ∧
      c.upperWick = .ok g.upperWick ∧ c.lowerWick = .ok g.lowerWick ∧
      c.midPrice = .ok g.midPrice := by
  simp only [geometry, except_bind_eq_ok, pure, Except.pure, Except.ok.injEq] at h
  obtain ⟨r, hr, b, hb, u, hu, l, hl, m, hm, rfl⟩ := h
  exact ⟨hr, hb, hu, hl, hm⟩

/-! ## The geometry as a whole -/

/-- The geometry of a candle fitted into decimals: range, body and wicks are each the exact one
fitted, and the middle lies within the range. -/
structure GeometryFits (c : Candle) (g : CandleGeometry) : Prop where
  range : Fits (c.high.val - c.low.val) g.rangeSize
  body : Fits |c.close.val - c.openPrice.val| g.bodySize
  upper : Fits (c.high.val - max c.openPrice.val c.close.val) g.upperWick
  lower : Fits (min c.openPrice.val c.close.val - c.low.val) g.lowerWick
  low_le_mid : c.low.val ≤ g.midPrice.val
  mid_le_high : g.midPrice.val ≤ c.high.val

theorem geometry_fits (ho : c.Ordered) : ∃ g, c.geometry = .ok g ∧ c.GeometryFits g := by
  obtain ⟨g, hg⟩ := geometry_isOk ho
  obtain ⟨hr, hb, hu, hl, hm⟩ := geometry_eq_ok hg
  obtain ⟨hlo, hhi⟩ := midPrice_between ho hm
  exact ⟨g, hg, rangeSize_fits hr, bodySize_fits hb, upperWick_fits hu, lowerWick_fits hl,
    hlo, hhi⟩

theorem parts_cover_range (c : Candle) :
    |c.close.val - c.openPrice.val| + (c.high.val - max c.openPrice.val c.close.val) +
      (min c.openPrice.val c.close.val - c.low.val) = c.high.val - c.low.val := by
  rcases le_total c.openPrice.val c.close.val with h | h
  · rw [abs_of_nonneg (sub_nonneg.2 h), max_eq_right h, min_eq_left h]
    ring
  · rw [abs_of_nonpos (sub_nonpos.2 h), max_eq_left h, min_eq_right h]
    ring

namespace GeometryFits

variable {g : CandleGeometry}

theorem nonneg (ho : c.Ordered) (h : c.GeometryFits g) :
    0 ≤ g.rangeSize.val ∧ 0 ≤ g.bodySize.val ∧ 0 ≤ g.upperWick.val ∧ 0 ≤ g.lowerWick.val :=
  ⟨h.range.nonneg (sub_nonneg.2 ho.low_le_high), h.body.nonneg (abs_nonneg _),
    h.upper.nonneg (sub_nonneg.2 (max_le ho.open_le_high ho.close_le_high)),
    h.lower.nonneg (sub_nonneg.2 (le_min ho.low_le_open ho.low_le_close))⟩

/-- The fitted body and wicks add up to the fitted range to within `(high - low) / 10 ^ 27`:
each of the four is within a relative `1 / (2 * 10 ^ 27)` of its exact value, and the exact
parts add up to the exact range. -/
theorem parts_near (ho : c.Ordered) (h : c.GeometryFits g) :
    |g.rangeSize.val - (g.bodySize.val + g.upperWick.val + g.lowerWick.val)| ≤
      (c.high.val - c.low.val) / 10 ^ 27 := by
  have hHL : 0 ≤ c.high.val - c.low.val := sub_nonneg.2 ho.low_le_high
  have hU : 0 ≤ c.high.val - max c.openPrice.val c.close.val :=
    sub_nonneg.2 (max_le ho.open_le_high ho.close_le_high)
  have hL : 0 ≤ min c.openPrice.val c.close.val - c.low.val :=
    sub_nonneg.2 (le_min ho.low_le_open ho.low_le_close)
  have er := h.range.rel
  have eb := h.body.rel
  have eu := h.upper.rel
  have el := h.lower.rel
  rw [abs_of_nonneg hHL] at er
  rw [abs_abs] at eb
  rw [abs_of_nonneg hU] at eu
  rw [abs_of_nonneg hL] at el
  have hcover := parts_cover_range c
  rw [abs_le] at er eb eu el ⊢
  constructor <;> linarith

end GeometryFits

/-- When the four prices share a scale, no difference drops a digit, and the body and the
wicks add up to the range exactly. -/
theorem parts_sum_exact_of_one_scale (ho : c.Ordered) (hos : c.openPrice.scale = c.high.scale)
    (hls : c.low.scale = c.high.scale) (hcs : c.close.scale = c.high.scale) {g : CandleGeometry}
    (h : c.geometry = .ok g) :
    g.rangeSize.val = g.bodySize.val + g.upperWick.val + g.lowerWick.val := by
  obtain ⟨hr, hb, hu, hl, -⟩ := geometry_eq_ok h
  have hmax_s : (maxOf c.openPrice c.close).scale = c.high.scale := by
    rcases maxOf_cases c.openPrice c.close with e | e <;> rw [e] <;> assumption
  have hmin_s : (minOf c.openPrice c.close).scale = c.high.scale := by
    rcases minOf_cases c.openPrice c.close with e | e <;> rw [e] <;> assumption
  have hmax0 : 0 ≤ (maxOf c.openPrice c.close).val := by
    rw [val_maxOf]
    exact ho.open_nonneg.trans (le_max_left _ _)
  have hmin0 : 0 ≤ (minOf c.openPrice c.close).val := by
    rw [val_minOf]
    exact le_min ho.open_nonneg ho.close_nonneg
  have er := trySub_exact_of_scale_eq hls.symm ho.high_nonneg ho.low_nonneg hr
  have eu := trySub_exact_of_scale_eq hmax_s.symm ho.high_nonneg hmax0 hu
  have el := trySub_exact_of_scale_eq (hmin_s.trans hls.symm) hmin0 ho.low_nonneg hl
  have eb : g.bodySize.val = |c.close.val - c.openPrice.val| := by
    unfold bodySize at hb
    cases hd : c.close.trySub c.openPrice with
    | error e => simp [hd, Functor.map, Except.map] at hb
    | ok d =>
      simp only [hd, Functor.map, Except.map, Except.ok.injEq] at hb
      rw [← hb, val_abs,
        trySub_exact_of_scale_eq (hcs.trans hos.symm) ho.close_nonneg ho.open_nonneg hd]
  rw [er, eb, eu, el, val_maxOf, val_minOf, ← parts_cover_range c]

/-- The geometry of a consistent candle: it is computed without overflow, at any prices and
scales; range, body and wicks are not negative; the body and the wicks add up to the range to
within `(high - low) / 10 ^ 27`, and with no error at all when the four prices share a scale;
and the middle lies between the low and the high. -/
theorem consistent_candle_geometry (h : c.validate = .ok ()) :
    ∃ g, c.geometry = .ok g ∧
      0 ≤ g.rangeSize.val ∧ 0 ≤ g.bodySize.val ∧ 0 ≤ g.upperWick.val ∧ 0 ≤ g.lowerWick.val ∧
      |g.rangeSize.val - (g.bodySize.val + g.upperWick.val + g.lowerWick.val)| ≤
        (c.high.val - c.low.val) / 10 ^ 27 ∧
      (c.openPrice.scale = c.high.scale → c.low.scale = c.high.scale →
        c.close.scale = c.high.scale →
        g.rangeSize.val = g.bodySize.val + g.upperWick.val + g.lowerWick.val) ∧
      c.low.val ≤ g.midPrice.val ∧ g.midPrice.val ≤ c.high.val := by
  have ho := ordered_of_validate h
  obtain ⟨g, hg, hfits⟩ := geometry_fits ho
  obtain ⟨hr, hb, hu, hl⟩ := hfits.nonneg ho
  exact ⟨g, hg, hr, hb, hu, hl, hfits.parts_near ho,
    fun hos hls hcs => parts_sum_exact_of_one_scale ho hos hls hcs hg,
    hfits.low_le_mid, hfits.mid_le_high⟩

end Candle

/-- A candle of mixed scales: open 0.0000000000000000000000000006, high 9,
low 0.0000000000000000000000000002, close 8. -/
def mixedScaleCandle : Candle :=
  ⟨Uuid.nil, "EURUSD", .weekly, Instant.epoch, Decimal.ofMantissa 6 28, Decimal.ofMantissa 9 0,
    Decimal.ofMantissa 2 28, Decimal.ofMantissa 8 0, none⟩

/-- The candle of mixed scales is consistent, and its computed geometry. -/
theorem consistent_candle_geometry_mixed_scales :
    mixedScaleCandle.validate = .ok () ∧ ∃ g, mixedScaleCandle.geometry = .ok g ∧
      0 ≤ g.rangeSize.val ∧ 0 ≤ g.bodySize.val ∧ 0 ≤ g.upperWick.val ∧ 0 ≤ g.lowerWick.val ∧
      |g.rangeSize.val - (g.bodySize.val + g.upperWick.val + g.lowerWick.val)| ≤
        (mixedScaleCandle.high.val - mixedScaleCandle.low.val) / 10 ^ 27 ∧
      (mixedScaleCandle.openPrice.scale = mixedScaleCandle.high.scale →
        mixedScaleCandle.low.scale = mixedScaleCandle.high.scale →
        mixedScaleCandle.close.scale = mixedScaleCandle.high.scale →
        g.rangeSize.val = g.bodySize.val + g.upperWick.val + g.lowerWick.val) ∧
      mixedScaleCandle.low.val ≤ g.midPrice.val ∧ g.midPrice.val ≤ mixedScaleCandle.high.val :=
  ⟨by rfl, Candle.consistent_candle_geometry (by rfl)⟩

/-- On the candle of mixed scales the body and the wicks miss the range. The body
`8 - 0.0000000000000000000000000006` has a digit too many and is rounded down to
7.999999999999999999999999999, while the range `9 - 0.0000000000000000000000000002` is rounded
up to 9.000000000000000000000000000; with the upper wick 1 and the lower wick
0.0000000000000000000000000004 the parts add up to 8.9999999999999999999999999994, and summed
as decimals to 8.999999999999999999999999999. -/
theorem geometry_parts_miss_range :
    ∃ g, mixedScaleCandle.geometry = .ok g ∧
      g.rangeSize.val ≠ g.bodySize.val + g.upperWick.val + g.lowerWick.val ∧
      ((g.bodySize.add g.upperWick).add g.lowerWick).sameValue g.rangeSize = false := by
  obtain ⟨g, hg, hv⟩ := exists_eq_ok_of_toOption
    (show mixedScaleCandle.geometry.toOption.map
        (fun g => (g.rangeSize, g.bodySize, g.upperWick, g.lowerWick)) =
      some (Decimal.ofMantissa 9000000000000000000000000000 27,
        Decimal.ofMantissa 7999999999999999999999999999 27, Decimal.ofMantissa 1 0,
        Decimal.ofMantissa 4 28) by decide +kernel)
  simp only [Prod.mk.injEq] at hv
  obtain ⟨hr, hb, hu, hl⟩ := hv
  refine ⟨g, hg, ?_, by rw [hr, hb, hu, hl]; decide +kernel⟩
  rw [hr, hb, hu, hl, Decimal.val_ofMantissa (by decide) (by decide),
    Decimal.val_ofMantissa (by decide) (by decide), Decimal.val_ofMantissa (by decide) (by decide),
    Decimal.val_ofMantissa (by decide) (by decide)]
  norm_num

end ForexJournal
