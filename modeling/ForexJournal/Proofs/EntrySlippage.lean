import Mathlib
import ForexJournal.Proofs.TradeGeometry

/-!
# How far an entry fill may lie from its plan

The entry check measures a fill's distance from the planned entry as the difference of the two
prices, made positive and divided by the pip size, 0.0001, and refuses a fill whose distance in
pips exceeds the maximum. The quotient by a pip only moves the point, so it is exact, and it
overflows only when the distance in pips is more than the greatest decimal. The difference,
though, is fitted into a decimal like every sum: exact while it fits at the finer scale of the
two prices (for one, whenever it is below a tenth), and rounded at its last kept place
otherwise. A distance rounded down onto the maximum then passes although the exact distance
exceeds it (`checkEntryPrice_rounded_distance_passes`).

Main statement: `checkEntryPrice_verdict`.
-/

namespace ForexJournal

namespace Decimal

/-- A quotient by `10 ^ -j`, for `j` up to 9, is computed whenever the value moved `j` places
fits: the long division brings in the `j - scale` missing places in one round. -/
theorem checkedDiv_pow10_isSome {d : Decimal} {j : Nat} (hj : j ≤ 9)
    (hfit : |d.val| * 10 ^ j < mantissaBound) : ∃ q, d.checkedDiv (ofMantissa 1 j) = some q := by
  rw [ofMantissa_one (by unfold maxScale; omega)]
  unfold checkedDiv
  simp only [isZero, Nat.one_ne_zero, beq_iff_eq, if_false, Nat.div_one, Nat.mod_one]
  split
  · exact ⟨_, rfl⟩
  have hds := d.scale_le
  have hdm := d.mantissa_lt
  unfold maxScale at hds
  rw [abs_val, div_mul_eq_mul_div, div_lt_iff₀ (by positivity)] at hfit
  rcases Nat.lt_or_ge d.scale j with hlt | hge
  · obtain ⟨p, hp⟩ : ∃ p, j = d.scale + p + 1 := ⟨j - d.scale - 1, by omega⟩
    have hq : d.mantissa * Nat.pow 10 (p + 1) < mantissaBound := by
      have h10 : (10 : ℚ) ^ j = 10 ^ (p + 1) * 10 ^ d.scale := by rw [hp, ← pow_add]; ring_nf
      rw [h10, ← mul_assoc, mul_lt_mul_iff_of_pos_right (by positivity)] at hfit
      rw [Nat.pow_eq]
      exact_mod_cast hfit
    have hdev : develop 1 d.mantissa 0 ((d.scale : ℤ) - j) false =
        some ⟨d.mantissa * Nat.pow 10 (p + 1), 0, false⟩ := by
      rw [develop, quotientMove]
      simp only [if_true]
      rw [if_neg (by omega)]
      have hmin : Nat.min 9 (-((d.scale : ℤ) - j)).toNat = p + 1 := by
        simp only [Nat.min_def]
        split <;> omega
      have hsc : (d.scale : ℤ) - j + ((p + 1 : ℕ) : ℤ) = 0 := by omega
      simp only [hmin]
      rw [dif_neg (by omega), if_neg (not_le.2 hq)]
      simp only [Nat.zero_mul, Nat.zero_div, Nat.add_zero, Nat.zero_mod, if_neg (not_le.2 hq), hsc]
      rw [develop, quotientMove]
      simp
    rw [hdev]
    exact ofParts?_isSome _ hq (by simp)
  · have hdev : develop 1 d.mantissa 0 ((d.scale : ℤ) - j) false =
        some ⟨d.mantissa, (d.scale : ℤ) - j, false⟩ := by
      rw [develop, quotientMove]
      simp only [if_true]
      rw [if_pos (by omega)]
    rw [hdev]
    simp only [Bool.false_eq_true, if_false]
    exact ofParts?_isSome _ hdm (by unfold maxScale; omega)

/-- Fitting a sum or difference of two nonzero decimals keeps every place, up to the finer scale
of the two, at which the exact value rounds to a mantissa that fits. -/
theorem addSub_keeps_places {a b r : Decimal} {subtract : Bool} (ha : a.isZero = false)
    (hb : b.isZero = false) (h : addSub a b subtract = some r) {u : Nat}
    (hu : u ≤ Nat.max a.scale b.scale)
    (hfit : 2 * |a.val + (if subtract then -b.val else b.val)| * 10 ^ u + 1 < 2 * mantissaBound) :
    u ≤ r.scale := by
  unfold addSub at h
  rw [if_neg (by simp [ha]), if_neg (by simp [hb])] at h
  unfold exactSum at h
  obtain ⟨k, -, hks, hscale, -, hmin⟩ := ofSignedExact?_eq_some h
  rw [hscale]
  by_contra hlt
  have hwide := hmin (Nat.max a.scale b.scale - u) (Nat.zero_le _) (by omega)
  generalize hv : a.scaledTo (Nat.max a.scale b.scale) +
    (if subtract then -b.scaledTo (Nat.max a.scale b.scale)
      else b.scaledTo (Nat.max a.scale b.scale)) = v at hwide
  have hval := exactSum_value a b subtract
  rw [hv] at hval
  have hP : 0 < Nat.pow 10 (Nat.max a.scale b.scale - u) := Nat.pow_pos (by norm_num)
  have hnear := (roundHalfEven_near (n := v.natAbs) hP).2
  have hnear' : (2 * mantissaBound * 10 ^ (Nat.max a.scale b.scale - u) : ℚ) ≤
      2 * v.natAbs + 10 ^ (Nat.max a.scale b.scale - u) := by
    have : 2 * mantissaBound * Nat.pow 10 (Nat.max a.scale b.scale - u) ≤
        2 * v.natAbs + Nat.pow 10 (Nat.max a.scale b.scale - u) := by nlinarith
    rw [Nat.pow_eq] at this
    exact_mod_cast this
  have hV : (v.natAbs : ℚ) = |a.val + (if subtract then -b.val else b.val)| *
      10 ^ (Nat.max a.scale b.scale - u) * 10 ^ u := by
    rw [← hval, abs_div, abs_of_pos (by positivity : (0 : ℚ) < 10 ^ Nat.max a.scale b.scale),
      mul_assoc, ← pow_add, Nat.sub_add_cancel hu, div_mul_cancel₀ _ (by positivity),
      Nat.cast_natAbs, Int.cast_abs]
  rw [hV] at hnear'
  have h10 : (0 : ℚ) < 10 ^ (Nat.max a.scale b.scale - u) := by positivity
  nlinarith

theorem addSub_exact_of_scale {a b r : Decimal} {subtract : Bool} (ha : a.isZero = false)
    (hb : b.isZero = false) (h : addSub a b subtract = some r)
    (hs : Nat.max a.scale b.scale ≤ r.scale) :
    r.val = a.val + if subtract then -b.val else b.val := by
  unfold addSub at h
  rw [if_neg (by simp [ha]), if_neg (by simp [hb])] at h
  unfold exactSum at h
  obtain ⟨k, -, hks, hscale, hval, -⟩ := ofSignedExact?_eq_some h
  have hk : k = 0 := by omega
  rw [hval, hk, roundedAt_zero, exactSum_value]

/-- The distance of two positive prices, moved four places, is computed unless the exact
distance in pips is more than the greatest decimal. -/
theorem sub_abs_div_pipSize_isSome {a b : Decimal} (ha : 0 < a.val) (hb : 0 < b.val)
    (hE : |a.val - b.val| * 10 ^ 4 ≤ mantissaBound - 1) :
    ∃ s, (a.sub b).abs.checkedDiv pipSize = some s := by
  obtain ⟨r, hr⟩ := addSub_isSome a b true (by
    have hA := (abs_le.1 (abs_val_le a)).2
    have hB := (abs_le.1 (abs_val_le b)).2
    simp only [if_true, ← sub_eq_add_neg, abs_le]
    constructor <;> linarith)
  have hsub : a.sub b = r := by simp [sub, checkedSub, hr]
  have haz := isZero_eq_false_of_pos ha
  have hbz := isZero_eq_false_of_pos hb
  have hE' : 2 * |a.val + -b.val| * 10 ^ 4 + 1 < 2 * mantissaBound := by
    rw [← sub_eq_add_neg]
    linarith
  refine checkedDiv_pow10_isSome (by norm_num) ?_
  rw [hsub, val_abs, abs_abs]
  have hkeep := addSub_keeps_places haz hbz hr (u := Nat.min 4 (Nat.max a.scale b.scale))
    (Nat.min_le_right _ _) (by
      simp only [if_true]
      have : (10 : ℚ) ^ Nat.min 4 (Nat.max a.scale b.scale) ≤ 10 ^ 4 :=
        pow_le_pow_right₀ (by norm_num) (Nat.min_le_left _ _)
      nlinarith [abs_nonneg (a.val + -b.val)])
  rcases Nat.lt_or_ge r.scale 4 with h4 | h4
  · have hexact := addSub_exact_of_scale haz hbz hr (by
      simp only [Nat.min_def] at hkeep
      split at hkeep <;> omega)
    rw [hexact, if_pos rfl, ← sub_eq_add_neg]
    linarith
  · have hm : (r.mantissa : ℚ) < mantissaBound := by exact_mod_cast r.mantissa_lt
    rw [abs_val, div_mul_eq_mul_div, div_lt_iff₀ (by positivity)]
    calc (r.mantissa : ℚ) * 10 ^ 4 ≤ r.mantissa * 10 ^ r.scale := by
          gcongr
          norm_num
      _ < mantissaBound * 10 ^ r.scale := by gcongr

end Decimal

open Decimal

namespace Risk

/-- The verdict `r` of the entry check on a fill at `actual` planned at `planned`, with at most
`maxPips` pips of slippage, read through `D`, the exact distance fitted into a decimal: the fill
passes exactly when `D` is at most `maxPips` pips; a refused fill reports `D` in pips, above the
maximum, with the maximum itself; and the check fails as out of range only when the exact
distance in pips is more than the greatest decimal. -/
structure EntryVerdict (planned actual maxPips D : Decimal) (r : Except JournalError Unit) :
    Prop where
  fits : Fits |actual.val - planned.val| D
  ok_iff : r = .ok () ↔ D.val * 10 ^ 4 ≤ maxPips.val
  refused : ∀ e, r = .error e →
    (∃ s, e = .slippageExceeded s maxPips ∧ s.val = D.val * 10 ^ 4 ∧ maxPips.val < s.val) ∨
      (e = .invalid "entry price" "exceeds the representable decimal range" ∧
        mantissaBound - 1 < |actual.val - planned.val| * 10 ^ 4)

theorem checkEntryPrice_eq (planned actual maxPips : Decimal) (hp : 0 < planned.val)
    (ha : 0 < actual.val) :
    checkEntryPrice planned actual pipSize maxPips =
      (inRange "entry price" ((actual.sub planned).abs.checkedDiv pipSize) >>= fun s =>
        if maxPips.lt s then .error (.slippageExceeded s maxPips) else .ok ()) := by
  have hprices : requirePositivePrices [planned, actual] = .ok () :=
    requirePositivePrices_eq_ok_of (by simp [hp, ha])
  have hpip : requirePositive "pip size" pipSize = .ok () := by decide +kernel
  simp only [checkEntryPrice, hprices, hpip, bind, Except.bind]

/-- For every two positive prices and every maximum, the entry check with a pip of 0.0001
decides by the fitted distance, as `EntryVerdict` says. -/
theorem checkEntryPrice_verdict (planned actual maxPips : Decimal) (hp : 0 < planned.val)
    (ha : 0 < actual.val) :
    ∃ D, EntryVerdict planned actual maxPips D (checkEntryPrice planned actual pipSize maxPips) := by
  have hfit := (sub_fits_of_pos ha hp).abs
  refine ⟨(actual.sub planned).abs, ?_⟩
  rw [checkEntryPrice_eq _ _ _ hp ha]
  cases hdiv : (actual.sub planned).abs.checkedDiv pipSize with
  | none =>
    have hD0 : 0 ≤ (actual.sub planned).abs.val := by rw [val_abs]; exact abs_nonneg _
    have hbig : (mantissaBound : ℚ) ≤ (actual.sub planned).abs.val * 10 ^ 4 :=
      not_lt.1 fun hlt => by
        obtain ⟨s, hs⟩ := checkedDiv_pow10_isSome (d := (actual.sub planned).abs) (j := 4)
          (by norm_num) (by rwa [abs_of_nonneg hD0])
        exact absurd (hs.symm.trans hdiv) (by simp)
    have hexact : mantissaBound - 1 < |actual.val - planned.val| * 10 ^ 4 :=
      not_le.1 fun hle => by
        obtain ⟨s, hs⟩ := sub_abs_div_pipSize_isSome ha hp hle
        exact absurd (hs.symm.trans hdiv) (by simp)
    have hmax := (abs_le.1 (abs_val_le maxPips)).2
    refine ⟨hfit, ?_, fun e he => .inr ⟨?_, hexact⟩⟩
    · simp only [inRange, bind, Except.bind, reduceCtorEq, false_iff, not_le]
      linarith
    · simp only [inRange, bind, Except.bind, Except.error.injEq] at he
      exact he.symm
  | some s =>
    obtain ⟨hs, -⟩ := checkedDiv_pow10 (by decide) hdiv
    have hcmp : maxPips.lt s = true ↔ maxPips.val < (actual.sub planned).abs.val * 10 ^ 4 := by
      rw [lt_iff_val, hs]
    simp only [inRange, bind, Except.bind]
    split
    · rename_i hlt
      refine ⟨hfit, ?_, fun e he => .inl ⟨s, (Except.error.inj he).symm, hs, lt_iff_val.1 hlt⟩⟩
      simpa using hcmp.1 hlt
    · rename_i hlt
      refine ⟨hfit, ?_, fun e he => by cases he⟩
      simpa using hcmp.not.1 hlt

end Risk

/-- A fill three pips above its plan at 1.1000, under the default maximum of 20 pips. -/
theorem checkEntryPrice_verdict_three_pips :
    0 < (Decimal.ofMantissa 11000 4).val ∧ 0 < (Decimal.ofMantissa 11003 4).val ∧
      ∃ D, Risk.EntryVerdict (Decimal.ofMantissa 11000 4) (Decimal.ofMantissa 11003 4)
        defaultMaxEntrySlippagePips D
        (Risk.checkEntryPrice (Decimal.ofMantissa 11000 4) (Decimal.ofMantissa 11003 4) pipSize
          defaultMaxEntrySlippagePips) :=
  have hp : 0 < (Decimal.ofMantissa 11000 4).val := by
    rw [val_ofMantissa (by decide) (by decide)]
    norm_num
  have ha : 0 < (Decimal.ofMantissa 11003 4).val := by
    rw [val_ofMantissa (by decide) (by decide)]
    norm_num
  ⟨hp, ha, Risk.checkEntryPrice_verdict _ _ _ hp ha⟩

/-- A fill at 8 planned at `6 * 10 ^ -28`: the difference has one digit too many and rounds down
to 7.999999999999999999999999999, which is exactly the maximum of
79999.99999999999999999999999 pips, so the fill passes although its exact distance,
79999.999999999999999999999994 pips, exceeds the maximum. -/
theorem checkEntryPrice_rounded_distance_passes :
    Risk.checkEntryPrice (Decimal.ofMantissa 6 28) (Decimal.ofMantissa 8 0) pipSize
        (Decimal.ofMantissa 7999999999999999999999999999 23) = .ok () ∧
      (Decimal.ofMantissa 7999999999999999999999999999 23).val <
        |(Decimal.ofMantissa 8 0).val - (Decimal.ofMantissa 6 28).val| * 10 ^ 4 := by
  refine ⟨by decide +kernel, ?_⟩
  rw [val_ofMantissa (by decide) (by decide), val_ofMantissa (by decide) (by decide),
    val_ofMantissa (by decide) (by decide)]
  norm_num

end ForexJournal
