import Mathlib
import ForexJournal.Proofs.DecimalQuotient

/-!
# Results that depend on values only

A decimal's scale is part of its representation: `1.10` and `1.1` are different decimals of one
value. A product, though, depends on the values of its factors only. Writing a factor with `δ`
more trailing zeros multiplies the exact mantissa product by `10 ^ δ` and its scale by as many
places, and fitting that product drops the same digits, or only the added zeros
(`fitDigits_shift`), so the product keeps its value (`Decimal.checkedMul_map_val_congr`).

Two exact cases are used with it: a quotient by a power of ten below one, `10 ^ -j`, only moves
the point (`Decimal.checkedDiv_pow10`), and a product whose mantissa fits at a scale of at most
28 drops nothing (`Decimal.checkedMul_exact`).
-/

namespace ForexJournal

/-! ## Fitting the same number with more trailing zeros -/

theorem roundHalfEven_mul_right (n d : Nat) {c : Nat} (hc : 0 < c) :
    roundHalfEven (n * c) (d * c) = roundHalfEven n d := by
  unfold roundHalfEven
  dsimp only
  rw [Nat.mul_div_mul_right _ _ hc, Nat.mul_mod_mul_right]
  have e1 : 2 * (n % d * c) = 2 * (n % d) * c := by rw [Nat.mul_assoc]
  have i1 : d * c < 2 * (n % d) * c ↔ d < 2 * (n % d) := Nat.mul_lt_mul_right hc
  have i2 : 2 * (n % d) * c = d * c ↔ 2 * (n % d) = d := Nat.mul_left_inj (Nat.pos_iff_ne_zero.1 hc)
  simp only [e1, gt_iff_lt, i1, i2]

theorem roundHalfEven_mul_self (x : Nat) {d : Nat} (hd : 0 < d) : roundHalfEven (x * d) d = x := by
  unfold roundHalfEven
  simp [Nat.mul_div_cancel _ hd, Nat.mul_mod_left, hd.ne]

theorem roundHalfEven_shift (M δ k : Nat) :
    roundHalfEven (M * Nat.pow 10 δ) (Nat.pow 10 (δ + k)) = roundHalfEven M (Nat.pow 10 k) := by
  have hpow : Nat.pow 10 (δ + k) = Nat.pow 10 k * Nat.pow 10 δ := by
    simp only [Nat.pow_eq]
    rw [Nat.pow_add, Nat.mul_comm]
  rw [hpow]
  exact roundHalfEven_mul_right _ _ (Nat.pow_pos (by norm_num))

theorem roundHalfEven_shift_le {M δ k : Nat} (hk : k ≤ δ) :
    roundHalfEven (M * Nat.pow 10 δ) (Nat.pow 10 k) = M * Nat.pow 10 (δ - k) := by
  have hsplit : M * Nat.pow 10 δ = M * Nat.pow 10 (δ - k) * Nat.pow 10 k := by
    simp only [Nat.pow_eq]
    rw [Nat.mul_assoc, ← Nat.pow_add, Nat.sub_add_cancel hk]
  rw [hsplit]
  exact roundHalfEven_mul_self _ (Nat.pow_pos (by norm_num))

theorem fitDigits_of_first {m s least k : Nat} (hlk : least ≤ k) (hks : k ≤ s)
    (hfit : roundHalfEven m (Nat.pow 10 k) < mantissaBound)
    (hmin : ∀ j, least ≤ j → j < k → mantissaBound ≤ roundHalfEven m (Nat.pow 10 j)) :
    fitDigits m s least = some (roundHalfEven m (Nat.pow 10 k), s - k) := by
  obtain ⟨k', hk', hf⟩ := fitDigits_isSome hlk hks hfit
  obtain ⟨k'', hlk'', hks'', hfit'', hp, -⟩ := fitDigits_eq_some hf
  simp only [Prod.mk.injEq] at hp
  have hkk : k' = k := by
    by_contra hne
    have := hmin k'' hlk'' (by omega)
    omega
  rw [hf, hkk]

theorem fitDigits_eq_none {m s least : Nat}
    (h : ∀ k, least ≤ k → k ≤ s → mantissaBound ≤ roundHalfEven m (Nat.pow 10 k)) :
    fitDigits m s least = none := by
  cases hf : fitDigits m s least with
  | none => rfl
  | some p =>
    obtain ⟨k, hlk, hks, hfit, -, -⟩ := fitDigits_eq_some hf
    exact absurd (h k hlk hks) (not_le.2 hfit)

def pairValue (p : Nat × Nat) : ℚ := p.1 / 10 ^ p.2

/-- Fitting `M` followed by `δ` zeros at `δ` more places, keeping at most 28, gives the number
fitting `M` gives, or fails with it. If `M` fits whole, some of the zeros may stay; otherwise
the same digits are dropped. -/
theorem fitDigits_shift (M S δ : Nat) :
    (fitDigits (M * Nat.pow 10 δ) (S + δ) (S + δ - maxScale)).map pairValue =
      (fitDigits M S (S - maxScale)).map pairValue := by
  cases hf : fitDigits M S (S - maxScale) with
  | none =>
    have hno : ∀ k, S - maxScale ≤ k → k ≤ S →
        mantissaBound ≤ roundHalfEven M (Nat.pow 10 k) := by
      intro k hlk hks
      by_contra hk
      have := fitDigits_isSome hlk hks (not_le.1 hk)
      obtain ⟨_, _, h⟩ := this
      rw [hf] at h
      cases h
    rw [fitDigits_eq_none fun k hlk hks => ?_]
    rcases Nat.lt_or_ge k δ with hkδ | hkδ
    · rw [roundHalfEven_shift_le hkδ.le]
      have hM : mantissaBound ≤ M := by
        have := hno 0 (by unfold maxScale at hlk ⊢; omega) (Nat.zero_le _)
        rwa [Nat.pow_eq, Nat.pow_zero, roundHalfEven_one] at this
      exact le_trans hM (Nat.le_mul_of_pos_right _ (Nat.pow_pos (by norm_num)))
    · obtain ⟨j, rfl⟩ := Nat.exists_eq_add_of_le hkδ
      rw [roundHalfEven_shift]
      exact hno j (by omega) (by omega)
  | some p =>
    obtain ⟨k, hlk, hks, hfit, rfl, hmin⟩ := fitDigits_eq_some hf
    rcases Nat.eq_zero_or_pos k with rfl | hk
    · have hS : S ≤ maxScale := by omega
      rw [Nat.pow_eq, Nat.pow_zero, roundHalfEven_one] at hfit
      obtain ⟨k', hk'δ, hf'⟩ := @fitDigits_isSome (M * Nat.pow 10 δ) (S + δ)
        (S + δ - maxScale) δ (by omega) (by omega)
        (by rwa [roundHalfEven_shift_le le_rfl, Nat.sub_self, Nat.pow_eq, Nat.pow_zero,
          Nat.mul_one])
      rw [hf', roundHalfEven_shift_le hk'δ]
      simp only [Option.map_some, pairValue, Nat.pow_eq, Nat.pow_zero, roundHalfEven_one,
        Nat.sub_zero, Option.some.injEq]
      have hpow : (10 : ℚ) ^ (S + δ - k') = 10 ^ S * 10 ^ (δ - k') := by
        rw [← pow_add]
        congr 1
        omega
      rw [hpow]
      push_cast
      field_simp
    · rw [fitDigits_of_first (k := δ + k) (by omega) (by omega)
        (by rwa [roundHalfEven_shift]) fun j hj hjk => ?_]
      · rw [roundHalfEven_shift]
        simp [pairValue, show S + δ - (δ + k) = S - k by omega]
      rcases Nat.lt_or_ge j δ with hjδ | hjδ
      · rw [roundHalfEven_shift_le hjδ.le]
        have hM : mantissaBound ≤ M := by
          have := hmin 0 (by unfold maxScale at hj ⊢; omega) hk
          rwa [Nat.pow_eq, Nat.pow_zero, roundHalfEven_one] at this
        exact le_trans hM (Nat.le_mul_of_pos_right _ (Nat.pow_pos (by norm_num)))
      · obtain ⟨i, rfl⟩ := Nat.exists_eq_add_of_le hjδ
        rw [roundHalfEven_shift]
        exact hmin i (by omega) (by omega)

namespace Decimal

variable {a a' b : Decimal}

theorem roundHalfEven_of_two_mul_lt {n d : Nat} (h : 2 * n < d) : roundHalfEven n d = 0 := by
  have hnd : n < d := by omega
  unfold roundHalfEven
  simp only [Nat.div_eq_of_lt hnd, Nat.mod_eq_of_lt hnd]
  split_ifs with hup <;> omega

private theorem signed_div (n : Bool) (m t : ℚ) :
    (if n then -m else m) / t = (if n then -1 else 1) * (m / t) := by
  cases n <;> simp [neg_div]

/-- A product of nonzero factors, as a number: the product of the mantissas fitted at the summed
scale, at least `scale - 28` digits dropped, with the sign of the flags. The shortcut for two
small mantissas past 47 places gives zero, which is what that fitting gives too. -/
theorem checkedMul_map_val (ha : a.isZero = false) (hb : b.isZero = false) :
    (a.checkedMul b).map val = (fitDigits (a.mantissa * b.mantissa) (a.scale + b.scale)
      (a.scale + b.scale - maxScale)).map fun p =>
        (if a.negative != b.negative then -1 else 1) * pairValue p := by
  have hv : (a.signedMantissa * b.signedMantissa).natAbs = a.mantissa * b.mantissa := by
    rw [Int.natAbs_mul, natAbs_signedMantissa, natAbs_signedMantissa]
  have hneg : decide (a.signedMantissa * b.signedMantissa < 0) = (a.negative != b.negative) := by
    rw [Bool.eq_iff_iff, decide_eq_true_iff]
    exact signedMantissa_mul_neg ha hb
  unfold checkedMul
  simp only [ha, hb, Bool.or_false, Bool.false_eq_true, if_false]
  split
  · rename_i hsmall
    split
    · rename_i hs
      have h0 : roundHalfEven (a.mantissa * b.mantissa)
          (Nat.pow 10 (a.scale + b.scale - maxScale)) = 0 := by
        apply roundHalfEven_of_two_mul_lt
        have h20 : Nat.pow 10 20 ≤ Nat.pow 10 (a.scale + b.scale - maxScale) :=
          Nat.pow_le_pow_right (by norm_num) (by unfold maxScale; omega)
        have hprod : a.mantissa * b.mantissa < 4294967296 * 4294967296 :=
          Nat.mul_lt_mul'' hsmall.1 hsmall.2
        have h20' : 2 * (4294967296 * 4294967296) ≤ Nat.pow 10 20 := by decide
        omega
      rw [fitDigits_of_first le_rfl (Nat.sub_le _ _) (by rw [h0]; decide)
        fun j hj hjk => absurd hjk (not_lt.2 hj), h0]
      simp [pairValue]
    · unfold ofSignedExact?
      rw [hv, hneg]
      cases hf : fitDigits (a.mantissa * b.mantissa) (a.scale + b.scale)
          (a.scale + b.scale - maxScale) with
      | none => rfl
      | some p =>
        obtain ⟨k, hlk, -, hfit, rfl, -⟩ := fitDigits_eq_some hf
        obtain ⟨d, hd⟩ := ofParts?_isSome (a.negative != b.negative) hfit
          (s := a.scale + b.scale - k) (by unfold maxScale at *; omega)
        obtain ⟨-, -, hval⟩ := ofParts?_eq_some hd
        simp only [Option.bind_eq_bind, Option.bind_some, hd, Option.map_some, hval, signed_div,
          pairValue]
  · rw [hv]
    cases hf : fitDigits (a.mantissa * b.mantissa) (a.scale + b.scale)
        (a.scale + b.scale - maxScale) with
    | none => rfl
    | some p =>
      obtain ⟨k, hlk, -, hfit, rfl, -⟩ := fitDigits_eq_some hf
      have hraw : ∃ d, ofRawParts? (a.negative != b.negative)
          (roundHalfEven (a.mantissa * b.mantissa) (Nat.pow 10 k)) (a.scale + b.scale - k) =
            some d := by
        simp only [ofRawParts?]
        rw [dif_pos ⟨hfit, by unfold maxScale at *; omega⟩]
        exact ⟨_, rfl⟩
      obtain ⟨d, hd⟩ := hraw
      obtain ⟨hdn, hdm, hds⟩ := ofRawParts?_eq_some hd
      simp only [Option.bind_eq_bind, Option.bind_some, hd, Option.map_some, val_eq, hdn, hdm,
        hds, signed_div, pairValue]

theorem checkedMul_of_isZero_left (ha : a.isZero = true) : a.checkedMul b = some zero := by
  simp [checkedMul, ha]

theorem checkedMul_of_isZero_right (hb : b.isZero = true) : a.checkedMul b = some zero := by
  simp [checkedMul, hb]

theorem isZero_of_val_eq_zero {d : Decimal} (h : d.val = 0) : d.isZero = true := by
  cases hz : d.isZero
  · exact absurd h (val_ne_zero hz)
  · rfl

/-- Two decimals of one nonzero value: the one with more places has the other's digits followed
by zeros, and the same sign. -/
theorem eq_shift_of_val_eq (h : a.val = a'.val) (hs : a.scale ≤ a'.scale) (ha : a.isZero = false) :
    a'.mantissa = a.mantissa * Nat.pow 10 (a'.scale - a.scale) ∧ a'.negative = a.negative := by
  have hint : a.scaledTo a'.scale = a'.scaledTo a'.scale := by
    have h1 := scaledTo_div (d := a) hs
    have h2 := scaledTo_div (d := a') le_rfl
    rw [h, ← h2] at h1
    have h10 : (10 : ℚ) ^ a'.scale ≠ 0 := by positivity
    exact_mod_cast (div_left_inj' h10).1 h1
  have hsm : a'.signedMantissa = a.signedMantissa * (10 : ℤ) ^ (a'.scale - a.scale) := by
    simpa [scaledTo, Int.pow_eq] using hint.symm
  have hm : a.mantissa ≠ 0 := by simpa [isZero] using ha
  refine ⟨?_, ?_⟩
  · have := congrArg Int.natAbs hsm
    have h10 : Int.natAbs 10 = 10 := rfl
    rwa [natAbs_signedMantissa, Int.natAbs_mul, natAbs_signedMantissa, Int.natAbs_pow, h10,
      ← Nat.pow_eq] at this
  · have hp : (0 : ℤ) < a.mantissa * 10 ^ (a'.scale - a.scale) :=
      mul_pos (by exact_mod_cast Nat.pos_of_ne_zero hm) (by positivity)
    have hm' : (0 : ℤ) ≤ a'.mantissa := Int.natCast_nonneg _
    unfold signedMantissa at hsm
    cases hn : a.negative <;> cases hn' : a'.negative <;>
      simp only [hn, hn', if_true, if_false, Bool.false_eq_true, neg_mul] at hsm <;>
      first | rfl | linarith

/-- The value of a product depends on the value of the left factor, not on its scale: both
products fit the same number, or both overflow. -/
theorem checkedMul_map_val_congr (h : a.val = a'.val) (b : Decimal) :
    (a.checkedMul b).map val = (a'.checkedMul b).map val := by
  suffices key : ∀ {a a' : Decimal}, a.val = a'.val → a.scale ≤ a'.scale →
      (a.checkedMul b).map val = (a'.checkedMul b).map val by
    rcases le_total a.scale a'.scale with hs | hs
    · exact key h hs
    · exact (key h.symm hs).symm
  intro a a' h hs
  cases ha : a.isZero
  · cases hb : b.isZero
    · obtain ⟨hm, hn⟩ := eq_shift_of_val_eq h hs ha
      have ha' : a'.isZero = false := by
        simp only [isZero, hm, beq_eq_false_iff_ne, ne_eq, Nat.mul_eq_zero, not_or]
        exact ⟨by simpa [isZero] using ha, (Nat.pow_pos (by norm_num)).ne'⟩
      obtain ⟨δ, hδ⟩ := Nat.exists_eq_add_of_le hs
      rw [checkedMul_map_val ha hb, checkedMul_map_val ha' hb, hm, hn, hδ,
        Nat.add_sub_cancel_left, Nat.mul_right_comm, Nat.add_right_comm]
      have hshift := congrArg (Option.map fun x => (if a.negative != b.negative then -1 else 1) * x)
        (fitDigits_shift (a.mantissa * b.mantissa) (a.scale + b.scale) δ)
      simpa only [Option.map_map, Function.comp_def] using hshift.symm
    · rw [checkedMul_of_isZero_right hb, checkedMul_of_isZero_right hb]
  · have ha' : a'.isZero = true := isZero_of_val_eq_zero (h ▸ val_of_isZero ha)
    rw [checkedMul_of_isZero_left ha, checkedMul_of_isZero_left ha']

/-- Products of optional factors that agree in value, each multiplied by `k`, again agree in
value. -/
theorem bind_checkedMul_map_val {o o' : Option Decimal} (h : o.map val = o'.map val)
    (k : Decimal) : (o.bind (·.checkedMul k)).map val = (o'.bind (·.checkedMul k)).map val := by
  cases o with
  | none =>
    cases o' with
    | none => rfl
    | some _ => cases h
  | some a =>
    cases o' with
    | none => cases h
    | some a' => exact checkedMul_map_val_congr (Option.some.inj h) k

/-- A product whose mantissa fits at a scale of at most 28 is exact. -/
theorem checkedMul_exact (hs : a.scale + b.scale ≤ maxScale)
    (hm : a.mantissa * b.mantissa < mantissaBound) :
    ∃ r, a.checkedMul b = some r ∧ r.val = a.val * b.val := by
  cases ha : a.isZero
  · cases hb : b.isZero
    · have hfit := checkedMul_map_val ha hb
      rw [Nat.sub_eq_zero_of_le hs, fitDigits_of_first (k := 0) le_rfl (Nat.zero_le _)
        (by rwa [Nat.pow_eq, Nat.pow_zero, roundHalfEven_one])
        fun j _ hj => absurd hj (Nat.not_lt_zero j)] at hfit
      obtain ⟨r, hr, hv⟩ := Option.map_eq_some_iff.1 hfit
      refine ⟨r, hr, ?_⟩
      rw [hv, val_eq a, val_eq b]
      simp only [pairValue, Nat.pow_eq, Nat.pow_zero, roundHalfEven_one, Nat.sub_zero,
        Nat.cast_mul, pow_add]
      cases a.negative <;> cases b.negative <;> simp <;> field_simp
    · exact ⟨zero, checkedMul_of_isZero_right hb, by simp [val_of_isZero hb]⟩
  · exact ⟨zero, checkedMul_of_isZero_left ha, by simp [val_of_isZero ha]⟩

/-! ## Quotients by a power of ten -/

/-- Developing a quotient with no remainder brings in places until the scale is no longer
negative; the digits keep the number and the quotient stays exact. -/
theorem develop_exact {b q r : Nat} {scale : ℤ} {ie : Bool} {res : Quotient} (hr : r = 0)
    (h : develop b q r scale ie = some res) :
    (res.mantissa : ℚ) / 10 ^ res.scale = q / 10 ^ scale ∧ res.inexact = ie ∧
      0 ≤ res.scale ∧ res.scale.toNat = scale.toNat := by
  fun_induction develop b q r scale ie generalizing res with
  | case1 q r scale ie result hmove =>
    subst hr
    unfold quotientMove at hmove
    simp only [if_true] at hmove
    split at hmove
    · cases hmove
      cases h
      exact ⟨rfl, rfl, by omega, rfl⟩
    · cases hmove
  | case2 => cases h
  | case3 => cases h
  | case4 q r scale ie p ie' hmove hp q1 hq1 r1 q2 r2 =>
    rename_i hq2
    subst hr
    simp [q2, r1] at hq2
    omega
  | case5 q r scale ie p ie' hmove hp q1 hq1 r1 q2 r2 hq2 =>
    rename_i ih
    subst hr
    obtain ⟨hval, hie, hs0, hsc⟩ := ih (by simp [r2, r1]) h
    unfold quotientMove at hmove
    simp only [if_true] at hmove
    split at hmove
    · cases hmove
    · simp only [QuotientMove.widen.injEq] at hmove
      obtain ⟨hp', rfl⟩ := hmove
      have hple : p ≤ (-scale).toNat := hp' ▸ Nat.min_le_right 9 _
      refine ⟨?_, hie, hs0, by omega⟩
      rw [hval]
      simp only [q2, q1, r1, Nat.zero_mul, Nat.zero_div, Nat.add_zero, Nat.cast_mul, Nat.pow_eq,
        Nat.cast_pow, Nat.cast_ofNat, zpow_add₀ (by norm_num : (10 : ℚ) ≠ 0), zpow_natCast]
      field_simp

theorem ofMantissa_one {j : Nat} (hj : j ≤ maxScale) :
    ofMantissa 1 j = ⟨false, 1, j, by decide, hj⟩ := by
  simp [ofMantissa, hj, mantissaBound]

@[simp] theorem val_ofMantissa {m s : Nat} (hm : m < mantissaBound) (hs : s ≤ maxScale) :
    (ofMantissa m s).val = m / 10 ^ s := by
  simp [ofMantissa, hm, hs, val_eq]

theorem checkedDiv_pow10 {d q : Decimal} {j : Nat} (hj : j ≤ maxScale)
    (h : d.checkedDiv (ofMantissa 1 j) = some q) :
    q.val = d.val * 10 ^ j ∧ q.scale ≤ d.scale - j := by
  rw [ofMantissa_one hj] at h
  unfold checkedDiv at h
  simp only [isZero, Nat.one_ne_zero, beq_iff_eq, if_false, Nat.div_one, Nat.mod_one] at h
  split at h
  · rename_i hz
    cases h
    exact ⟨by simp [val_of_isZero (by simpa [isZero] using hz)], Nat.zero_le _⟩
  split at h
  · cases h
  rename_i m s ie hres
  obtain ⟨hval, hie, hs0, hsc⟩ := develop_exact rfl hres
  dsimp only at hval hie hs0 hsc
  subst hie
  simp only [Bool.false_eq_true, if_false] at h
  obtain ⟨-, hqs, hqv⟩ := ofParts?_eq_some h
  have hpow : (10 : ℚ) ^ s.toNat = 10 ^ s := by
    rw [← zpow_natCast, Int.toNat_of_nonneg hs0]
  refine ⟨?_, by omega⟩
  rw [hqv, hpow, Bool.bne_false]
  have hd : (m : ℚ) = d.mantissa / 10 ^ ((d.scale : ℤ) - j) * 10 ^ s := by
    rw [← hval]
    field_simp
  rw [val_eq, hd, zpow_sub₀ (by norm_num), zpow_natCast, zpow_natCast]
  cases d.negative <;> simp <;> field_simp

end Decimal

end ForexJournal
