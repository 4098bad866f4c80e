import Mathlib
import ForexJournal.Decimal.Arith

/-!
# How far a computed decimal lies from the exact result

A decimal stands for the rational `± mantissa / 10 ^ scale` (`Decimal.val`). Sums, differences
and products are computed exactly and then fitted into 96 bits: the fewest trailing digits are
dropped and the last kept one is rounded half to even. This module measures that fitting.

* A fitted result lies within half a unit of its own last place of the exact value and keeps
  the exact value's sign (`Decimal.Fits`).
* A sum or difference is exact unless the exact value has 28 digits at the result's scale, and
  it never overflows while the exact value is at most the greatest decimal
  (`Decimal.addSub_fits`, `Decimal.addSub_isSome`).
* A product by a factor of at most one is rounded to a grid at least as fine as that of the other
  factor, and never overflows (`Decimal.checkedMul_scales`).
-/

namespace ForexJournal

/-! ## Rounding a quotient half to even -/

section RoundHalfEven

variable {n d q : Nat}

theorem roundHalfEven_le_of_le (h : n ≤ q * d) : roundHalfEven n d ≤ q := by
  rcases Nat.eq_zero_or_pos d with rfl | hd
  · simp only [mul_zero, Nat.le_zero] at h
    subst h
    simp [roundHalfEven]
  have hmod := Nat.div_add_mod n d
  unfold roundHalfEven
  dsimp only
  split_ifs with hup
  · have hr : 0 < n % d := by omega
    have hlt : n / d < q := by
      by_contra hq
      push Not at hq
      nlinarith
    omega
  · exact Nat.div_le_of_le_mul (by linarith)

theorem roundHalfEven_near (hd : 0 < d) :
    2 * n ≤ (2 * roundHalfEven n d + 1) * d ∧ 2 * roundHalfEven n d * d ≤ 2 * n + d := by
  have hmod := Nat.div_add_mod n d
  have hlt := Nat.mod_lt n hd
  unfold roundHalfEven
  dsimp only
  split_ifs with hup
  · have hup' : d ≤ 2 * (n % d) := by omega
    constructor <;> nlinarith
  · have hup' : 2 * (n % d) ≤ d := by omega
    have hle := Nat.div_mul_le_self n d
    constructor <;> nlinarith

theorem roundHalfEven_sub_le (hd : 0 < d) :
    |(roundHalfEven n d : ℚ) - n / d| ≤ 1 / 2 := by
  obtain ⟨h1, h2⟩ := roundHalfEven_near (n := n) hd
  have hd' : (0 : ℚ) < d := by exact_mod_cast hd
  have h1' : (2 * n : ℚ) ≤ (2 * roundHalfEven n d + 1) * d := by exact_mod_cast h1
  have h2' : (2 * roundHalfEven n d * d : ℚ) ≤ 2 * n + d := by exact_mod_cast h2
  rw [abs_le]
  constructor
  · have : (n : ℚ) / d ≤ roundHalfEven n d + 1 / 2 := by rw [div_le_iff₀ hd']; linarith
    linarith
  · have : (roundHalfEven n d : ℚ) - 1 / 2 ≤ n / d := by rw [le_div_iff₀ hd']; linarith
    linarith

end RoundHalfEven

/-! ## Fitting a mantissa -/

private theorem findSome?_first {α : Type} {f : Nat → Option α} {l : List Nat} {b : α}
    (hl : l.Pairwise (· < ·)) (h : l.findSome? f = some b) :
    ∃ a ∈ l, f a = some b ∧ ∀ x ∈ l, x < a → f x = none := by
  induction l with
  | nil => simp at h
  | cons y l ih =>
    rw [List.pairwise_cons] at hl
    cases hy : f y with
    | some c =>
      simp only [List.findSome?_cons, hy, Option.some.injEq] at h
      subst h
      refine ⟨y, List.mem_cons_self, hy, fun x hx hxy => ?_⟩
      rcases List.mem_cons.1 hx with rfl | hx
      · exact absurd hxy (lt_irrefl _)
      · exact absurd (hl.1 x hx) (not_lt.2 hxy.le)
    | none =>
      simp only [List.findSome?_cons, hy] at h
      obtain ⟨a, ha, hfa, hmin⟩ := ih hl.2 h
      refine ⟨a, List.mem_cons_of_mem _ ha, hfa, fun x hx hxa => ?_⟩
      rcases List.mem_cons.1 hx with rfl | hx
      · exact hy
      · exact hmin x hx hxa

/-- What fitting chose: the number `k` of dropped digits, the first one at which the rounded
mantissa fits. -/
theorem fitDigits_eq_some {m s least : Nat} {p : Nat × Nat} (h : fitDigits m s least = some p) :
    ∃ k, least ≤ k ∧ k ≤ s ∧ roundHalfEven m (Nat.pow 10 k) < mantissaBound ∧
      p = (roundHalfEven m (Nat.pow 10 k), s - k) ∧
      ∀ j, least ≤ j → j < k → mantissaBound ≤ roundHalfEven m (Nat.pow 10 j) := by
  unfold fitDigits at h
  obtain ⟨k, hk, hf, hmin⟩ :=
    findSome?_first ((List.pairwise_lt_range (n := s + 1)).filter _) h
  simp only [List.mem_filter, List.mem_range, decide_eq_true_eq] at hk
  dsimp only at hf
  split at hf
  · rename_i hfit
    refine ⟨k, hk.2, by omega, hfit, (Option.some.inj hf).symm, fun j hj hjk => ?_⟩
    have hnone := hmin j (by simp only [List.mem_filter, List.mem_range, decide_eq_true_eq]; omega)
      hjk
    simp only [ite_eq_right_iff, reduceCtorEq, imp_false, not_lt] at hnone
    exact hnone
  · cases hf

theorem fitDigits_isSome {m s least j : Nat} (hl : least ≤ j) (hj : j ≤ s)
    (hfit : roundHalfEven m (Nat.pow 10 j) < mantissaBound) :
    ∃ k, k ≤ j ∧ fitDigits m s least = some (roundHalfEven m (Nat.pow 10 k), s - k) := by
  cases h : fitDigits m s least with
  | none =>
    unfold fitDigits at h
    rw [List.findSome?_eq_none_iff] at h
    have := h j (by simp only [List.mem_filter, List.mem_range, decide_eq_true_eq]; omega)
    simp only [ite_eq_right_iff, reduceCtorEq, imp_false, not_lt] at this
    omega
  | some p =>
    obtain ⟨k, hlk, -, -, rfl, hmin⟩ := fitDigits_eq_some h
    refine ⟨k, ?_, rfl⟩
    by_contra hjk
    have := hmin j hl (by omega)
    omega

/-! ## The value of a decimal -/

namespace Decimal

def val (d : Decimal) : ℚ := d.signedMantissa / 10 ^ d.scale

theorem val_eq (d : Decimal) :
    d.val = (if d.negative then -(d.mantissa : ℚ) else d.mantissa) / 10 ^ d.scale := by
  unfold val signedMantissa
  split <;> simp

theorem abs_val (d : Decimal) : |d.val| = d.mantissa / 10 ^ d.scale := by
  rw [val_eq, abs_div, abs_of_pos (by positivity : (0 : ℚ) < 10 ^ d.scale)]
  split <;> simp

theorem abs_val_le (d : Decimal) : |d.val| ≤ mantissaBound - 1 := by
  have hm : (d.mantissa : ℚ) + 1 ≤ mantissaBound := by exact_mod_cast d.mantissa_lt
  rw [abs_val]
  calc (d.mantissa : ℚ) / 10 ^ d.scale ≤ d.mantissa :=
        div_le_self (Nat.cast_nonneg _) (one_le_pow₀ (by norm_num))
    _ ≤ mantissaBound - 1 := by linarith

theorem val_nonneg {d : Decimal} (h : d.negative = false) : 0 ≤ d.val := by
  rw [val_eq, h]
  simp only [Bool.false_eq_true, ↓reduceIte]
  positivity

theorem val_of_isZero {d : Decimal} (h : d.isZero = true) : d.val = 0 := by
  have hm : d.mantissa = 0 := by simpa [isZero] using h
  simp [val_eq, hm]

theorem val_ne_zero {d : Decimal} (h : d.isZero = false) : d.val ≠ 0 := by
  have hm : d.mantissa ≠ 0 := by simpa [isZero] using h
  rw [val_eq]
  split <;> simp [hm]

@[simp] theorem val_zero : zero.val = 0 := by simp [val_eq, zero]

@[simp] theorem val_neg (d : Decimal) : d.neg.val = -d.val := by
  rw [val_eq, val_eq]
  cases h : d.negative <;> simp [neg, h, neg_div]

@[simp] theorem val_abs (d : Decimal) : d.abs.val = |d.val| := by
  rw [val_eq, abs_val]
  simp [abs]

theorem val_ofSmallNat {n : Nat} (h : n < mantissaBound) : (ofSmallNat n).val = n := by
  simp [ofSmallNat, h, val_eq]

theorem scaledTo_div {d : Decimal} {t : Nat} (h : d.scale ≤ t) :
    (d.scaledTo t : ℚ) / 10 ^ t = d.val := by
  obtain ⟨e, rfl⟩ := Nat.exists_eq_add_of_le h
  have h10 : (0 : ℚ) < 10 ^ d.scale := by positivity
  have h10' : (0 : ℚ) < 10 ^ e := by positivity
  simp only [scaledTo, Nat.add_sub_cancel_left, val, Int.cast_mul, pow_add]
  push_cast [Int.pow_eq]
  field_simp

theorem compare_eq_val {a b : Decimal} :
    a.compare b = Ord.compare a.val b.val := by
  have ha := scaledTo_div (d := a) (Nat.le_max_left a.scale b.scale)
  have hb := scaledTo_div (d := b) (Nat.le_max_right a.scale b.scale)
  have h10 : (0 : ℚ) < 10 ^ Nat.max a.scale b.scale := by positivity
  simp only [compare]
  rw [← ha, ← hb]
  rcases lt_trichotomy (a.scaledTo (Nat.max a.scale b.scale)) (b.scaledTo (Nat.max a.scale b.scale))
    with hlt | heq | hgt
  · have : (a.scaledTo (Nat.max a.scale b.scale) : ℚ) < b.scaledTo (Nat.max a.scale b.scale) := by
      exact_mod_cast hlt
    rw [compare_lt_iff_lt.2 hlt, compare_lt_iff_lt.2 (div_lt_div_of_pos_right this h10)]
  · rw [heq, compare_eq_iff_eq.2 rfl, compare_eq_iff_eq.2 rfl]
  · have : (b.scaledTo (Nat.max a.scale b.scale) : ℚ) < a.scaledTo (Nat.max a.scale b.scale) := by
      exact_mod_cast hgt
    rw [compare_gt_iff_gt.2 hgt, compare_gt_iff_gt.2 (div_lt_div_of_pos_right this h10)]

theorem lt_iff_val {a b : Decimal} : a.lt b = true ↔ a.val < b.val := by
  simp [lt, compare_eq_val, compare_lt_iff_lt]

theorem le_iff_val {a b : Decimal} : a.le b = true ↔ a.val ≤ b.val := by
  simp [le, compare_eq_val, compare_gt_iff_gt]

theorem isNonPositive_eq_false {d : Decimal} : d.isNonPositive = false ↔ 0 < d.val := by
  rw [val_eq]
  cases hn : d.negative <;> simp [isNonPositive, isPositive, hn, Nat.pos_iff_ne_zero]

theorem ofParts?_eq_some {neg : Bool} {m s : Nat} {d : Decimal} (h : ofParts? neg m s = some d) :
    d.mantissa = m ∧ d.scale = s ∧ d.val = (if neg then -(m : ℚ) else m) / 10 ^ s := by
  unfold ofParts? ofRawParts? at h
  split at h
  · cases h
    refine ⟨rfl, rfl, ?_⟩
    rw [val_eq]
    cases neg <;> by_cases hm : m = 0 <;> simp [hm]
  · cases h

theorem ofParts?_isSome (neg : Bool) {m s : Nat} (hm : m < mantissaBound) (hs : s ≤ maxScale) :
    ∃ d, ofParts? neg m s = some d := by
  simp [ofParts?, ofRawParts?, hm, hs]

end Decimal

/-! ## Fitting an exact value -/

/-- `v / 10 ^ s` with its last `k` digits rounded away half to even. -/
def roundedAt (v : ℤ) (s k : Nat) : ℚ :=
  (if v < 0 then -(roundHalfEven v.natAbs (Nat.pow 10 k) : ℚ)
    else roundHalfEven v.natAbs (Nat.pow 10 k)) / 10 ^ (s - k)

section RoundedAt

variable {v : ℤ} {s k : Nat}

private theorem natAbs_cast (v : ℤ) : (v : ℚ) = if v < 0 then -(v.natAbs : ℚ) else v.natAbs := by
  split
  · rw [Nat.cast_natAbs, Int.cast_abs, abs_of_neg (by exact_mod_cast ‹v < 0›), neg_neg]
  · rw [Nat.cast_natAbs, Int.cast_abs, abs_of_nonneg (by exact_mod_cast not_lt.1 ‹¬v < 0›)]

theorem roundedAt_near (hk : k ≤ s) :
    |roundedAt v s k - v / 10 ^ s| ≤ 1 / (2 * 10 ^ (s - k)) := by
  have hR := roundHalfEven_sub_le (n := v.natAbs) (d := Nat.pow 10 k) (Nat.pow_pos (by norm_num))
  have hcast : ((Nat.pow 10 k : ℕ) : ℚ) = 10 ^ k := by rw [Nat.pow_eq]; push_cast; rfl
  rw [hcast] at hR
  unfold roundedAt
  generalize roundHalfEven v.natAbs (Nat.pow 10 k) = R at hR ⊢
  have hpow : (10 : ℚ) ^ s = 10 ^ k * 10 ^ (s - k) := by rw [← pow_add, Nat.add_sub_cancel' hk]
  have hsize : |(R : ℚ) / 10 ^ (s - k) - v.natAbs / 10 ^ s| ≤ 1 / (2 * 10 ^ (s - k)) := by
    have he : (R : ℚ) / 10 ^ (s - k) - v.natAbs / 10 ^ s =
        (R - v.natAbs / 10 ^ k) / 10 ^ (s - k) := by
      rw [hpow]
      field_simp
    rw [he, abs_div, abs_of_pos (by positivity : (0 : ℚ) < 10 ^ (s - k))]
    calc _ ≤ (1 / 2) / (10 : ℚ) ^ (s - k) := div_le_div_of_nonneg_right hR (by positivity)
      _ = _ := by ring
  rw [natAbs_cast v]
  split
  · have he : -(R : ℚ) / 10 ^ (s - k) - -(v.natAbs : ℚ) / 10 ^ s =
        -((R : ℚ) / 10 ^ (s - k) - v.natAbs / 10 ^ s) := by ring
    rw [he, abs_neg]
    exact hsize
  · exact hsize

theorem roundedAt_nonneg (hv : 0 ≤ v) : 0 ≤ roundedAt v s k := by
  unfold roundedAt
  rw [if_neg (not_lt.2 hv)]
  positivity

theorem roundedAt_nonpos (hv : v ≤ 0) : roundedAt v s k ≤ 0 := by
  unfold roundedAt
  split
  · have : (0 : ℚ) ≤ roundHalfEven v.natAbs (Nat.pow 10 k) := Nat.cast_nonneg _
    exact div_nonpos_of_nonpos_of_nonneg (by linarith) (by positivity)
  · have hv0 : v = 0 := by omega
    subst hv0
    have : roundHalfEven 0 (10 ^ k) = 0 := Nat.le_zero.1 (roundHalfEven_le_of_le (by simp))
    simp [this]

theorem roundedAt_zero : roundedAt v s 0 = v / 10 ^ s := by
  unfold roundedAt
  rw [natAbs_cast v]
  simp [roundHalfEven_one]

/-- Digits are dropped only from a value that would not fit with one digit fewer dropped, so
such a value has 28 digits at the kept scale. -/
theorem roundedAt_wide (hk : 1 ≤ k) (hks : k ≤ s)
    (hwide : mantissaBound ≤ roundHalfEven v.natAbs (Nat.pow 10 (k - 1))) :
    (10 : ℚ) ^ 27 / 10 ^ (s - k) ≤ |(v : ℚ) / 10 ^ s| := by
  have hP : 0 < Nat.pow 10 (k - 1) := Nat.pow_pos (by norm_num)
  obtain ⟨-, h2⟩ := roundHalfEven_near (n := v.natAbs) hP
  have hB : 2 * mantissaBound * Nat.pow 10 (k - 1) ≤ 2 * v.natAbs + Nat.pow 10 (k - 1) := by
    nlinarith
  have hB' : (2 * mantissaBound * 10 ^ (k - 1) : ℚ) ≤ 2 * v.natAbs + 10 ^ (k - 1) := by
    rw [Nat.pow_eq] at hB
    exact_mod_cast hB
  have hpow : (10 : ℚ) ^ s = 10 ^ (k - 1) * 10 * 10 ^ (s - k) := by
    rw [← pow_succ, ← pow_add]
    congr 1
    omega
  have hMB : (2 * 10 ^ 28 + 1 : ℚ) ≤ 2 * mantissaBound := by norm_num [mantissaBound]
  rw [abs_div, abs_of_pos (by positivity : (0 : ℚ) < 10 ^ s), div_le_div_iff₀ (by positivity)
    (by positivity), hpow, ← Int.cast_abs, ← Nat.cast_natAbs]
  have h10' : (0 : ℚ) < 10 ^ (s - k) := by positivity
  have hv : (10 : ℚ) ^ 28 * 10 ^ (k - 1) ≤ v.natAbs := by nlinarith
  nlinarith [mul_le_mul_of_nonneg_right hv h10'.le]

end RoundedAt

namespace Decimal

/-- What fitting a signed exact value chose: the number `k` of dropped digits, the first at
which the mantissa fits. -/
theorem ofSignedExact?_eq_some {v : ℤ} {s least : Nat} {r : Decimal}
    (h : ofSignedExact? v s least = some r) :
    ∃ k, least ≤ k ∧ k ≤ s ∧ r.scale = s - k ∧ r.val = roundedAt v s k ∧
      ∀ j, least ≤ j → j < k → mantissaBound ≤ roundHalfEven v.natAbs (Nat.pow 10 j) := by
  unfold ofSignedExact? at h
  cases hf : fitDigits v.natAbs s least with
  | none => simp [hf] at h
  | some p =>
    obtain ⟨m, s'⟩ := p
    simp only [hf, Option.bind_eq_bind, Option.bind_some] at h
    obtain ⟨k, hlk, hks, -, hp, hmin⟩ := fitDigits_eq_some hf
    simp only [Prod.mk.injEq] at hp
    obtain ⟨rfl, rfl⟩ := hp
    obtain ⟨-, hscale, hval⟩ := ofParts?_eq_some h
    refine ⟨k, hlk, hks, hscale, ?_, hmin⟩
    rw [hval, roundedAt]
    simp

/-- A signed exact value fits once dropping all its fraction digits leaves a mantissa that
fits, provided at least `s - 28` digits are dropped. -/
theorem ofSignedExact?_isSome {v : ℤ} {s least : Nat} (hl : least ≤ s) (hs : s ≤ maxScale + least)
    (hv : v.natAbs ≤ (mantissaBound - 1) * Nat.pow 10 s) :
    ∃ r, ofSignedExact? v s least = some r := by
  have hfit : roundHalfEven v.natAbs (Nat.pow 10 s) < mantissaBound :=
    lt_of_le_of_lt (roundHalfEven_le_of_le hv) (by decide)
  obtain ⟨k, hks, hf⟩ := fitDigits_isSome hl le_rfl hfit
  obtain ⟨k', hlk, -, hm, hp, -⟩ := fitDigits_eq_some hf
  simp only [Prod.mk.injEq] at hp
  obtain ⟨hm', hs'⟩ := hp
  obtain ⟨d, hd⟩ := ofParts?_isSome (decide (v < 0)) (m := roundHalfEven v.natAbs (Nat.pow 10 k))
    (s := s - k) (hm' ▸ hm) (by omega)
  refine ⟨d, ?_⟩
  unfold ofSignedExact?
  rw [hf]
  exact hd

/-! ## Sums and differences -/

/-- `r` is the exact value `x` fitted into a decimal: within half a unit of `r`'s last place,
with `x`'s sign, and equal to `x` unless `x` has 28 digits at `r`'s scale. -/
structure Fits (x : ℚ) (r : Decimal) : Prop where
  near : |r.val - x| ≤ 1 / (2 * 10 ^ r.scale)
  exact_or_wide : r.val = x ∨ 10 ^ 27 / 10 ^ r.scale ≤ |x|
  nonneg : 0 ≤ x → 0 ≤ r.val
  nonpos : x ≤ 0 → r.val ≤ 0

theorem Fits.of_val_eq {x : ℚ} {r : Decimal} (h : r.val = x) : Fits x r where
  near := by rw [h, sub_self, abs_zero]; positivity
  exact_or_wide := .inl h
  nonneg hx := h ▸ hx
  nonpos hx := h ▸ hx

theorem ofSignedExact?_fits {v : ℤ} {s : Nat} {r : Decimal} (h : ofSignedExact? v s 0 = some r) :
    Fits (v / 10 ^ s) r := by
  obtain ⟨k, -, hks, hscale, hval, hmin⟩ := ofSignedExact?_eq_some h
  have h10 : (0 : ℚ) < 10 ^ s := by positivity
  refine ⟨?_, ?_, fun hx => ?_, fun hx => ?_⟩
  · rw [hval, hscale]
    exact roundedAt_near hks
  · rcases Nat.eq_zero_or_pos k with rfl | hk
    · exact .inl (hval.trans roundedAt_zero)
    · right
      rw [hscale]
      exact roundedAt_wide hk hks (hmin (k - 1) (Nat.zero_le _) (by omega))
  · have hv : (0 : ℚ) ≤ v := by simpa using (le_div_iff₀ h10).1 hx
    rw [hval]
    exact roundedAt_nonneg (by exact_mod_cast hv)
  · have hv : (v : ℚ) ≤ 0 := by simpa using (div_le_iff₀ h10).1 hx
    rw [hval]
    exact roundedAt_nonpos (by exact_mod_cast hv)

theorem exactSum_value (a b : Decimal) (subtract : Bool) :
    ((a.scaledTo (Nat.max a.scale b.scale) +
        (if subtract then -b.scaledTo (Nat.max a.scale b.scale)
          else b.scaledTo (Nat.max a.scale b.scale)) : ℤ) : ℚ) / 10 ^ (Nat.max a.scale b.scale) =
      a.val + if subtract then -b.val else b.val := by
  have ha := scaledTo_div (d := a) (Nat.le_max_left a.scale b.scale)
  have hb := scaledTo_div (d := b) (Nat.le_max_right a.scale b.scale)
  rw [Int.cast_add, add_div, ha]
  split <;> simp [neg_div, hb]

theorem addSub_fits {a b r : Decimal} {subtract : Bool} (h : addSub a b subtract = some r) :
    Fits (a.val + if subtract then -b.val else b.val) r := by
  unfold addSub at h
  split at h
  · rename_i ha
    rw [val_of_isZero ha, zero_add]
    split at h
    · rename_i hs
      simp only [Bool.and_eq_true, Bool.not_eq_eq_eq_not, Bool.not_true] at hs
      cases h
      rw [hs.1]
      exact Fits.of_val_eq (by simp)
    · rename_i hs
      cases h
      apply Fits.of_val_eq
      cases subtract
      · rfl
      · simp only [Bool.true_and, Bool.not_eq_eq_eq_not] at hs
        simp [val_of_isZero (by simpa using hs)]
  · split at h
    · rename_i hb
      cases h
      apply Fits.of_val_eq
      split <;> simp [val_of_isZero hb]
    · unfold exactSum at h
      rw [← exactSum_value]
      exact ofSignedExact?_fits h

/-- A sum or difference whose exact value is at most the greatest decimal never overflows. -/
theorem addSub_isSome (a b : Decimal) (subtract : Bool)
    (h : |a.val + if subtract then -b.val else b.val| ≤ mantissaBound - 1) :
    ∃ r, addSub a b subtract = some r := by
  unfold addSub
  split
  · split
    · exact ⟨_, rfl⟩
    · exact ⟨_, rfl⟩
  · split
    · exact ⟨_, rfl⟩
    · unfold exactSum
      have hs : Nat.max a.scale b.scale ≤ maxScale := by
        have := a.scale_le
        have := b.scale_le
        simp only [Nat.max_def]
        split <;> omega
      apply ofSignedExact?_isSome (Nat.zero_le _) (by simpa using hs)
      have h10 : (0 : ℚ) < 10 ^ Nat.max a.scale b.scale := by positivity
      rw [← exactSum_value, abs_div, abs_of_pos h10, div_le_iff₀ h10] at h
      have hB : ((mantissaBound - 1 : ℕ) : ℚ) = mantissaBound - 1 := by
        rw [Nat.cast_sub (by decide), Nat.cast_one]
      rw [← Nat.cast_le (α := ℚ), Nat.cast_mul, hB, Nat.pow_eq, Nat.cast_pow, Nat.cast_natAbs,
        Int.cast_abs]
      simpa using h

theorem tryAdd_eq_ok {a b r : Decimal} : a.tryAdd b = .ok r ↔ checkedAdd a b = some r := by
  unfold tryAdd
  split <;> simp_all

theorem trySub_eq_ok {a b r : Decimal} : a.trySub b = .ok r ↔ checkedSub a b = some r := by
  unfold trySub
  split <;> simp_all

theorem val_of_checkedSub_isZero {a b r : Decimal} (hb : b.isZero = true)
    (h : checkedSub a b = some r) : r.val = a.val - b.val := by
  unfold checkedSub addSub at h
  rw [val_of_isZero hb, sub_zero]
  split at h
  · rename_i ha
    simp only [hb, Bool.not_true, Bool.and_false, Bool.false_eq_true, ↓reduceIte,
      Option.some.injEq] at h
    rw [← h, val_of_isZero hb, val_of_isZero ha]
  · simp only [Option.some.injEq] at h
    rw [h]

theorem tryAdd_fits {a b : Decimal} (h : |a.val + b.val| ≤ mantissaBound - 1) :
    ∃ r, a.tryAdd b = .ok r ∧ Fits (a.val + b.val) r := by
  obtain ⟨r, hr⟩ := addSub_isSome a b false (by simpa using h)
  exact ⟨r, tryAdd_eq_ok.2 hr, by simpa using addSub_fits hr⟩

theorem trySub_fits {a b : Decimal} (h : |a.val - b.val| ≤ mantissaBound - 1) :
    ∃ r, a.trySub b = .ok r ∧ Fits (a.val - b.val) r := by
  obtain ⟨r, hr⟩ := addSub_isSome a b true (by simpa [sub_eq_add_neg] using h)
  exact ⟨r, trySub_eq_ok.2 hr, by simpa [sub_eq_add_neg] using addSub_fits hr⟩

theorem tryMul_eq_ok {a b r : Decimal} : a.tryMul b = .ok r ↔ checkedMul a b = some r := by
  unfold tryMul
  split <;> simp_all

theorem tryDiv_eq_ok {a b r : Decimal} : a.tryDiv b = .ok r ↔ checkedDiv a b = some r := by
  unfold tryDiv
  split
  · simp_all [checkedDiv]
  · split <;> simp_all

/-! ## Products by a factor of at most one -/

/-- `r` is `κ * d` rounded to a grid at least as fine as `d`'s: it lies on that grid, within half
a unit of it from the exact product. -/
def Scales (κ : ℚ) (d r : Decimal) : Prop :=
  ∃ g : Nat, d.scale ≤ g ∧ (∃ z : ℤ, r.val = z / 10 ^ g) ∧ |r.val - κ * d.val| ≤ 1 / (2 * 10 ^ g)

theorem roundedAt_eq_int (v : ℤ) (s k : Nat) : ∃ z : ℤ, roundedAt v s k = z / 10 ^ (s - k) := by
  unfold roundedAt
  split
  · exact ⟨-(roundHalfEven v.natAbs (Nat.pow 10 k) : ℤ), by push_cast; ring⟩
  · exact ⟨roundHalfEven v.natAbs (Nat.pow 10 k), by push_cast; ring⟩

@[simp] theorem natAbs_signedMantissa (d : Decimal) : d.signedMantissa.natAbs = d.mantissa := by
  unfold signedMantissa
  split <;> simp

theorem ofRawParts?_eq_some {neg : Bool} {m s : Nat} {d : Decimal}
    (h : ofRawParts? neg m s = some d) : d.negative = neg ∧ d.mantissa = m ∧ d.scale = s := by
  unfold ofRawParts? at h
  split at h
  · cases h
    exact ⟨rfl, rfl, rfl⟩
  · cases h

theorem mul_value (d k : Decimal) :
    ((d.signedMantissa * k.signedMantissa : ℤ) : ℚ) / 10 ^ (d.scale + k.scale) = k.val * d.val := by
  simp only [val, Int.cast_mul, pow_add]
  field_simp

theorem signedMantissa_mul_neg {d k : Decimal} (hd : d.isZero = false) (hk : k.isZero = false) :
    d.signedMantissa * k.signedMantissa < 0 ↔ (d.negative != k.negative) = true := by
  have hdm : 0 < d.mantissa := Nat.pos_of_ne_zero (by simpa [isZero] using hd)
  have hkm : 0 < k.mantissa := Nat.pos_of_ne_zero (by simpa [isZero] using hk)
  have hdm' : (0 : ℤ) < d.mantissa := by exact_mod_cast hdm
  have hkm' : (0 : ℤ) < k.mantissa := by exact_mod_cast hkm
  unfold signedMantissa
  cases d.negative <;> cases k.negative <;> simp <;> nlinarith

/-- A mantissa product rounded after dropping at most `k.scale` digits is `k * d` on a grid at
least as fine as `d`'s. -/
private theorem scales_of_roundedAt {d k r : Decimal} {j : Nat} (hj : j ≤ k.scale)
    (hval : r.val = roundedAt (d.signedMantissa * k.signedMantissa) (d.scale + k.scale) j) :
    Scales k.val d r := by
  refine ⟨d.scale + k.scale - j, by omega, ?_, ?_⟩
  · rw [hval]
    exact roundedAt_eq_int _ _ _
  · rw [hval, ← mul_value]
    exact roundedAt_near (by omega)

private theorem mul_fits_at {d k : Decimal} (hk : k.mantissa ≤ Nat.pow 10 k.scale) :
    roundHalfEven (d.signedMantissa * k.signedMantissa).natAbs (Nat.pow 10 k.scale) <
      mantissaBound := by
  refine lt_of_le_of_lt (roundHalfEven_le_of_le ?_) d.mantissa_lt
  rw [Int.natAbs_mul, natAbs_signedMantissa, natAbs_signedMantissa]
  exact Nat.mul_le_mul_left _ hk

theorem mantissa_le_of_abs_val_le {k : Decimal} (hk : |k.val| ≤ 1) :
    k.mantissa ≤ Nat.pow 10 k.scale := by
  rw [abs_val, div_le_one (by positivity)] at hk
  rw [Nat.pow_eq]
  exact_mod_cast hk

/-- A product by a factor of size at most one never overflows, and is rounded to a grid at least
as fine as that of the other factor. -/
theorem checkedMul_scales (d : Decimal) {k : Decimal} (hk : |k.val| ≤ 1) :
    ∃ r, checkedMul d k = some r ∧ Scales k.val d r := by
  have hkm := mantissa_le_of_abs_val_le hk
  have hds : d.scale ≤ 28 := d.scale_le
  have hks : k.scale ≤ 28 := k.scale_le
  unfold checkedMul
  split
  · rename_i hz
    refine ⟨zero, rfl, d.scale, le_rfl, ⟨0, by simp⟩, ?_⟩
    rcases Bool.or_eq_true_iff.1 hz with hz | hz <;> simp [val_of_isZero hz]
  rename_i hz
  simp only [Bool.or_eq_true, not_or, Bool.not_eq_true] at hz
  dsimp only
  split
  · rename_i hsmall
    split
    · rename_i hs
      refine ⟨zero, rfl, d.scale, le_rfl, ⟨0, by simp⟩, ?_⟩
      have hprod : 2 * (k.mantissa * d.mantissa) < Nat.pow 10 k.scale := by
        have h20 : Nat.pow 10 20 ≤ Nat.pow 10 k.scale :=
          Nat.pow_le_pow_right (by norm_num) (by omega)
        have : k.mantissa * d.mantissa < 4294967296 * 4294967296 :=
          Nat.mul_lt_mul'' hsmall.2 hsmall.1
        have h20' : 2 * (4294967296 * 4294967296) ≤ Nat.pow 10 20 := by decide
        omega
      have hprod' : (2 * (k.mantissa * d.mantissa) : ℚ) ≤ 10 ^ k.scale := by
        rw [Nat.pow_eq] at hprod
        exact_mod_cast hprod.le
      rw [val_zero, zero_sub, abs_neg, abs_mul, abs_val, abs_val, div_mul_div_comm,
        div_le_div_iff₀ (by positivity) (by positivity)]
      nlinarith [(by positivity : (0 : ℚ) < 10 ^ d.scale)]
    · obtain ⟨r, hr⟩ := @ofSignedExact?_isSome (d.signedMantissa * k.signedMantissa)
        (d.scale + k.scale) (d.scale + k.scale - maxScale) (Nat.sub_le _ _)
        (by unfold maxScale; omega) (by
          rw [Int.natAbs_mul, natAbs_signedMantissa, natAbs_signedMantissa]
          exact Nat.mul_le_mul (Nat.le_sub_one_of_lt d.mantissa_lt)
            (hkm.trans (Nat.pow_le_pow_right (by norm_num) (by omega))))
      obtain ⟨j, -, -, -, hval, hmin⟩ := ofSignedExact?_eq_some hr
      have hj : j ≤ k.scale := by
        by_contra hj
        exact absurd (hmin k.scale (by unfold maxScale; omega) (by omega)) (not_le.2 (mul_fits_at hkm))
      exact ⟨r, hr, scales_of_roundedAt hj hval⟩
  · obtain ⟨j, hj, hf⟩ := @fitDigits_isSome (d.signedMantissa * k.signedMantissa).natAbs
      (d.scale + k.scale) (d.scale + k.scale - maxScale) k.scale
      (by unfold maxScale; omega) (by omega) (mul_fits_at hkm)
    obtain ⟨j', hlj, -, hfit, hp, -⟩ := fitDigits_eq_some hf
    simp only [Prod.mk.injEq] at hp
    obtain ⟨hR, hs'⟩ := hp
    have hraw : ∃ r, ofRawParts? (d.negative != k.negative)
        (roundHalfEven (d.signedMantissa * k.signedMantissa).natAbs (Nat.pow 10 j))
        (d.scale + k.scale - j) = some r := by
      simp only [ofRawParts?]
      rw [dif_pos ⟨hR ▸ hfit, by unfold maxScale at hlj ⊢; omega⟩]
      exact ⟨_, rfl⟩
    obtain ⟨r, hr⟩ := hraw
    refine ⟨r, by rw [hf]; exact hr, scales_of_roundedAt hj ?_⟩
    obtain ⟨hneg, hm, hsc⟩ := ofRawParts?_eq_some hr
    rw [val_eq, hneg, hm, hsc, roundedAt]
    congr 1
    by_cases hv : d.signedMantissa * k.signedMantissa < 0
    · rw [if_pos ((signedMantissa_mul_neg hz.1 hz.2).1 hv), if_pos hv]
    · rw [if_neg (fun h => hv ((signedMantissa_mul_neg hz.1 hz.2).2 h)), if_neg hv]

end Decimal

end ForexJournal
