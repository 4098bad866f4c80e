import Mathlib
import ForexJournal.Proofs.DecimalRounding

/-!
# Turning the sign over

Every operation on decimals works on the mantissas and scales and sets the sign apart, and the
rounding of a fitted result goes half to even on the size alone. So negating an operand negates
the result, with the same digits at the same scale (`Decimal.Opposite`). The one thing that is
not mirrored is the sign of a zero result: some operations give a zero the plus sign whatever
the operands, others the sign of the exact product, so two opposite results that are zero may
carry any signs.

Main statements: `Decimal.checkedSub_swap`, `Decimal.Opposite.checkedDiv` and
`Decimal.Opposite.checkedMul`.
-/

namespace ForexJournal

namespace Decimal

/-- `a` is `b` with its sign turned over: the same digits at the same scale, and the other sign
unless the digits are zero. Opposite decimals have opposite values and print alike but for the
minus sign. -/
structure Opposite (a b : Decimal) : Prop where
  mantissa_eq : a.mantissa = b.mantissa
  scale_eq : a.scale = b.scale
  negative_ne : a.mantissa ≠ 0 → a.negative = !b.negative

variable {a b a' : Decimal}

theorem Opposite.symm (h : a.Opposite b) : b.Opposite a where
  mantissa_eq := h.mantissa_eq.symm
  scale_eq := h.scale_eq.symm
  negative_ne hm := by rw [h.negative_ne (h.mantissa_eq ▸ hm), Bool.not_not]

theorem opposite_zero : zero.Opposite zero := ⟨rfl, rfl, fun h => absurd rfl h⟩

theorem opposite_neg (d : Decimal) : d.Opposite d.neg := ⟨rfl, rfl, fun _ => by simp [neg]⟩

theorem Opposite.neg (h : a.Opposite b) : a.neg.Opposite b.neg where
  mantissa_eq := h.mantissa_eq
  scale_eq := h.scale_eq
  negative_ne hm := by simp [Decimal.neg, h.negative_ne hm]

theorem Opposite.isZero_eq (h : a.Opposite b) : a.isZero = b.isZero := by
  simp [isZero, h.mantissa_eq]

theorem Opposite.val_eq_neg (h : a.Opposite b) : a.val = -b.val := by
  rw [Decimal.val_eq, Decimal.val_eq, h.scale_eq, ← h.mantissa_eq, ← neg_div]
  by_cases hm : a.mantissa = 0
  · simp [hm]
  · rw [h.negative_ne hm]
    cases b.negative <;> simp

theorem Opposite.sameValue_neg (h : a.Opposite b) : a.sameValue b.neg = true := by
  simp [sameValue, compare_eq_val, h.val_eq_neg]

theorem Opposite.signedMantissa_eq (h : a.Opposite b) (ha : a.isZero = false) :
    a.signedMantissa = -b.signedMantissa := by
  have hm : a.mantissa ≠ 0 := by simpa [isZero] using ha
  unfold signedMantissa
  rw [h.negative_ne hm, ← h.mantissa_eq]
  cases b.negative <;> simp

theorem Opposite.scaledTo (h : a.Opposite b) (ha : a.isZero = false) (s : Nat) :
    a.scaledTo s = -b.scaledTo s := by
  unfold Decimal.scaledTo
  rw [h.signedMantissa_eq ha, h.scale_eq, neg_mul]

/-! ## Building a decimal with the other sign -/

theorem ofRawParts?_opposite {n n' : Bool} (hn : n = !n') (m s : Nat) :
    Option.Rel Opposite (ofRawParts? n m s) (ofRawParts? n' m s) := by
  unfold ofRawParts?
  split
  · exact .some ⟨rfl, rfl, fun _ => hn⟩
  · exact .none

theorem ofParts?_opposite {n n' : Bool} {m : Nat} (hn : m ≠ 0 → n = !n') (s : Nat) :
    Option.Rel Opposite (ofParts? n m s) (ofParts? n' m s) := by
  unfold ofParts? ofRawParts?
  split
  · refine .some ⟨rfl, rfl, fun hm => ?_⟩
    have hm' : (m != 0) = true := bne_iff_ne.2 hm
    simp [hn hm, hm']
  · exact .none

theorem roundHalfEven_zero (d : Nat) : roundHalfEven 0 d = 0 :=
  Nat.le_zero.1 (roundHalfEven_le_of_le (by simp))

/-- Fitting the negation of an exact value gives the opposite decimal: the digits are fitted on
the size, and the sign is set apart. -/
theorem ofSignedExact?_neg (v : ℤ) (s least : Nat) :
    Option.Rel Opposite (ofSignedExact? (-v) s least) (ofSignedExact? v s least) := by
  unfold ofSignedExact?
  rw [Int.natAbs_neg]
  cases hf : fitDigits v.natAbs s least with
  | none => exact .none
  | some p =>
    obtain ⟨m, s'⟩ := p
    refine ofParts?_opposite (fun hm => ?_) s'
    obtain ⟨k, -, -, -, hp, -⟩ := fitDigits_eq_some hf
    have hv : v ≠ 0 := by
      rintro rfl
      simp only [Int.natAbs_zero, roundHalfEven_zero, Prod.mk.injEq] at hp
      exact hm hp.1
    rcases lt_or_gt_of_ne hv with hv | hv
    · simp [hv, hv.le]
    · simp [hv, not_lt.2 hv.le]

/-! ## The three operations -/

/-- Two nonzero decimals subtracted the other way round give the opposite difference, or both
overflow. -/
theorem checkedSub_swap (ha : a.isZero = false) (hb : b.isZero = false) :
    Option.Rel Opposite (checkedSub b a) (checkedSub a b) := by
  unfold checkedSub addSub exactSum
  simp only [ha, hb, Bool.false_eq_true, if_false]
  have hs : Nat.max b.scale a.scale = Nat.max a.scale b.scale := Nat.max_comm _ _
  rw [hs]
  have hv : b.scaledTo (Nat.max a.scale b.scale) + -a.scaledTo (Nat.max a.scale b.scale) =
      -(a.scaledTo (Nat.max a.scale b.scale) + -b.scaledTo (Nat.max a.scale b.scale)) := by ring
  simp only [if_true]
  rw [hv]
  exact ofSignedExact?_neg _ _ _

/-- Results of an operation that are opposite or both missing, read with zero for a missing
one. -/
theorem getD_opposite {o o' : Option Decimal} (h : Option.Rel Opposite o o') :
    (o.getD zero).Opposite (o'.getD zero) := by
  cases h with
  | some h => exact h
  | none => exact opposite_zero

theorem sub_swap (ha : a.isZero = false) (hb : b.isZero = false) :
    (b.sub a).Opposite (a.sub b) :=
  getD_opposite (checkedSub_swap ha hb)

/-- Sums and differences of opposite operands are opposite: a zero operand gives the other one
back on both sides, and otherwise the exact result is negated before it is fitted. -/
theorem Opposite.addSub (ha : a.Opposite a') (hb : b.Opposite b') (subtract : Bool) :
    Option.Rel Opposite (Decimal.addSub a b subtract) (Decimal.addSub a' b' subtract) := by
  unfold Decimal.addSub exactSum
  rw [← ha.isZero_eq, ← hb.isZero_eq, ← ha.scale_eq, ← hb.scale_eq]
  split
  · split
    · exact .some hb.neg
    · exact .some hb
  split
  · exact .some ha
  rename_i ha0 hb0
  dsimp only
  rw [ha.scaledTo (by simpa using ha0), hb.scaledTo (by simpa using hb0)]
  cases subtract
  · rw [if_neg Bool.false_ne_true, if_neg Bool.false_ne_true, ← neg_add]
    exact ofSignedExact?_neg _ _ _
  · have hv : ∀ x y : ℤ, -x + y = -(x + -y) := fun x y => by ring
    rw [if_pos rfl, if_pos rfl, neg_neg, hv]
    exact ofSignedExact?_neg _ _ _

theorem exists_of_rel_some {o o' : Option Decimal} (h : Option.Rel Opposite o o') {m : Decimal}
    (hm : o = some m) : ∃ m', o' = some m' ∧ m.Opposite m' := by
  subst hm
  cases h with
  | some h => exact ⟨_, rfl, h⟩

theorem exists_of_rel_some_right {o o' : Option Decimal} (h : Option.Rel Opposite o o')
    {m' : Decimal} (hm : o' = some m') : ∃ m, o = some m ∧ m.Opposite m' := by
  subst hm
  cases h with
  | some h => exact ⟨_, rfl, h⟩

/-- A quotient of opposite dividends is opposite: the digits are developed from the mantissas
and the sign set apart. -/
theorem Opposite.checkedDiv (h : a.Opposite a') (b : Decimal) :
    Option.Rel Opposite (a.checkedDiv b) (a'.checkedDiv b) := by
  unfold Decimal.checkedDiv
  rw [← h.isZero_eq, ← h.mantissa_eq, ← h.scale_eq]
  split
  · exact .none
  split
  · exact .some opposite_zero
  rename_i ha
  dsimp only
  split
  · exact .none
  · refine ofParts?_opposite (fun _ => ?_) _
    have hm : a.mantissa ≠ 0 := by simpa [isZero] using ha
    rw [h.negative_ne hm]
    cases a'.negative <;> cases b.negative <;> rfl

/-- A product with opposite left factors is opposite: the small exact path fits the negated
exact product, and the wide path builds the other sign. -/
theorem Opposite.checkedMul (h : a.Opposite a') (b : Decimal) :
    Option.Rel Opposite (a.checkedMul b) (a'.checkedMul b) := by
  unfold Decimal.checkedMul
  rw [← h.isZero_eq, ← h.mantissa_eq, ← h.scale_eq]
  split
  · exact .some opposite_zero
  rename_i hz
  have ha : a.isZero = false := by simpa using (Bool.or_eq_false_iff.1 (by simpa using hz)).1
  have hv : a.signedMantissa * b.signedMantissa = -(a'.signedMantissa * b.signedMantissa) := by
    rw [h.signedMantissa_eq ha]
    ring
  dsimp only
  split
  · split
    · exact .some opposite_zero
    · rw [hv]
      exact ofSignedExact?_neg _ _ _
  · rw [hv, Int.natAbs_neg]
    cases fitDigits (a'.signedMantissa * b.signedMantissa).natAbs (a.scale + b.scale)
        (a.scale + b.scale - maxScale) with
    | none => exact .none
    | some p =>
      refine ofRawParts?_opposite ?_ _ _
      have hm : a.mantissa ≠ 0 := by simpa [isZero] using ha
      rw [h.negative_ne hm]
      cases a'.negative <;> cases b.negative <;> rfl

/-! ## Where an overflow stops the program -/

theorem Opposite.tryAdd (ha : a.Opposite a') (hb : b.Opposite b') {m : Decimal}
    (h : a.tryAdd b = .ok m) : ∃ m', a'.tryAdd b' = .ok m' ∧ m.Opposite m' := by
  obtain ⟨m', hm', hop⟩ := exists_of_rel_some (ha.addSub hb false) (tryAdd_eq_ok.1 h)
  exact ⟨m', tryAdd_eq_ok.2 hm', hop⟩

theorem Opposite.trySub (ha : a.Opposite a') (hb : b.Opposite b') {m : Decimal}
    (h : a.trySub b = .ok m) : ∃ m', a'.trySub b' = .ok m' ∧ m.Opposite m' := by
  obtain ⟨m', hm', hop⟩ := exists_of_rel_some (ha.addSub hb true) (trySub_eq_ok.1 h)
  exact ⟨m', trySub_eq_ok.2 hm', hop⟩

theorem Opposite.tryMul (ha : a.Opposite a') {b m : Decimal} (h : a.tryMul b = .ok m) :
    ∃ m', a'.tryMul b = .ok m' ∧ m.Opposite m' := by
  obtain ⟨m', hm', hop⟩ := exists_of_rel_some (ha.checkedMul b) (tryMul_eq_ok.1 h)
  exact ⟨m', tryMul_eq_ok.2 hm', hop⟩

theorem Opposite.tryDiv (ha : a.Opposite a') {b m : Decimal} (h : a.tryDiv b = .ok m) :
    ∃ m', a'.tryDiv b = .ok m' ∧ m.Opposite m' := by
  obtain ⟨m', hm', hop⟩ := exists_of_rel_some (ha.checkedDiv b) (tryDiv_eq_ok.1 h)
  exact ⟨m', tryDiv_eq_ok.2 hm', hop⟩

end Decimal

end ForexJournal
