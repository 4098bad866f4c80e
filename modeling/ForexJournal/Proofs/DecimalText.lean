import Mathlib
import ForexJournal.Decimal.Text
/-!
# Reading back the text of a decimal

Decimals are stored as text. The text is the sign, the digits of the mantissa, and a point
before the last `scale` of them (zeros in front when there are fewer digits). Reading it back
walks the digits with the mantissa and the scale as accumulators; the only thing lost is the
sign of a zero, which every reading gives as positive.
-/
namespace ForexJournal

namespace Decimal

/-- The decimal with its sign flag cleared on a zero mantissa: the form every reading gives. -/
def plusZero (d : Decimal) : Decimal :=
  ⟨d.negative && d.mantissa != 0, d.mantissa, d.scale, d.mantissa_lt, d.scale_le⟩

theorem ofDigitChars_le (ds : List Char) (m : Nat) : m ≤ Nat.ofDigitChars 10 ds m := by
  induction ds generalizing m with
  | nil => simp
  | cons c ds ih =>
    rw [Nat.ofDigitChars_cons]
    exact le_trans (by omega) (ih _)

theorem digitValue_lt_ten {c : Char} (h : c.isDigit = true) : c.toNat - '0'.toNat < 10 := by
  have := Char.isDigit_iff_toNat.1 h
  simp only [Char.reduceToNat] at *; omega

/-- A run of digits that ends the text is read as the mantissa it spells, each digit after the
point raising the scale, as long as the mantissa fits and the scale stays within 28 places. -/
theorem readDigits_of_digits (negative : Bool) {ds : List Char} (point seen wide : Bool)
    (m scale : Nat) (hd : ∀ c ∈ ds, c.isDigit = true) (hne : ds ≠ [])
    (hbound : Nat.ofDigitChars 10 ds m < mantissaBound)
    (hscale : point = true → scale + ds.length ≤ maxScale) :
    readDigits negative ds point seen wide m scale =
      finishDigits negative true (Nat.ofDigitChars 10 ds m)
        (scale + if point then ds.length else 0) := by
  induction ds generalizing seen wide m scale with
  | nil => exact absurd rfl hne
  | cons c ds ih =>
    have hc := hd c (by simp)
    have hnext : m * 10 + (c.toNat - '0'.toNat) < mantissaBound := by
      have := ofDigitChars_le ds (10 * m + (c.toNat - '0'.toNat))
      rw [Nat.ofDigitChars_cons] at hbound; omega
    unfold readDigits
    rw [if_pos hc, if_neg (by omega)]
    cases ds with
    | nil =>
      have hv : Nat.ofDigitChars 10 [c] m = m * 10 + (c.toNat - '0'.toNat) := by
        rw [Nat.ofDigitChars_cons, Nat.ofDigitChars_nil, Nat.mul_comm]
      rw [hv]
      cases point <;> simp
    | cons c' ds' =>
      have hroom : ¬ (point = true ∧ maxScale ≤ (if point = true then scale + 1 else scale)) := by
        cases point
        · simp
        · have := hscale rfl
          simp at this ⊢; omega
      simp only [hroom, if_false]
      rw [ih true _ _ _ (fun x hx => hd x (List.mem_cons_of_mem c hx)) (List.cons_ne_nil _ _)
        (by rwa [Nat.ofDigitChars_cons, Nat.mul_comm] at hbound)
        (fun hp => by have := hscale hp; simp [hp] at this ⊢; omega),
        @Nat.ofDigitChars_cons 10 c, Nat.mul_comm 10 m]
      congr 1
      cases point
      · simp
      · simp; omega

theorem readDigits_before_point (negative : Bool) {ds rest : List Char} (seen wide : Bool)
    (m scale : Nat) (hd : ∀ c ∈ ds, c.isDigit = true)
    (hbound : Nat.ofDigitChars 10 ds m < mantissaBound) :
    ∃ w, readDigits negative (ds ++ '.' :: rest) false seen wide m scale =
      readDigits negative rest true (seen || !ds.isEmpty) w (Nat.ofDigitChars 10 ds m) scale := by
  induction ds generalizing seen wide m with
  | nil => exact ⟨wide, by simp [readDigits]⟩
  | cons c ds ih =>
    have hc := hd c (by simp)
    have hnext : m * 10 + (c.toNat - '0'.toNat) < mantissaBound := by
      have := ofDigitChars_le ds (10 * m + (c.toNat - '0'.toNat))
      rw [Nat.ofDigitChars_cons] at hbound; omega
    obtain ⟨w, hw⟩ := ih true (wide || decide (narrowBound ≤ m * 10 + (c.toNat - '0'.toNat)))
      (m * 10 + (c.toNat - '0'.toNat)) (fun x hx => hd x (List.mem_cons_of_mem c hx))
      (by rwa [Nat.ofDigitChars_cons, Nat.mul_comm] at hbound)
    refine ⟨w, ?_⟩
    rw [List.cons_append]
    conv_lhs => unfold readDigits
    rw [if_pos hc, if_neg (by omega)]
    obtain ⟨x, xs, hx⟩ : ∃ x xs, ds ++ '.' :: rest = x :: xs := by
      cases ds <;> simp
    simp only [hx, Bool.false_eq_true, false_and, if_false] at hw ⊢
    rw [hw, @Nat.ofDigitChars_cons 10 c, Nat.mul_comm 10 m]
    simp

/-- Digits `ds` with a point put in before the last `scale` of them, and zeros in front when
there are not that many: the body of a decimal's text. -/
def pointed (ds : List Char) (scale : Nat) : List Char :=
  if scale = 0 then ds
  else if scale < ds.length then ds.take (ds.length - scale) ++ '.' :: ds.drop (ds.length - scale)
  else '0' :: '.' :: (List.replicate (scale - ds.length) '0' ++ ds)

theorem toText_toList (d : Decimal) : d.toText.toList =
    (if d.negative then ['-'] else []) ++ pointed (Nat.toDigits 10 d.mantissa) d.scale := by
  unfold toText pointed
  have hlen : (toString d.mantissa).length = (Nat.toDigits 10 d.mantissa).length := by
    simp [Nat.toString_eq_repr, String.length]
  simp only [hlen]
  split_ifs <;> simp [String.toList_append, Nat.toString_eq_repr]

theorem pointed_chars {ds : List Char} (scale : Nat) (hd : ∀ c ∈ ds, c.isDigit = true) :
    ∀ c ∈ pointed ds scale, c.isDigit = true ∨ c = '.' := by
  intro c hc
  unfold pointed at hc
  split_ifs at hc
  · exact .inl (hd c hc)
  · simp only [List.mem_append, List.mem_cons] at hc
    rcases hc with hc | rfl | hc
    · exact .inl (hd c (List.mem_of_mem_take hc))
    · exact .inr rfl
    · exact .inl (hd c (List.mem_of_mem_drop hc))
  · simp only [List.mem_cons, List.mem_append, List.mem_replicate] at hc
    rcases hc with rfl | rfl | ⟨-, rfl⟩ | hc
    · exact .inl (by decide)
    · exact .inr rfl
    · exact .inl (by decide)
    · exact .inl (hd c hc)

theorem pointed_head {ds : List Char} (scale : Nat) (hd : ∀ c ∈ ds, c.isDigit = true)
    (hne : ds ≠ []) : ∃ c rest, pointed ds scale = c :: rest ∧ c.isDigit = true := by
  obtain ⟨c, cs, rfl⟩ := List.exists_cons_of_ne_nil hne
  have hc := hd c (by simp)
  unfold pointed
  split_ifs with h0 hlt
  · exact ⟨c, cs, rfl, hc⟩
  · obtain ⟨k, hk⟩ : ∃ k, (c :: cs).length - scale = k + 1 := ⟨_, (Nat.succ_pred_eq_of_pos
      (by simp at hlt ⊢; omega)).symm⟩
    exact ⟨c, _, by rw [hk]; rfl, hc⟩
  · exact ⟨'0', _, rfl, by decide⟩

/-- A mantissa and scale that fit give the decimal with that mantissa and scale, a zero with a
plus sign. -/
theorem finishDigits_ok (negative : Bool) {m scale : Nat} (hm : m < mantissaBound)
    (hs : scale ≤ maxScale) :
    finishDigits negative true m scale = .ok ⟨negative && m != 0, m, scale, hm, hs⟩ := by
  simp [finishDigits, ofParts?, ofRawParts?, hm, hs]

/-- The digits of a mantissa, with the point put in as the text does, read back as the decimal
with that mantissa and scale. -/
theorem readDigits_pointed (d : Decimal) :
    readDigits d.negative (pointed (Nat.toDigits 10 d.mantissa) d.scale) false false false 0 0 =
      .ok d.plusZero := by
  have hD : ∀ c ∈ Nat.toDigits 10 d.mantissa, c.isDigit = true :=
    fun _ h => Nat.isDigit_of_mem_toDigits (by decide) (by decide) h
  have hval : Nat.ofDigitChars 10 (Nat.toDigits 10 d.mantissa) 0 = d.mantissa :=
    Nat.ofDigitChars_ten_toDigits
  have hne : Nat.toDigits 10 d.mantissa ≠ [] := Nat.toDigits_ne_nil
  have hm := d.mantissa_lt
  have hs := d.scale_le
  generalize Nat.toDigits 10 d.mantissa = D at *
  have hdone : finishDigits d.negative true d.mantissa d.scale = .ok d.plusZero := by
    rw [finishDigits_ok _ hm hs]; rfl
  unfold pointed
  split_ifs with h0 hlt
  · rw [readDigits_of_digits _ _ _ _ _ _ hD hne (by rwa [hval]) (by simp), hval, ← hdone, h0]
    rfl
  · have hsplit := List.take_append_drop (D.length - d.scale) D
    have hval' : Nat.ofDigitChars 10 (D.drop (D.length - d.scale))
        (Nat.ofDigitChars 10 (D.take (D.length - d.scale)) 0) = d.mantissa := by
      rw [← Nat.ofDigitChars_append, hsplit, hval]
    obtain ⟨w, hw⟩ := readDigits_before_point d.negative false false 0 0
      (fun c hc => hD c (List.mem_of_mem_take hc))
      (lt_of_le_of_lt (ofDigitChars_le _ _) (by rw [hval']; exact hm))
    rw [hw, readDigits_of_digits _ _ _ _ _ _ (fun c hc => hD c (List.mem_of_mem_drop hc))
      (by simp; omega) (by rw [hval']; exact hm) (by simp; omega), hval', ← hdone]
    congr 1; simp; omega
  · have hzeros : ∀ c ∈ List.replicate (d.scale - D.length) '0' ++ D, c.isDigit = true := by
      intro c hc
      rcases List.mem_append.1 hc with hc | hc
      · rw [List.eq_of_mem_replicate hc]; decide
      · exact hD c hc
    have hval' : Nat.ofDigitChars 10 (List.replicate (d.scale - D.length) '0' ++ D) 0 =
        d.mantissa := by
      rw [Nat.ofDigitChars_append, Nat.ofDigitChars_replicate_zero, Nat.mul_zero, hval]
    obtain ⟨w, hw⟩ := @readDigits_before_point d.negative ['0']
      (List.replicate (d.scale - D.length) '0' ++ D) false false 0 0 (by simp)
      (by simp [Nat.ofDigitChars, mantissaBound])
    rw [List.singleton_append] at hw
    rw [hw, show Nat.ofDigitChars 10 ['0'] 0 = 0 from rfl,
      readDigits_of_digits _ _ _ _ _ _ hzeros (by simp [hne]) (by rw [hval']; exact hm)
        (by simp; omega), hval', ← hdone]
    congr 1; simp; omega

theorem parse_toText (d : Decimal) : parse d.toText = .ok d.plusZero := by
  have hD : ∀ c ∈ Nat.toDigits 10 d.mantissa, c.isDigit = true :=
    fun _ h => Nat.isDigit_of_mem_toDigits (by decide) (by decide) h
  have hchars := pointed_chars d.scale hD
  obtain ⟨c, rest, hbody, hc⟩ := pointed_head d.scale hD Nat.toDigits_ne_nil
  have hspan : ∀ pre : List Char, (∀ x ∈ pre, x = '-') →
      (pre ++ pointed (Nat.toDigits 10 d.mantissa) d.scale).span
        (fun x => decide (x ≠ 'e' ∧ x ≠ 'E')) =
        (pre ++ pointed (Nat.toDigits 10 d.mantissa) d.scale, []) := by
    intro pre hpre
    rw [List.span_eq_takeWhile_dropWhile, List.takeWhile_eq_self_iff.2, List.dropWhile_eq_nil_iff.2]
    all_goals
      intro x hx
      rcases List.mem_append.1 hx with hx | hx
      · rw [hpre x hx]; decide
      · rcases hchars x hx with hx | rfl
        · have : x ≠ 'e' ∧ x ≠ 'E' := by
            constructor <;> rintro rfl <;> simp at hx
          simpa using this
        · decide
  have hbodyRead := readDigits_pointed d
  unfold parse
  rw [toText_toList]
  cases hneg : d.negative
  · rw [if_neg Bool.false_ne_true, hspan [] (by simp), List.nil_append]
    rw [hneg] at hbodyRead
    rw [hbody] at hbodyRead ⊢
    have h1 : c ≠ '-' := by rintro rfl; simp at hc
    have h2 : c ≠ '+' := by rintro rfl; simp at hc
    show parsePlain (c :: rest) = _
    rw [parsePlain.eq_4 _ (by simp) (by simp [h1]) (by simp [h2])]
    exact hbodyRead
  · rw [if_pos rfl, hspan ['-'] (by simp)]
    rw [hneg] at hbodyRead
    exact hbodyRead

end Decimal

end ForexJournal
