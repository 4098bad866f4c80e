import Mathlib
import ForexJournal.Proofs.Calendar

/-!
# Stored instants read back

The store writes an instant as `year-month-dayThh:mm:ss.ffffffZ`: the year as dates write it
(four digits from 0 to 9999, else a sign and its digits), two digits for each other field,
second 60 for a leap second, and six fraction digits. Reading goes through the relaxed reader
`readInstantText`, field by field: each field of digits is followed by a separator that is not a
digit, so the reader takes exactly the digits written.

Main statement: an instant that the calendar can write (`Instant.Representable`) and that has no
part of a second below a microsecond is read back from its stored text
(`readInstantText_toStoredText`).
-/

namespace ForexJournal

/-- The characters `padNat n w` writes: zeros up to the width, then the digits of `n`. -/
def paddedDigits (n w : Nat) : List Char :=
  List.replicate (w - (Nat.toDigits 10 n).length) '0' ++ Nat.toDigits 10 n

theorem padNat_toList (n w : Nat) : (padNat n w).toList = paddedDigits n w := by
  simp [padNat, paddedDigits, String.toList_append, String.toList_ofList, Nat.toString_eq_repr,
    String.length]

theorem isDigit_of_mem_paddedDigits {n w : Nat} {c : Char} (h : c ∈ paddedDigits n w) :
    c.isDigit = true := by
  simp only [paddedDigits, List.mem_append, List.mem_replicate] at h
  rcases h with ⟨-, rfl⟩ | h
  · decide
  · exact Nat.isDigit_of_mem_toDigits (by decide) (by decide) h

theorem ofDigitChars_paddedDigits (n w : Nat) : Nat.ofDigitChars 10 (paddedDigits n w) 0 = n := by
  simp [paddedDigits, Nat.ofDigitChars_append]

theorem length_paddedDigits {n w : Nat} (hw : 0 < w) (h : n < 10 ^ w) :
    (paddedDigits n w).length = w := by
  have : (Nat.toDigits 10 n).length ≤ w := (Nat.length_toDigits_le_iff (by decide) hw).2 h
  simp [paddedDigits]; omega

theorem digitFold_eq_ofDigitChars (ds : List Char) (acc : Nat) :
    ds.foldl (fun n c => n * 10 + (c.toNat - '0'.toNat)) acc = Nat.ofDigitChars 10 ds acc := by
  induction ds generalizing acc with
  | nil => rfl
  | cons c ds ih => rw [List.foldl_cons, ih, Nat.ofDigitChars_cons, Nat.mul_comm]

theorem length_le_utf8Bytes (cs : List Char) (acc : Nat) :
    acc + cs.length ≤ cs.foldl (fun n c => n + c.utf8Size) acc := by
  induction cs generalizing acc with
  | nil => simp
  | cons c cs ih =>
    have := ih (acc + c.utf8Size)
    have := c.utf8Size_pos
    simp only [List.foldl_cons, List.length_cons]; omega

/-- A run of digits, at least `least` and at most `most` of them, followed by a non-digit or by
the end of what `readNumber` may take, is read as its number. -/
theorem readNumber_digits {ds rest : List Char} {least most : Nat}
    (hd : ∀ c ∈ ds, c.isDigit = true) (hl : least ≤ ds.length) (hm : ds.length ≤ most)
    (hr : ds.length = most ∨ ∀ c ∈ rest.head?, c.isDigit = false) :
    readNumber (ds ++ rest) least most = .ok (Nat.ofDigitChars 10 ds 0, rest) := by
  have htake : ((ds ++ rest).take most).takeWhile Char.isDigit = ds := by
    rw [List.take_append, List.take_of_length_le hm, List.takeWhile_append_of_pos hd]
    rcases hr with hr | hr
    · simp [hr]
    · cases rest with
      | nil => simp
      | cons c rest =>
        have hc := hr c (by simp)
        cases h : most - ds.length <;> simp [hc]
  have hbytes := length_le_utf8Bytes (ds ++ rest) 0
  simp only [List.length_append] at hbytes
  unfold readNumber
  simp only [htake, digitFold_eq_ofDigitChars, List.drop_left]
  rw [if_neg (by omega), if_neg (by omega)]

theorem trimBlankStart_of_not_blank {c : Char} {cs : List Char} (h : isBlank c = false) :
    trimBlankStart (c :: cs) = c :: cs := by
  simp [trimBlankStart, h]

theorem isBlank_of_isDigit {c : Char} (h : c.isDigit = true) : isBlank c = false := by
  have hc : 48 ≤ c.toNat ∧ c.toNat ≤ 57 := Char.isDigit_iff_toNat.1 h
  simp only [isBlank, Bool.or_eq_false_iff, Bool.and_eq_false_iff, beq_eq_false_iff_ne,
    decide_eq_false_iff_not, not_le]
  omega

theorem readField_digits {ds rest : List Char} {most : Nat} (signed : Bool)
    (hd : ∀ c ∈ ds, c.isDigit = true) (hne : ds ≠ []) (hm : ds.length ≤ most)
    (hr : ds.length = most ∨ ∀ c ∈ rest.head?, c.isDigit = false) :
    readField (ds ++ rest) most signed = .ok ((Nat.ofDigitChars 10 ds 0 : Nat), rest) := by
  obtain ⟨c, ds', rfl⟩ := List.exists_cons_of_ne_nil hne
  have hc := hd c (by simp)
  have hminus : c ≠ '-' := by rintro rfl; simp at hc
  have hplus : c ≠ '+' := by rintro rfl; simp at hc
  have hread := @readNumber_digits (c :: ds') rest 1 most hd (by simp) hm hr
  simp only [List.cons_append] at hread ⊢
  unfold readField
  rw [trimBlankStart_of_not_blank (isBlank_of_isDigit hc)]
  cases signed <;> split <;> simp_all [Except.map]

theorem readField_signed {ds rest : List Char} {most : Nat} (negative : Bool)
    (hd : ∀ c ∈ ds, c.isDigit = true) (hne : ds ≠ []) (hr : ∀ c ∈ rest.head?, c.isDigit = false) :
    readField ((if negative then '-' else '+') :: (ds ++ rest)) most true =
      .ok ((if negative then -(Nat.ofDigitChars 10 ds 0 : Int) else Nat.ofDigitChars 10 ds 0), rest) := by
  have hread := @readNumber_digits ds rest 1 (ds ++ rest).length hd
    (by cases ds <;> simp_all) (by simp) (.inr hr)
  simp only [List.length_append] at hread
  unfold readField
  cases negative
  · rw [trimBlankStart_of_not_blank (by decide)]
    simp [hread, Except.map]
  · rw [trimBlankStart_of_not_blank (by decide)]
    simp [hread, Except.map]

theorem yearText_toList (y : Int) : (yearText y).toList =
    if 0 ≤ y ∧ y ≤ 9999 then paddedDigits y.toNat 4
    else (if y < 0 then '-' else '+') :: paddedDigits y.natAbs 4 := by
  unfold yearText
  split_ifs <;> simp [String.toList_append, padNat_toList]

theorem readField_yearText (y : Int) {rest : List Char}
    (hr : ∀ c ∈ rest.head?, c.isDigit = false) :
    readField ((yearText y).toList ++ rest) 4 true = .ok (y, rest) := by
  rw [yearText_toList]
  split_ifs with hy hneg
  · have hlen : (paddedDigits y.toNat 4).length = 4 := length_paddedDigits (by decide) (by omega)
    rw [readField_digits true (fun _ => isDigit_of_mem_paddedDigits) (by simp [paddedDigits])
      hlen.le (.inl hlen), ofDigitChars_paddedDigits]
    congr 2; omega
  · have := @readField_signed (paddedDigits y.natAbs 4) rest 4 true (fun _ => isDigit_of_mem_paddedDigits)
      (by simp [paddedDigits] : paddedDigits y.natAbs 4 ≠ []) hr
    simp only [if_true] at this
    rw [List.cons_append, this, ofDigitChars_paddedDigits]
    congr 2; omega
  · have := @readField_signed (paddedDigits y.natAbs 4) rest 4 false (fun _ => isDigit_of_mem_paddedDigits)
      (by simp [paddedDigits] : paddedDigits y.natAbs 4 ≠ []) hr
    simp only [if_false, Bool.false_eq_true] at this
    rw [List.cons_append, this, ofDigitChars_paddedDigits]
    congr 2; omega

theorem length_paddedDigits_two {n : Nat} (h : n < 100) : (paddedDigits n 2).length = 2 :=
  length_paddedDigits (by decide) h

theorem readField_paddedDigits_two {n : Nat} (h : n < 100) (rest : List Char) :
    readField (paddedDigits n 2 ++ rest) 2 false = .ok ((n : Int), rest) := by
  rw [readField_digits false (fun _ => isDigit_of_mem_paddedDigits) (by simp [paddedDigits])
    (length_paddedDigits_two h).le (.inl (length_paddedDigits_two h)), ofDigitChars_paddedDigits]

theorem readDate_dateText (y : Int) {m d : Nat} {rest : List Char}
    (hy : -2147483648 ≤ y ∧ y ≤ 2147483647) (hm : 1 ≤ m ∧ m ≤ 12) (hd : 1 ≤ d ∧ d ≤ 31) :
    readDate ((yearText y).toList ++ '-' :: (paddedDigits m 2 ++ '-' :: (paddedDigits d 2 ++ rest)))
      true = .ok ((y, m, d), rest) := by
  have h1 := @readField_yearText y ('-' :: (paddedDigits m 2 ++ '-' :: (paddedDigits d 2 ++ rest)))
    (by simp)
  have h2 := readField_paddedDigits_two (show m < 100 by omega) ('-' :: (paddedDigits d 2 ++ rest))
  have h3 := readField_paddedDigits_two (show d < 100 by omega) rest
  have hdash : ∀ cs, trimBlankStart ('-' :: cs) = '-' :: cs :=
    fun _ => trimBlankStart_of_not_blank (by decide)
  simp only [readDate, h1, bind, Except.bind]
  rw [if_neg (by omega)]
  simp only [if_true, hdash, readLiteral, h2, h3, checkRange]
  simp [hm, hd, pure, Except.pure]

theorem readFraction_paddedDigits {us : Nat} (h : us < 1000000) {rest : List Char}
    (hr : ∀ c ∈ rest.head?, c.isDigit = false) :
    readFraction (paddedDigits us 6 ++ rest) = .ok (us * 1000, rest) := by
  have hlen : (paddedDigits us 6).length = 6 := length_paddedDigits (by decide) h
  have hread := @readNumber_digits (paddedDigits us 6) rest 1 9
    (fun _ => isDigit_of_mem_paddedDigits) (by omega) (by omega) (.inr hr)
  have hdrop : rest.dropWhile Char.isDigit = rest := by
    cases rest with
    | nil => rfl
    | cons c rest => simp [hr c (by simp)]
  simp [readFraction, hread, ofDigitChars_paddedDigits, hlen, hdrop, bind, Except.bind, pure,
    Except.pure]

namespace Instant

theorem toStoredText_toList (t : Instant) : t.toStoredText.toList =
    (yearText t.civil.year).toList ++ '-' :: (paddedDigits t.civil.month 2 ++ '-' ::
      (paddedDigits t.civil.day 2 ++ 'T' :: (paddedDigits t.civil.hour 2 ++ ':' ::
        (paddedDigits t.civil.minute 2 ++ ':' :: (paddedDigits t.civil.second 2 ++ '.' ::
          (paddedDigits (t.civil.nanos / 1000) 6 ++ ['Z'])))))) := by
  simp [toStoredText, CivilTime.dateText, CivilTime.clockText, String.toList_append,
    padNat_toList]

/-- An instant the calendar can write, and which has no part of a second below a microsecond,
is read back from its stored text. -/
def Representable (t : Instant) : Prop :=
  yearInRange t.civil.year = true ∧ (1000000000 ≤ t.nanos → t.seconds % 60 = 59)

end Instant

theorem checkRange_of_mem {v lo hi : Int} (h : lo ≤ v ∧ v ≤ hi) : checkRange v lo hi = .ok v.toNat := by
  simp [checkRange, h]

theorem refuseIf_false (e : TimeTextError) : refuseIf false e = .ok () := rfl

theorem readInstantText_toStoredText {t : Instant} (ht : t.Representable)
    (hmicro : t.nanos % 1000 = 0) : readInstantText t.toStoredText = .ok t := by
  obtain ⟨hyear, hleap⟩ := ht
  obtain ⟨hm1, hm12, hd1, hdm⟩ := t.civil_valid
  have hdays : daysInMonth t.civil.year t.civil.month ≤ 31 := by
    unfold daysInMonth; split_ifs <;> omega
  have hyr : -2147483648 ≤ t.civil.year ∧ t.civil.year ≤ 2147483647 := by
    simp only [yearInRange, Bool.and_eq_true] at hyear
    have h1 := of_decide_eq_true hyear.1
    have h2 := of_decide_eq_true hyear.2
    simp only [minYear, maxYear] at h1 h2
    omega
  have hh : t.civil.hour < 24 := by rw [Instant.civil_hour]; omega
  have hmi : t.civil.minute < 60 := by rw [Instant.civil_minute]; omega
  have hs : t.civil.second ≤ 60 := by rw [Instant.civil_second]; split_ifs <;> omega
  have hcn := Instant.civil_nanos t
  have hn := t.nanos_lt
  have hus : t.civil.nanos / 1000 < 1000000 := by omega
  have hus' : t.civil.nanos / 1000 * 1000 = t.civil.nanos := by omega
  have hfrac := @readFraction_paddedDigits (t.civil.nanos / 1000) hus ['Z'] (by simp)
  rw [hus'] at hfrac
  have hcolon : ∀ cs, trimBlankStart (':' :: cs) = ':' :: cs :=
    fun _ => trimBlankStart_of_not_blank (by decide)
  rw [readInstantText, Instant.toStoredText_toList,
    readDate_dateText _ hyr ⟨hm1, hm12⟩ ⟨hd1, by omega⟩]
  have hZ : trimBlankStart ['Z'] = ['Z'] := trimBlankStart_of_not_blank (by decide)
  have hoff : readOffset ['Z'] = .ok (0, []) := rfl
  have hnotutc : (List.map Char.toUpper (List.take 3 ['Z'])) = ['U', 'T', 'C'] ↔ False := by decide
  have hdm' : decide (daysInMonth t.civil.year t.civil.month < t.civil.day) = false := by simp; omega
  simp only [bind, Except.bind, true_or, if_true, pure, Except.pure,
    readField_paddedDigits_two (show t.civil.hour < 100 by omega),
    readField_paddedDigits_two (show t.civil.minute < 100 by omega),
    readField_paddedDigits_two (show t.civil.second < 100 by omega),
    checkRange_of_mem (show (0 : Int) ≤ t.civil.hour ∧ (t.civil.hour : Int) ≤ 23 by omega),
    checkRange_of_mem (show (0 : Int) ≤ t.civil.minute ∧ (t.civil.minute : Int) ≤ 59 by omega),
    checkRange_of_mem (show (0 : Int) ≤ t.civil.second ∧ (t.civil.second : Int) ≤ 60 by omega),
    Int.toNat_natCast, hcolon, readLiteral, hfrac, hZ, hnotutc, if_false, hoff, hyear, hdm']
  have hempty : trimBlankStart [] = [] := rfl
  have hcn' : t.civil.nanos < 1000000000 := by omega
  have haddZero : ∀ u : Instant, u.addSeconds (-0) = u := fun u => by simp [Instant.addSeconds]
  simp only [hempty, List.isEmpty_nil, Bool.not_true, refuseIf_false, Int.natAbs_zero,
    show decide (86400 ≤ 0) = false from rfl, dif_pos hcn', haddZero,
    Instant.ofCivilLeap_civil t hleap hcn', hyear, if_true]

end ForexJournal
