import Mathlib
import ForexJournal.Proofs.InstantText
import ForexJournal.Proofs.DecimalText

/-!
# Stored instants sort as time

The stored text of an instant is its year, month, day, hour, minute, second and microsecond,
each written in a field of fixed width, between the same separators. Two such texts compare
field by field, so they compare as the numbers their digits spell with the separators left out
(`Instant.stampNumber`). That number grows with time: a later day has a later date, since
counting the days of a valid date is monotone in the date, and within one day the clock fields
grow with the second of the day, a leap second being written as second 60 of the minute it
ends.

This holds while the year takes four digits. A year past 9999 is written with a plus sign and a
fifth digit, and the plus sign sorts before every digit, so year 10000 sorts before year 9999
(`storedText_past_9999_sorts_first`). Reading the text back gives the instant cut to the
microsecond for every year the calendar can write.

Main statement: `storedText_order_and_read_back`.
-/

namespace ForexJournal

/-! ## Runs of digits compare as their numbers -/

section Digits

theorem ofDigitChars_init (cs : List Char) (m : Nat) :
    Nat.ofDigitChars 10 cs m = m * 10 ^ cs.length + Nat.ofDigitChars 10 cs 0 := by
  induction cs generalizing m with
  | nil => simp [Nat.ofDigitChars]
  | cons c cs ih =>
    rw [Nat.ofDigitChars_cons, Nat.ofDigitChars_cons, ih, ih (10 * 0 + _)]
    simp only [List.length_cons, pow_succ]
    ring

theorem ofDigitChars_lt {cs : List Char} (h : ∀ c ∈ cs, c.isDigit = true) :
    Nat.ofDigitChars 10 cs 0 < 10 ^ cs.length := by
  induction cs with
  | nil => simp [Nat.ofDigitChars]
  | cons c cs ih =>
    have hc := Decimal.digitValue_lt_ten (h c (by simp))
    have hcs := ih fun x hx => h x (by simp [hx])
    rw [Nat.ofDigitChars_cons, ofDigitChars_init, List.length_cons, pow_succ]
    simp only [Nat.mul_zero, Nat.zero_add]
    nlinarith

theorem digit_lt_iff {c c' : Char} (h : c.isDigit = true) (h' : c'.isDigit = true) :
    c < c' ↔ c.toNat - '0'.toNat < c'.toNat - '0'.toNat := by
  have := Char.isDigit_iff_toNat.1 h
  have := Char.isDigit_iff_toNat.1 h'
  rw [Char.lt_def, UInt32.lt_iff_toNat_lt]
  simp only [Char.toNat] at *
  omega

theorem digit_eq_iff {c c' : Char} (h : c.isDigit = true) (h' : c'.isDigit = true) :
    c = c' ↔ c.toNat - '0'.toNat = c'.toNat - '0'.toNat := by
  have := Char.isDigit_iff_toNat.1 h
  have := Char.isDigit_iff_toNat.1 h'
  constructor
  · rintro rfl; rfl
  · intro he
    apply Char.ext
    apply UInt32.toNat.inj
    simp only [Char.toNat] at *
    omega

/-- Two runs of digits of one length, each followed by more text, compare as their numbers,
and on equal numbers as what follows. -/
theorem digits_append_lt_iff {ds ds' : List Char} (r r' : List Char)
    (hd : ∀ c ∈ ds, c.isDigit = true) (hd' : ∀ c ∈ ds', c.isDigit = true)
    (hlen : ds.length = ds'.length) :
    ds ++ r < ds' ++ r' ↔ Nat.ofDigitChars 10 ds 0 < Nat.ofDigitChars 10 ds' 0 ∨
      (Nat.ofDigitChars 10 ds 0 = Nat.ofDigitChars 10 ds' 0 ∧ r < r') := by
  induction ds generalizing ds' with
  | nil =>
    obtain rfl : ds' = [] := List.eq_nil_of_length_eq_zero hlen.symm
    simp
  | cons c cs ih =>
    obtain ⟨c', cs', rfl⟩ := List.exists_cons_of_length_eq_add_one hlen.symm
    have hc := hd c (by simp)
    have hc' := hd' c' (by simp)
    have hcs : ∀ x ∈ cs, x.isDigit = true := fun x hx => hd x (by simp [hx])
    have hcs' : ∀ x ∈ cs', x.isDigit = true := fun x hx => hd' x (by simp [hx])
    have hl : cs.length = cs'.length := by simpa using hlen
    have hv := ofDigitChars_lt hcs
    have hv' := ofDigitChars_lt hcs'
    rw [hl] at hv
    have hval : ∀ (d : Char) (ds : List Char), Nat.ofDigitChars 10 (d :: ds) 0 =
        (d.toNat - '0'.toNat) * 10 ^ ds.length + Nat.ofDigitChars 10 ds 0 := fun d ds => by
      rw [Nat.ofDigitChars_cons, ofDigitChars_init]; simp
    rw [List.cons_append, List.cons_append, List.cons_lt_cons_iff, ih hcs hcs' hl,
      digit_lt_iff hc hc', digit_eq_iff hc hc', hval, hval, hl]
    generalize 10 ^ cs'.length = P at *
    generalize c.toNat - '0'.toNat = a
    generalize c'.toNat - '0'.toNat = b
    generalize Nat.ofDigitChars 10 cs 0 = x at *
    generalize Nat.ofDigitChars 10 cs' 0 = y at *
    constructor
    · rintro (hab | ⟨rfl, h⟩)
      · left; nlinarith
      · rcases h with h | ⟨rfl, h⟩
        · left; omega
        · right; exact ⟨rfl, h⟩
    · rintro (h | ⟨h, hr⟩)
      · rcases lt_trichotomy a b with hab | rfl | hab
        · left; exact hab
        · right; exact ⟨rfl, .inl (by omega)⟩
        · nlinarith
      · rcases lt_trichotomy a b with hab | rfl | hab
        · nlinarith
        · right; exact ⟨rfl, .inr ⟨by omega, hr⟩⟩
        · nlinarith

/-- Two numbers written in one fixed width, each followed by more text, compare as the
numbers, and on equal numbers as what follows. -/
theorem paddedDigits_append_lt_iff {n n' w : Nat} (hw : 0 < w) (hn : n < 10 ^ w)
    (hn' : n' < 10 ^ w) (r r' : List Char) :
    paddedDigits n w ++ r < paddedDigits n' w ++ r' ↔ n < n' ∨ (n = n' ∧ r < r') := by
  rw [digits_append_lt_iff r r' (fun _ => isDigit_of_mem_paddedDigits)
    (fun _ => isDigit_of_mem_paddedDigits)
    (by rw [length_paddedDigits hw hn, length_paddedDigits hw hn']),
    ofDigitChars_paddedDigits, ofDigitChars_paddedDigits]

theorem cons_lt_cons_self (c : Char) (r r' : List Char) : c :: r < c :: r' ↔ r < r' := by
  rw [List.cons_lt_cons_iff]
  simp

end Digits

/-! ## Counting days is monotone in the date -/

section Calendar

theorem daysFromCivil_day (y : Int) (m d : Nat) (hd : 1 ≤ d) :
    daysFromCivil y m d = daysFromCivil y m 1 + (d - 1 : Nat) := by
  simp only [daysFromCivil]
  split_ifs <;> push_cast <;> omega

theorem daysFromCivil_next_month (y : Int) {m d : Nat} (hm : 1 ≤ m ∧ m < 12)
    (hd : d ≤ daysInMonth y m) : daysFromCivil y m d < daysFromCivil y (m + 1) 1 := by
  simp only [daysFromCivil, daysInMonth] at *
  obtain ⟨h1, h2⟩ := hm
  interval_cases m
  case «2» =>
    simp at hd ⊢
    split_ifs at hd with hl <;> rw [Calendar.isLeapYear_iff] at hl <;> omega
  all_goals simp at hd ⊢; omega

theorem daysFromCivil_next_year (y : Int) {d : Nat} (hd : d ≤ 31) :
    daysFromCivil y 12 d < daysFromCivil (y + 1) 1 1 := by
  simp only [daysFromCivil]
  norm_num
  omega

theorem daysFromCivil_year_start (y : Int) : daysFromCivil y 1 1 < daysFromCivil (y + 1) 1 1 := by
  simp only [daysFromCivil]
  norm_num
  omega

theorem daysFromCivil_month_start_mono (y : Int) {m m' : Nat} (hm : 1 ≤ m) (hmm : m ≤ m')
    (hm' : m' ≤ 12) : daysFromCivil y m 1 ≤ daysFromCivil y m' 1 := by
  induction m', hmm using Nat.le_induction with
  | base => exact le_rfl
  | succ k hk ih =>
    exact le_of_lt (lt_of_le_of_lt (ih (by omega))
      (daysFromCivil_next_month y ⟨by omega, by omega⟩ (by unfold daysInMonth; split_ifs <;> omega)))

theorem daysFromCivil_year_start_mono {y y' : Int} (h : y ≤ y') :
    daysFromCivil y 1 1 ≤ daysFromCivil y' 1 1 := by
  obtain ⟨n, rfl⟩ : ∃ n : Nat, y' = y + n := ⟨(y' - y).toNat, by omega⟩
  induction n with
  | zero => simp
  | succ n ih =>
    calc daysFromCivil y 1 1 ≤ daysFromCivil (y + n) 1 1 := ih (by omega)
      _ ≤ daysFromCivil (y + n + 1) 1 1 := (daysFromCivil_year_start _).le
      _ = daysFromCivil (y + (n + 1 : Nat)) 1 1 := by push_cast; ring_nf

/-- A valid date: a month of twelve and a day within the month. -/
def ValidDate (y : Int) (m d : Nat) : Prop :=
  1 ≤ m ∧ m ≤ 12 ∧ 1 ≤ d ∧ d ≤ daysInMonth y m

theorem daysInMonth_le (y : Int) (m : Nat) : daysInMonth y m ≤ 31 := by
  unfold daysInMonth; split_ifs <;> omega

/-- A valid date's day count lies between the first day of its month and the first day of the
next year. -/
theorem daysFromCivil_within_year {y : Int} {m d : Nat} (hv : ValidDate y m d) :
    daysFromCivil y m 1 ≤ daysFromCivil y m d ∧ daysFromCivil y m d < daysFromCivil (y + 1) 1 1 := by
  obtain ⟨hm1, hm12, hd1, hdm⟩ := hv
  refine ⟨by rw [daysFromCivil_day y m d hd1]; omega, ?_⟩
  rcases Nat.lt_or_ge m 12 with hm | hm
  · calc daysFromCivil y m d < daysFromCivil y (m + 1) 1 := daysFromCivil_next_month y ⟨hm1, hm⟩ hdm
      _ ≤ daysFromCivil y 12 1 := daysFromCivil_month_start_mono y (by omega) (by omega) le_rfl
      _ < daysFromCivil (y + 1) 1 1 := daysFromCivil_next_year y (by omega)
  · obtain rfl : m = 12 := by omega
    exact daysFromCivil_next_year y (le_trans hdm (daysInMonth_le y 12))

theorem daysFromCivil_lt_of_lt {y y' : Int} {m m' d d' : Nat} (hv : ValidDate y m d)
    (hv' : ValidDate y' m' d') (h : y < y' ∨ (y = y' ∧ (m < m' ∨ (m = m' ∧ d < d')))) :
    daysFromCivil y m d < daysFromCivil y' m' d' := by
  have hw := daysFromCivil_within_year hv
  have hw' := daysFromCivil_within_year hv'
  obtain ⟨hm1, hm12, hd1, hdm⟩ := hv
  obtain ⟨hm1', hm12', hd1', hdm'⟩ := hv'
  rcases h with hy | ⟨rfl, hm | ⟨rfl, hd⟩⟩
  · calc daysFromCivil y m d < daysFromCivil (y + 1) 1 1 := hw.2
      _ ≤ daysFromCivil y' 1 1 := daysFromCivil_year_start_mono (by omega)
      _ ≤ daysFromCivil y' m' 1 := daysFromCivil_month_start_mono y' le_rfl hm1' hm12'
      _ ≤ daysFromCivil y' m' d' := hw'.1
  · calc daysFromCivil y m d < daysFromCivil y (m + 1) 1 :=
          daysFromCivil_next_month y ⟨hm1, by omega⟩ hdm
      _ ≤ daysFromCivil y m' 1 := daysFromCivil_month_start_mono y (by omega) hm hm12'
      _ ≤ daysFromCivil y m' d' := hw'.1
  · rw [daysFromCivil_day y m d hd1, daysFromCivil_day y m d' hd1']
    omega

end Calendar

/-! ## The number a stored text spells -/

namespace Instant

/-- The date of an instant as one number, `year * 10000 + month * 100 + day`. -/
def dateNumber (t : Instant) : Int := t.civil.year * 10000 + (t.civil.month * 100 + t.civil.day : Nat)

/-- The time of day of an instant to the microsecond as one number, its clock fields side by
side: `hhmmssffffff`. -/
def clockNumber (t : Instant) : Nat :=
  ((t.civil.hour * 100 + t.civil.minute) * 100 + t.civil.second) * 1000000 + t.civil.nanos / 1000

/-- The digits of the stored text with the separators left out. -/
def stampNumber (t : Instant) : Int := t.dateNumber * 1000000000000 + t.clockNumber

theorem civil_bounds (t : Instant) : t.civil.hour < 24 ∧ t.civil.minute < 60 ∧
    t.civil.second ≤ 60 ∧ t.civil.nanos / 1000 < 1000000 := by
  rw [civil_hour, civil_minute, civil_second, civil_nanos]
  refine ⟨by omega, by omega, by split_ifs <;> omega, by omega⟩

theorem clockNumber_lt (t : Instant) : t.clockNumber < 1000000000000 := by
  have := civil_bounds t
  unfold clockNumber; omega

theorem dateNumber_lt {a b : Instant} (h : a.seconds / 86400 < b.seconds / 86400) :
    a.dateNumber < b.dateNumber := by
  obtain ⟨ha1, ha12, had1, hadm⟩ := a.civil_valid
  obtain ⟨hb1, hb12, hbd1, hbdm⟩ := b.civil_valid
  by_contra hle
  have hlex : b.civil.year < a.civil.year ∨ (b.civil.year = a.civil.year ∧
      (b.civil.month < a.civil.month ∨ (b.civil.month = a.civil.month ∧
        b.civil.day ≤ a.civil.day))) := by
    have := daysInMonth_le a.civil.year a.civil.month
    have := daysInMonth_le b.civil.year b.civil.month
    unfold dateNumber at hle; omega
  have hdays : daysFromCivil b.civil.year b.civil.month b.civil.day ≤
      daysFromCivil a.civil.year a.civil.month a.civil.day := by
    rcases hlex with hy | ⟨hy, hm | ⟨hm, hd⟩⟩
    · exact (daysFromCivil_lt_of_lt ⟨hb1, hb12, hbd1, hbdm⟩ ⟨ha1, ha12, had1, hadm⟩ (.inl hy)).le
    · exact (daysFromCivil_lt_of_lt ⟨hb1, hb12, hbd1, hbdm⟩ ⟨ha1, ha12, had1, hadm⟩
        (.inr ⟨hy, .inl hm⟩)).le
    · rcases Nat.lt_or_ge b.civil.day a.civil.day with hd' | hd'
      · exact (daysFromCivil_lt_of_lt ⟨hb1, hb12, hbd1, hbdm⟩ ⟨ha1, ha12, had1, hadm⟩
          (.inr ⟨hy, .inr ⟨hm, hd'⟩⟩)).le
      · rw [hy, hm, show b.civil.day = a.civil.day by omega]
  rw [daysFromCivil_civil, daysFromCivil_civil] at hdays
  omega

theorem dateNumber_eq {a b : Instant} (h : a.seconds / 86400 = b.seconds / 86400) :
    a.dateNumber = b.dateNumber := by
  have ha := civil_date a
  have hb := civil_date b
  rw [h, ← hb] at ha
  simp only [Prod.mk.injEq] at ha
  unfold dateNumber
  rw [ha.1, ha.2.1, ha.2.2]

/-- Within one day the clock grows with time: with the second of the day, and within a second
with the microseconds, a leap second following second 59 of its minute. -/
theorem clockNumber_lt_of_lt {a b : Instant}
    (ha : 1000000000 ≤ a.nanos → a.seconds % 60 = 59)
    (hday : a.seconds / 86400 = b.seconds / 86400)
    (h : a.seconds < b.seconds ∨ (a.seconds = b.seconds ∧ a.nanos / 1000 < b.nanos / 1000)) :
    a.clockNumber < b.clockNumber := by
  have hna := a.nanos_lt
  have hnb := b.nanos_lt
  unfold clockNumber
  rw [civil_hour, civil_minute, civil_second, civil_nanos, civil_hour, civil_minute,
    civil_second, civil_nanos]
  split_ifs <;> omega

theorem clockNumber_eq {a b : Instant} (h : a.seconds = b.seconds ∧ a.nanos / 1000 = b.nanos / 1000) :
    a.clockNumber = b.clockNumber := by
  have hna := a.nanos_lt
  have hnb := b.nanos_lt
  unfold clockNumber
  rw [civil_hour, civil_minute, civil_second, civil_nanos, civil_hour, civil_minute,
    civil_second, civil_nanos]
  split_ifs <;> omega

/-- The number of the stored text grows with time to the microsecond, the leap second included
where it follows second 59. -/
theorem stampNumber_lt_iff {a b : Instant}
    (ha : 1000000000 ≤ a.nanos → a.seconds % 60 = 59)
    (hb : 1000000000 ≤ b.nanos → b.seconds % 60 = 59) :
    a.stampNumber < b.stampNumber ↔
      a.seconds < b.seconds ∨ (a.seconds = b.seconds ∧ a.nanos / 1000 < b.nanos / 1000) := by
  have hca := clockNumber_lt a
  have hcb := clockNumber_lt b
  have mono : ∀ {x y : Instant}, (1000000000 ≤ x.nanos → x.seconds % 60 = 59) →
      (x.seconds < y.seconds ∨ (x.seconds = y.seconds ∧ x.nanos / 1000 < y.nanos / 1000)) →
      x.stampNumber < y.stampNumber := by
    intro x y hx hxy
    have := clockNumber_lt x
    unfold stampNumber
    rcases Int.lt_or_le (x.seconds / 86400) (y.seconds / 86400) with hd | hd
    · have := dateNumber_lt hd
      nlinarith
    · have hday : x.seconds / 86400 = y.seconds / 86400 := by
        have : x.seconds / 86400 ≤ y.seconds / 86400 := Int.ediv_le_ediv (by decide) (by omega)
        omega
      rw [dateNumber_eq hday]
      have := clockNumber_lt_of_lt hx hday hxy
      omega
  constructor
  · intro h
    by_contra hn
    rcases lt_or_eq_of_le (show b.seconds ≤ a.seconds by omega) with hs | hs
    · have := mono hb (.inl hs); omega
    · rcases Nat.lt_or_ge (b.nanos / 1000) (a.nanos / 1000) with hn' | hn'
      · have := mono hb (.inr ⟨hs, hn'⟩); omega
      · have hday : a.seconds / 86400 = b.seconds / 86400 := by rw [hs]
        have := dateNumber_eq hday
        have := clockNumber_eq ⟨hs.symm, by omega⟩
        unfold stampNumber at h; omega
  · exact mono ha

end Instant

/-! ## The stored text -/

namespace Instant

theorem toStoredText_toList_of_fourDigits {t : Instant} (hy : 0 ≤ t.civil.year ∧ t.civil.year ≤ 9999) :
    t.toStoredText.toList =
      paddedDigits t.civil.year.toNat 4 ++ '-' :: (paddedDigits t.civil.month 2 ++ '-' ::
        (paddedDigits t.civil.day 2 ++ 'T' :: (paddedDigits t.civil.hour 2 ++ ':' ::
          (paddedDigits t.civil.minute 2 ++ ':' :: (paddedDigits t.civil.second 2 ++ '.' ::
            (paddedDigits (t.civil.nanos / 1000) 6 ++ ['Z'])))))) := by
  rw [toStoredText_toList, yearText_toList, if_pos hy]

theorem toStoredText_lt_iff {a b : Instant} (hya : 0 ≤ a.civil.year ∧ a.civil.year ≤ 9999)
    (hyb : 0 ≤ b.civil.year ∧ b.civil.year ≤ 9999) :
    a.toStoredText < b.toStoredText ↔ a.stampNumber < b.stampNumber := by
  obtain ⟨ha1, ha12, had1, hadm⟩ := a.civil_valid
  obtain ⟨hb1, hb12, hbd1, hbdm⟩ := b.civil_valid
  have hda := daysInMonth_le a.civil.year a.civil.month
  have hdb := daysInMonth_le b.civil.year b.civil.month
  obtain ⟨hah, ham, has, hau⟩ := civil_bounds a
  obtain ⟨hbh, hbm, hbs, hbu⟩ := civil_bounds b
  have two : ∀ {n : Nat}, n < 100 → n < 10 ^ 2 := fun h => by norm_num; exact h
  rw [String.lt_iff_toList_lt, toStoredText_toList_of_fourDigits hya,
    toStoredText_toList_of_fourDigits hyb,
    paddedDigits_append_lt_iff (by decide) (by norm_num; omega) (by norm_num; omega),
    cons_lt_cons_self, paddedDigits_append_lt_iff (by decide) (two (by omega)) (two (by omega)),
    cons_lt_cons_self, paddedDigits_append_lt_iff (by decide) (two (by omega)) (two (by omega)),
    cons_lt_cons_self, paddedDigits_append_lt_iff (by decide) (two (by omega)) (two (by omega)),
    cons_lt_cons_self, paddedDigits_append_lt_iff (by decide) (two (by omega)) (two (by omega)),
    cons_lt_cons_self, paddedDigits_append_lt_iff (by decide) (two (by omega)) (two (by omega)),
    cons_lt_cons_self, paddedDigits_append_lt_iff (by decide) (by norm_num; omega)
      (by norm_num; omega)]
  simp only [lt_self_iff_false, and_false, or_false]
  unfold stampNumber dateNumber clockNumber
  omega

theorem truncMicros_seconds (t : Instant) : t.truncMicros.seconds = t.seconds := rfl

theorem truncMicros_nanos (t : Instant) : t.truncMicros.nanos = t.nanos / 1000 * 1000 := rfl

theorem toStoredText_truncMicros (t : Instant) : t.truncMicros.toStoredText = t.toStoredText := by
  have hn := t.nanos_lt
  have hleap : (1000000000 ≤ t.nanos / 1000 * 1000) = (1000000000 ≤ t.nanos) :=
    propext (by omega)
  have hmicro : t.nanos / 1000 * 1000 % 1000000000 / 1000 = t.nanos % 1000000000 / 1000 := by
    omega
  simp only [toStoredText, civil, truncMicros, hleap, hmicro]
  rfl

theorem Representable.truncMicros {t : Instant} (ht : t.Representable) : t.truncMicros.Representable := by
  obtain ⟨hyear, hleap⟩ := ht
  have hn := t.nanos_lt
  refine ⟨?_, fun h => hleap (by rw [truncMicros_nanos] at h; omega)⟩
  have hc : t.truncMicros.civil.year = t.civil.year := by
    have h1 := civil_date t.truncMicros
    have h2 := civil_date t
    rw [truncMicros_seconds, ← h2] at h1
    exact (Prod.mk.inj h1).1
  rw [hc]; exact hyear

/-- The stored text of an instant the calendar can write reads back as the instant cut to the
microsecond. -/
theorem readInstantText_toStoredText_eq {t : Instant} (ht : t.Representable) :
    readInstantText t.toStoredText = .ok t.truncMicros := by
  rw [← toStoredText_truncMicros]
  exact readInstantText_toStoredText ht.truncMicros (by rw [truncMicros_nanos]; omega)

theorem truncMicros_lt_iff {a b : Instant} : a.truncMicros.lt b.truncMicros = true ↔
    a.seconds < b.seconds ∨ (a.seconds = b.seconds ∧ a.nanos / 1000 < b.nanos / 1000) := by
  rw [lt_iff, truncMicros_seconds, truncMicros_seconds, truncMicros_nanos, truncMicros_nanos]
  omega

end Instant

/-- While both years take four digits, stored texts sort as time to the microsecond; in every
year the calendar can write, the stored text reads back as the instant cut to the microsecond. -/
theorem storedText_order_and_read_back (a b : Instant) (ha : a.Representable)
    (hb : b.Representable) :
    ((0 ≤ a.civil.year ∧ a.civil.year ≤ 9999) → (0 ≤ b.civil.year ∧ b.civil.year ≤ 9999) →
        (a.toStoredText < b.toStoredText ↔ a.truncMicros.lt b.truncMicros = true)) ∧
      readInstantText a.toStoredText = .ok a.truncMicros ∧
      readInstantText b.toStoredText = .ok b.truncMicros := by
  refine ⟨fun hya hyb => ?_, Instant.readInstantText_toStoredText_eq ha,
    Instant.readInstantText_toStoredText_eq hb⟩
  rw [Instant.toStoredText_lt_iff hya hyb, Instant.stampNumber_lt_iff ha.2 hb.2,
    Instant.truncMicros_lt_iff]

/-- The last day of year 9999 and the first day of year 10000. -/
def lastDayOf9999 : Instant := Instant.epoch.addSeconds 253402214400

def firstDayOf10000 : Instant := Instant.epoch.addSeconds 253402300800

/-- Past year 9999 the stored text no longer sorts as time: the last day of 9999 and the first
day of 10000 are instants the calendar can write, at whole seconds, and the later one's text,
written with a plus sign that sorts before the digits, comes first. -/
theorem storedText_past_9999_sorts_first :
    lastDayOf9999.Representable ∧ firstDayOf10000.Representable ∧
      firstDayOf10000.toStoredText < lastDayOf9999.toStoredText ∧
      lastDayOf9999.truncMicros.lt firstDayOf10000.truncMicros = true := by
  refine ⟨by unfold Instant.Representable; decide, by unfold Instant.Representable; decide, ?_,
    by decide⟩
  rw [String.lt_iff_toList_lt]
  decide

/-- The order of stored texts at two instants of the years 2023 and 2024. -/
theorem storedText_order_and_read_back_at_2024 :
    let a : Instant := ⟨1703980800, 5000, by decide⟩
    let b : Instant := ⟨1704067200, 0, by decide⟩
    a.Representable ∧ b.Representable ∧ (0 ≤ a.civil.year ∧ a.civil.year ≤ 9999) ∧
      (0 ≤ b.civil.year ∧ b.civil.year ≤ 9999) ∧
      (a.toStoredText < b.toStoredText ↔ a.truncMicros.lt b.truncMicros = true) ∧
      readInstantText a.toStoredText = .ok a.truncMicros ∧
      readInstantText b.toStoredText = .ok b.truncMicros := by
  intro a b
  have ha : a.Representable := by unfold Instant.Representable; decide
  have hb : b.Representable := by unfold Instant.Representable; decide
  have hya : 0 ≤ a.civil.year ∧ a.civil.year ≤ 9999 := by decide
  have hyb : 0 ≤ b.civil.year ∧ b.civil.year ≤ 9999 := by decide
  have h := storedText_order_and_read_back a b ha hb
  exact ⟨ha, hb, hya, hyb, h.1 hya hyb, h.2⟩

end ForexJournal
