import Mathlib
import ForexJournal.Proofs.History

/-!
# The civil calendar

`civilFromDays` and `daysFromCivil` count days in eras of 400 Gregorian years, 146097 days,
each starting on 1 March of a year divisible by 400; a year counted from March ends with the
leap day, so the year's length is settled by its last month. Within an era the day `doe` falls
in the year `yearOfEra doe`, which starts on day `yearStart` of the era, and within that year in
the month starting on day `monthStart` of the year.

The year of a day is checked at the 400 year boundaries of an era, and the formula is monotone
in between, so every day lies in the year the formula names (`yearOfEra_spec`). Main
statements: the date of a day count is a valid date (`Instant.civil_valid`), counting the days
back from it gives the day count (`Instant.daysFromCivil_civil`), and an instant is rebuilt from
its date, time of day and fraction (`Instant.ofCivilLeap_civil`).
-/

namespace ForexJournal

namespace Calendar

/-- The year of an era, counted from 1 March, holding its day `doe`. -/
def yearOfEra (doe : Int) : Int := (doe - doe / 1460 + doe / 36524 - doe / 146096) / 365

def yearStart (y : Int) : Int := 365 * y + y / 4 - y / 100

/-- The first day after the year `y` of an era: the next year's start, and after the last year
the end of the era. -/
def yearEnd (y : Int) : Int := if y = 399 then 146097 else yearStart (y + 1)

/-- The first day of month `mp` of a year counted from March (0 for March, 11 for February). -/
def monthStart (mp : Int) : Int := (153 * mp + 2) / 5

/-- The date of day `doe` of era `era`, as `civilFromDays` computes it. -/
def dateOfEra (era doe : Int) : Int × Nat × Nat :=
  let yoe := yearOfEra doe
  let doy := doe - yearStart yoe
  let mp := (5 * doy + 2) / 153
  let d := doy - monthStart mp + 1
  let m := if mp < 10 then mp + 3 else mp - 9
  (if m ≤ 2 then yoe + era * 400 + 1 else yoe + era * 400, m.toNat, d.toNat)

theorem civilFromDays_eq (days : Int) :
    civilFromDays days = dateOfEra ((days + 719468) / 146097)
      (days + 719468 - (days + 719468) / 146097 * 146097) := rfl

theorem yearOfEra_succ_ge (a : Int) (h0 : 0 ≤ a) (h1 : a < 146096) :
    yearOfEra a ≤ yearOfEra (a + 1) := by
  unfold yearOfEra; omega

theorem yearOfEra_mono {a b : Int} (h0 : 0 ≤ a) (hab : a ≤ b) (hb : b ≤ 146096) :
    yearOfEra a ≤ yearOfEra b := by
  obtain ⟨n, rfl⟩ : ∃ n : Nat, b = a + n := ⟨(b - a).toNat, by omega⟩
  induction n with
  | zero => simp
  | succ n ih =>
    calc yearOfEra a ≤ yearOfEra (a + n) := ih (by omega) (by omega)
      _ ≤ yearOfEra (a + n + 1) := yearOfEra_succ_ge _ (by omega) (by omega)
      _ = yearOfEra (a + (n + 1 : Nat)) := by push_cast; ring_nf

theorem yearOfEra_at_bounds : ∀ y : Fin 400,
    yearOfEra (yearStart y) = y ∧ yearOfEra (yearEnd y - 1) = y := by
  decide +kernel

/-- Every day of an era lies in the year `yearOfEra` names. -/
theorem yearOfEra_spec (doe : Int) (h0 : 0 ≤ doe) (h1 : doe ≤ 146096) :
    0 ≤ yearOfEra doe ∧ yearOfEra doe ≤ 399 ∧ yearStart (yearOfEra doe) ≤ doe ∧
      doe < yearEnd (yearOfEra doe) := by
  have hlo : 0 ≤ yearOfEra doe := by unfold yearOfEra; omega
  have hhi : yearOfEra doe ≤ 399 := by unfold yearOfEra; omega
  set y := yearOfEra doe with hy
  refine ⟨hlo, hhi, ?_, ?_⟩
  · by_contra hlt
    have hy0 : 1 ≤ y := by
      by_contra h0'
      have : y = 0 := by omega
      rw [this] at hlt; simp [yearStart] at hlt; omega
    have hprev := (yearOfEra_at_bounds ⟨(y - 1).toNat, by omega⟩).2
    have hcast : (((⟨(y - 1).toNat, by omega⟩ : Fin 400) : Nat) : Int) = y - 1 := by simp; omega
    rw [hcast] at hprev
    have hend : yearEnd (y - 1) = yearStart y := by
      unfold yearEnd; rw [if_neg (by omega)]; ring_nf
    have := yearOfEra_mono h0 (show doe ≤ yearEnd (y - 1) - 1 by omega)
      (by unfold yearEnd yearStart at *; split_ifs <;> omega)
    omega
  · by_contra hge
    have hy1 : y < 399 := by
      by_contra h'
      have : y = 399 := by omega
      rw [this] at hge; simp [yearEnd] at hge; omega
    have hnext := (yearOfEra_at_bounds ⟨(y + 1).toNat, by omega⟩).1
    have hcast : (((⟨(y + 1).toNat, by omega⟩ : Fin 400) : Nat) : Int) = y + 1 := by simp; omega
    rw [hcast] at hnext
    have hend : yearEnd y = yearStart (y + 1) := by unfold yearEnd; rw [if_neg (by omega)]
    have := yearOfEra_mono (show 0 ≤ yearStart (y + 1) by unfold yearStart; omega)
      (show yearStart (y + 1) ≤ doe by omega) h1
    omega

/-- Within a year counted from March, a day falls in a month whose first day is not after it
and whose next month starts after it. -/
theorem monthStart_spec (doy : Int) (h0 : 0 ≤ doy) (h1 : doy ≤ 365) :
    0 ≤ (5 * doy + 2) / 153 ∧ (5 * doy + 2) / 153 ≤ 11 ∧
      monthStart ((5 * doy + 2) / 153) ≤ doy ∧ doy < monthStart ((5 * doy + 2) / 153 + 1) := by
  unfold monthStart; omega

theorem isLeapYear_iff (y : Int) : isLeapYear y = true ↔ 4 ∣ y ∧ ¬ 100 ∣ y ∨ 400 ∣ y := by
  simp [isLeapYear]

/-- The date of a day of an era is a valid date: the month is one of twelve and the day lies
within the month, 29 February only in a leap year. -/
theorem dateOfEra_valid (era doe : Int) (h0 : 0 ≤ doe) (h1 : doe ≤ 146096) :
    1 ≤ (dateOfEra era doe).2.1 ∧ (dateOfEra era doe).2.1 ≤ 12 ∧ 1 ≤ (dateOfEra era doe).2.2 ∧
      (dateOfEra era doe).2.2 ≤ daysInMonth (dateOfEra era doe).1 (dateOfEra era doe).2.1 := by
  obtain ⟨hy0, hy1, hys, hye⟩ := yearOfEra_spec doe h0 h1
  simp only [dateOfEra]
  generalize yearOfEra doe = yoe at *
  have hdoy : 0 ≤ doe - yearStart yoe ∧ doe - yearStart yoe ≤ 365 := by
    unfold yearEnd yearStart at *; split_ifs at hye <;> omega
  have hleap : doe - yearStart yoe = 365 → isLeapYear (yoe + era * 400 + 1) = true := by
    intro h365
    rw [isLeapYear_iff]
    unfold yearEnd yearStart at *
    split_ifs at hye with h399
    · right; omega
    · have hq4 : yoe / 4 ≤ (yoe + 1) / 4 ∧ (yoe + 1) / 4 ≤ yoe / 4 + 1 := by omega
      have hq100 : yoe / 100 ≤ (yoe + 1) / 100 ∧ (yoe + 1) / 100 ≤ yoe / 100 + 1 := by omega
      have hstep : (yoe + 1) / 4 = yoe / 4 + 1 ∧ (yoe + 1) / 100 = yoe / 100 := by omega
      have h4 : (yoe + 1) % 4 = 0 := by omega
      have h100 : (yoe + 1) % 100 ≠ 0 := by omega
      left; constructor <;> omega
  obtain ⟨hm0, hm1, hms, hme⟩ := monthStart_spec _ hdoy.1 hdoy.2
  generalize doe - yearStart yoe = doy at *
  generalize (5 * doy + 2) / 153 = mp at *
  unfold monthStart at *
  obtain ⟨k, rfl⟩ : ∃ k : Nat, mp = k := ⟨mp.toNat, by omega⟩
  have hk12 : k < 12 := by omega
  unfold daysInMonth
  interval_cases k
  case «11» =>
    by_cases h365 : doy = 365
    · simp [hleap h365]; omega
    · simp; split_ifs <;> omega
  all_goals simp; omega

theorem daysFromCivil_dateOfEra (era doe : Int) (h0 : 0 ≤ doe) (h1 : doe ≤ 146096) :
    daysFromCivil (dateOfEra era doe).1 (dateOfEra era doe).2.1 (dateOfEra era doe).2.2 =
      era * 146097 + doe - 719468 := by
  obtain ⟨hy0, hy1, hys, hye⟩ := yearOfEra_spec doe h0 h1
  have hdoy : 0 ≤ doe - yearStart (yearOfEra doe) ∧ doe - yearStart (yearOfEra doe) ≤ 365 := by
    unfold yearEnd yearStart at *; split_ifs at hye <;> omega
  obtain ⟨hm0, hm1, hms, hme⟩ := monthStart_spec _ hdoy.1 hdoy.2
  simp only [dateOfEra, daysFromCivil]
  obtain ⟨yoe, hyoe⟩ : ∃ y, yearOfEra doe = y := ⟨_, rfl⟩
  obtain ⟨mp, hmp⟩ : ∃ k, (5 * (doe - yearStart yoe) + 2) / 153 = k := ⟨_, rfl⟩
  simp only [hyoe] at *
  simp only [hmp] at *
  unfold yearStart monthStart at *
  have hera : (yoe + era * 400) / 400 = era := by omega
  by_cases hm : mp < 10
  · have hm1 : ¬ (mp + 3).toNat ≤ 2 := by omega
    have hm2 : ¬ mp + 3 ≤ 2 := by omega
    have hm3 : (mp + 3).toNat > 2 := by omega
    simp only [hm, hm1, hm2, hm3, if_true, if_false, hera, add_sub_cancel_right]
    omega
  · have hm1 : (mp - 9).toNat ≤ 2 := by omega
    have hm2 : mp - 9 ≤ 2 := by omega
    have hm3 : ¬ (mp - 9).toNat > 2 := by omega
    simp only [hm, hm1, hm2, hm3, if_true, if_false, add_sub_cancel_right, hera]
    omega

end Calendar

namespace Instant

theorem civil_date (t : Instant) :
    (t.civil.year, t.civil.month, t.civil.day) = civilFromDays (t.seconds / 86400) := by
  rfl

theorem civil_hour (t : Instant) : t.civil.hour = (t.seconds % 86400).toNat / 3600 := rfl

theorem civil_minute (t : Instant) : t.civil.minute = (t.seconds % 86400).toNat % 3600 / 60 := rfl

theorem civil_second (t : Instant) :
    t.civil.second = (t.seconds % 86400).toNat % 60 + (if 1000000000 ≤ t.nanos then 1 else 0) :=
  rfl

theorem civil_nanos (t : Instant) : t.civil.nanos = t.nanos % 1000000000 := rfl

/-- The date of an instant is a valid date. -/
theorem civil_valid (t : Instant) : 1 ≤ t.civil.month ∧ t.civil.month ≤ 12 ∧ 1 ≤ t.civil.day ∧
    t.civil.day ≤ daysInMonth t.civil.year t.civil.month := by
  have h := Calendar.dateOfEra_valid ((t.seconds / 86400 + 719468) / 146097)
    (t.seconds / 86400 + 719468 - (t.seconds / 86400 + 719468) / 146097 * 146097) (by omega)
    (by omega)
  rw [← Calendar.civilFromDays_eq, ← civil_date] at h
  exact h

/-- The date of an instant counts back to the instant's day. -/
theorem daysFromCivil_civil (t : Instant) :
    daysFromCivil t.civil.year t.civil.month t.civil.day = t.seconds / 86400 := by
  have h := Calendar.daysFromCivil_dateOfEra ((t.seconds / 86400 + 719468) / 146097)
    (t.seconds / 86400 + 719468 - (t.seconds / 86400 + 719468) / 146097 * 146097) (by omega)
    (by omega)
  rw [← Calendar.civilFromDays_eq, ← civil_date] at h
  rw [h]; ring

/-- An instant is rebuilt from its date, time of day and fraction, a leap second from second 60,
when its leap seconds follow second 59. -/
theorem ofCivilLeap_civil (t : Instant) (hleap : 1000000000 ≤ t.nanos → t.seconds % 60 = 59)
    (h : t.civil.nanos < 1000000000) :
    ofCivilLeap t.civil.year t.civil.month t.civil.day t.civil.hour t.civil.minute t.civil.second
      t.civil.nanos h = t := by
  have hdays := daysFromCivil_civil t
  have hn := t.nanos_lt
  have hcn := civil_nanos t
  rw [civil_hour, civil_minute, civil_second]
  unfold ofCivilLeap ofCivil
  split_ifs with h60 hl hl
  · rw [eq_iff]; simp only [hdays]; constructor <;> omega
  · omega
  · omega
  · rw [eq_iff]; simp only [hdays]; constructor <;> omega

end Instant

end ForexJournal
