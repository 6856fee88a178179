import Courier.Timestamp.Basic
import Mathlib.Data.Nat.Notation
import Mathlib.Order.Monotone.Basic

/-!
# The calendar

Every day number has a date of the calendar (`exists_dateOfDays`), and the date has that day number
(`daysOfDate_dateOfDays`).

The years are counted from March on in eras of four hundred. Within an era the year of a day is
computed by one division, which is right at the first and at the last day of each year
(`yearOfEra_firstDay`, `yearOfEra_lastDay`) and hence, as it grows with the day, in between
(`exists_dayOfYear`).
-/

set_option autoImplicit false
set_option relaxedAutoImplicit false

namespace Courier.Timestamp

/-! ### Years of an era -/

/-- The year of a day of an era, both counted from zero. -/
def yearOfEra (day : ℕ) : ℕ := (day - day / 1460 + day / 36524 - day / 146096) / 365

/-- The first day of a year of an era. -/
def firstDay (year : ℕ) : ℕ := 365 * year + year / 4 - year / 100

/-- The last day of a year of an era. -/
def lastDay (year : ℕ) : ℕ := if year = 399 then 146096 else firstDay (year + 1) - 1

theorem yearOfEra_mono : Monotone yearOfEra :=
  monotone_nat_of_le_succ fun day ↦ by unfold yearOfEra; omega

theorem yearOfEra_firstDay : ∀ year < 400, yearOfEra (firstDay year) = year := by
  decide +kernel

theorem yearOfEra_lastDay : ∀ year < 400, yearOfEra (lastDay year) = year := by
  decide +kernel

theorem isLeapYear_iff (year : ℤ) :
    isLeapYear year = true ↔ year % 4 = 0 ∧ (year % 100 ≠ 0 ∨ year % 400 = 0) := by
  simp [isLeapYear]

/-- A day of an era is the 366th of its year at most, and then the leap day before March. -/
theorem exists_dayOfYear {day : ℕ} (hday : day < 146097) :
    ∃ d : ℕ, yearOfEra day < 400 ∧ day = firstDay (yearOfEra day) + d ∧ d ≤ 365 ∧
      (d = 365 → isLeapYear (yearOfEra day + 1 : ℕ)) := by
  generalize hyear : yearOfEra day = year
  have hera : year < 400 := by
    have hlast : yearOfEra day ≤ yearOfEra 146096 := yearOfEra_mono (by omega)
    have heq : yearOfEra 146096 = 399 := by decide
    omega
  have hfirst : firstDay year ≤ day := by
    by_contra hlt
    obtain ⟨before, rfl⟩ : ∃ before, year = before + 1 :=
      Nat.exists_eq_succ_of_ne_zero fun hzero ↦ by subst hzero; exact hlt day.zero_le
    have hle : yearOfEra day ≤ yearOfEra (lastDay before) :=
      yearOfEra_mono (by rw [lastDay, if_neg (by omega)]; omega)
    rw [yearOfEra_lastDay before (by omega)] at hle
    omega
  have hlast : day ≤ lastDay year := by
    by_contra hlt
    rw [lastDay] at hlt
    split_ifs at hlt with hend
    · omega
    · have hle : yearOfEra (firstDay (year + 1)) ≤ yearOfEra day := yearOfEra_mono (by omega)
      rw [yearOfEra_firstDay (year + 1) (by omega)] at hle
      omega
  refine ⟨day - firstDay year, hera, by omega, ?_, ?_⟩
  · unfold lastDay firstDay at *
    split_ifs at hlast <;> omega
  · intro hleap
    have hfour : (year + 1) % 4 = 0 ∧ (year + 1) / 4 = year / 4 + 1 ∨
        (year + 1) / 4 = year / 4 := by omega
    have hhundred : (year + 1) % 100 = 0 ∧ (year + 1) / 100 = year / 100 + 1 ∨
        (year + 1) % 100 ≠ 0 ∧ (year + 1) / 100 = year / 100 := by omega
    rw [isLeapYear_iff]
    unfold lastDay firstDay at *
    split_ifs at hlast <;> omega

/-! ### Months -/

/-- The month of a day of a year that begins in March, January and February counting as the eleventh
and the twelfth, all from zero. -/
def monthOfYear (d : ℕ) : ℕ := (5 * d + 2) / 153

/-- The day of its month, from one. -/
def dayOfMonth (d : ℕ) : ℕ := d - (153 * monthOfYear d + 2) / 5 + 1

theorem monthOfYear_le {d : ℕ} (hd : d ≤ 365) :
    monthOfYear d ≤ 11 ∧ (153 * monthOfYear d + 2) / 5 ≤ d := by
  unfold monthOfYear
  omega

/-- The month by its number in the calendar. -/
def civilMonth (d : ℕ) : ℕ := if monthOfYear d < 10 then monthOfYear d + 3 else monthOfYear d - 9

/-- No month has more days than it has in the calendar. -/
theorem dayOfMonth_le : ∀ d ≤ 365, ∀ year : ℤ, (d = 365 → isLeapYear year = true) →
    1 ≤ dayOfMonth d ∧ dayOfMonth d ≤ daysInMonth year (civilMonth d) := by
  have hcommon : ∀ d ≤ 364, 1 ≤ dayOfMonth d ∧ dayOfMonth d ≤ daysInMonth 1 (civilMonth d) := by
    decide +kernel
  intro d hd year hleap
  obtain rfl | hd : d = 365 ∨ d ≤ 364 := by omega
  · have hfebruary : civilMonth 365 = 2 ∧ dayOfMonth 365 = 29 := by decide
    rw [hfebruary.1, hfebruary.2, daysInMonth, if_pos rfl, if_pos (hleap rfl)]
    decide
  · obtain ⟨hpos, hle⟩ := hcommon d hd
    have hone : isLeapYear 1 = false := by decide
    refine ⟨hpos, hle.trans ?_⟩
    simp only [daysInMonth, hone, Bool.false_eq_true, if_false]
    split_ifs <;> omega

/-- There are twelve months, of at most 31 days. -/
theorem daysInMonth_bounds {year : ℤ} {month : ℕ} (h : 0 < daysInMonth year month) :
    month ≤ 12 ∧ daysInMonth year month ≤ 31 := by
  unfold daysInMonth at *
  split_ifs at * <;> omega

/-! ### Dates -/

/-- The date of a day number, and the number that it is made of. -/
theorem exists_dateOfDays (days : ℤ) :
    ∃ (era : ℤ) (year d : ℕ), year < 400 ∧ d ≤ 365 ∧ (d = 365 → isLeapYear (year + 1 : ℕ)) ∧
      days = era * 146097 + firstDay year + d - 719468 ∧
      dateOfDays days =
        ⟨year + era * 400 + (if civilMonth d ≤ 2 then 1 else 0), civilMonth d, dayOfMonth d⟩ := by
  have hera : (days + 719468).fdiv 146097 = (days + 719468) / 146097 :=
    Int.fdiv_eq_ediv_of_nonneg _ (by decide)
  obtain ⟨day, hday⟩ : ∃ day : ℕ,
      days + 719468 - (days + 719468) / 146097 * 146097 = day :=
    Int.eq_ofNat_of_zero_le (by omega)
  have hlt : day < 146097 := by omega
  obtain ⟨d, hyear, heq, hd, hleap⟩ := exists_dayOfYear hlt
  refine ⟨(days + 719468) / 146097, yearOfEra day, d, hyear, hd, hleap, by omega, ?_⟩
  have hyear' : ((day : ℤ) - day / 1460 + day / 36524 - day / 146096) / 365 = yearOfEra day := by
    unfold yearOfEra
    omega
  have hd' : (day : ℤ) - (365 * (yearOfEra day : ℤ) + yearOfEra day / 4 - yearOfEra day / 100) =
      d := by
    unfold firstDay at heq
    omega
  have hmonth : (5 * (d : ℤ) + 2) / 153 = monthOfYear d := by
    unfold monthOfYear
    omega
  obtain ⟨hmonths, hbefore⟩ := monthOfYear_le hd
  have hcivil : (if (monthOfYear d : ℤ) < 10 then (monthOfYear d : ℤ) + 3 else monthOfYear d - 9) =
      civilMonth d := by
    unfold civilMonth
    split_ifs <;> omega
  have hmonthDay : (d : ℤ) - (153 * (monthOfYear d : ℤ) + 2) / 5 + 1 = dayOfMonth d := by
    unfold dayOfMonth
    omega
  have htwo : (civilMonth d : ℤ) ≤ 2 ↔ civilMonth d ≤ 2 := by omega
  simp only [dateOfDays, hera, hday, hyear', hd', hmonth, hcivil, hmonthDay, htwo,
    Int.toNat_natCast]

/-- The date of a day number is a day of the calendar. -/
theorem dateOfDays_mem (days : ℤ) :
    1 ≤ (dateOfDays days).day ∧
      (dateOfDays days).day ≤ daysInMonth (dateOfDays days).year (dateOfDays days).month := by
  obtain ⟨era, year, d, hyear, hd, hleap, -, hdate⟩ := exists_dateOfDays days
  rw [hdate]
  refine dayOfMonth_le d hd _ fun hlast ↦ ?_
  have hfebruary : civilMonth 365 = 2 := by decide
  have hyear := (isLeapYear_iff _).mp (hleap hlast)
  rw [isLeapYear_iff, hlast, hfebruary, if_pos (by decide)]
  show (year + era * 400 + 1 : ℤ) % 4 = 0 ∧
    ((year + era * 400 + 1 : ℤ) % 100 ≠ 0 ∨ (year + era * 400 + 1 : ℤ) % 400 = 0)
  omega

/-- The date of a day number has that number. -/
theorem daysOfDate_dateOfDays (days : ℤ) : daysOfDate (dateOfDays days) = days := by
  obtain ⟨era, year, d, hyear, hd, -, rfl, hdate⟩ := exists_dateOfDays days
  obtain ⟨hmonths, hbefore⟩ := monthOfYear_le hd
  rw [hdate]
  have hmonth : (if 2 < civilMonth d then (civilMonth d : ℤ) - 3 else civilMonth d + 9) =
      monthOfYear d := by
    unfold civilMonth
    split_ifs <;> omega
  have hyears : (if civilMonth d ≤ 2 then
      (year : ℤ) + era * 400 + (if civilMonth d ≤ 2 then 1 else 0) - 1
      else year + era * 400 + (if civilMonth d ≤ 2 then 1 else 0)) = year + era * 400 := by
    split_ifs <;> omega
  have hera : ((year : ℤ) + era * 400).fdiv 400 = era := by
    rw [Int.fdiv_eq_ediv_of_nonneg _ (by decide)]
    omega
  simp only [daysOfDate, hyears, hera, hmonth]
  unfold dayOfMonth firstDay
  omega

end Courier.Timestamp
