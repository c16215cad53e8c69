import Mathlib.Tactic.IntervalCases
import PromptScript.Timestamp

/-!
# Dates of days

The calendar repeats itself in eras of 400 years.  Counted from March on, every century but the last
of an era has 36524 days, every group of four years but the last of a century 1461, and every year
but the last of a group 365, so that a leap day always stands at the end of what it lengthens.
-/

namespace PromptScript.Timestamp

/-- A day of an era, split into full centuries, full groups of four years, full years and the day of
a year that begins in March. -/
structure EraDay (dayOfEra : Int) where
  century : Int
  group : Int
  year : Int
  dayOfYear : Int
  hcentury : 0 ≤ century ∧ century ≤ 3
  hgroup : 0 ≤ group ∧ group ≤ 24
  hyear : 0 ≤ year ∧ year ≤ 3
  hday : 0 ≤ dayOfYear ∧ dayOfYear ≤ 365
  hleap : dayOfYear = 365 → year = 3 ∧ (group = 24 → century = 3)
  hsum : dayOfEra = 36524 * century + 1461 * group + 365 * year + dayOfYear

namespace EraDay

variable {dayOfEra : Int}

/-- The years of the era that are full. -/
def yearOfEra (parts : EraDay dayOfEra) : Int :=
  100 * parts.century + 4 * parts.group + parts.year

theorem exists_of_mem (hlow : 0 ≤ dayOfEra) (hhigh : dayOfEra ≤ 146096) :
    Nonempty (EraDay dayOfEra) := by
  have hcentury : 0 ≤ min 3 (dayOfEra / 36524) ∧ min 3 (dayOfEra / 36524) ≤ 3 := by omega
  generalize hsplit : min 3 (dayOfEra / 36524) = century at hcentury
  have hrest : 0 ≤ dayOfEra - 36524 * century ∧ dayOfEra - 36524 * century ≤ 36524 ∧
      (dayOfEra - 36524 * century = 36524 → century = 3) := by omega
  generalize hday : dayOfEra - 36524 * century = day at hrest
  have hyear : 0 ≤ min 3 (day % 1461 / 365) ∧ min 3 (day % 1461 / 365) ≤ 3 := by omega
  exact ⟨⟨century, day / 1461, min 3 (day % 1461 / 365),
    day % 1461 - 365 * min 3 (day % 1461 / 365), hcentury, by omega, hyear, by omega, by omega,
    by omega⟩⟩

/-- The division by which the year of a day is found. -/
theorem yearOfEra_eq (parts : EraDay dayOfEra) :
    (dayOfEra - dayOfEra / 1460 + dayOfEra / 36524 - dayOfEra / 146096) / 365 =
      parts.yearOfEra := by
  obtain ⟨century, group, year, dayOfYear, hcentury, hgroup, hyear, hday, hleap, hsum⟩ := parts
  have hera : dayOfEra / 146096 = if dayOfYear = 365 ∧ group = 24 then 1 else 0 := by
    split <;> omega
  have hcenturies : dayOfEra / 36524 = century + dayOfEra / 146096 := by omega
  have hgroups : dayOfEra / 1460 =
      25 * century + group + (24 * century + group + 365 * year + dayOfYear) / 1460 := by omega
  simp only [yearOfEra]
  omega

/-- The day on which a year begins. -/
theorem dayOfEra_eq (parts : EraDay dayOfEra) :
    dayOfEra = parts.yearOfEra * 365 + parts.yearOfEra / 4 - parts.yearOfEra / 100
      + parts.dayOfYear := by
  obtain ⟨century, group, year, dayOfYear, hcentury, hgroup, hyear, hday, hleap, hsum⟩ := parts
  have hgroups : (100 * century + 4 * group + year) / 4 = 25 * century + group := by omega
  have hcenturies : (100 * century + 4 * group + year) / 100 = century := by omega
  simp only [yearOfEra, hgroups, hcenturies]
  omega

theorem yearOfEra_mem (parts : EraDay dayOfEra) :
    0 ≤ parts.yearOfEra ∧ parts.yearOfEra ≤ 399 := by
  obtain ⟨century, group, year, dayOfYear, hcentury, hgroup, hyear, hday, hleap, hsum⟩ := parts
  simp only [yearOfEra]
  omega

/-- A year with a 366th day ends in a February of 29 days. -/
theorem isLeapYear_of_last (parts : EraDay dayOfEra) (hlast : parts.dayOfYear = 365) (era : Int) :
    isLeapYear (parts.yearOfEra + era * 400 + 1) = true := by
  obtain ⟨century, group, year, dayOfYear, hcentury, hgroup, hyear, hday, hleap, hsum⟩ := parts
  obtain ⟨hyears, hgroups⟩ := hleap hlast
  simp only [isLeapYear, yearOfEra, Bool.and_eq_true, Bool.or_eq_true, beq_iff_eq, bne_iff_ne]
  omega

end EraDay

/-! ## Months -/

/-- The month of a day of a year that begins in March, counted from March on. -/
def monthFromMarch (dayOfYear : Int) : Int :=
  (5 * dayOfYear + 2) / 153

/-- The number of a month that is counted from March on. -/
def monthNumber (fromMarch : Int) : Int :=
  if fromMarch < 10 then fromMarch + 3 else fromMarch - 9

/-- The day in its month. -/
def dayOfMonth (dayOfYear : Int) : Int :=
  dayOfYear - (153 * monthFromMarch dayOfYear + 2) / 5 + 1

theorem monthFromMarch_mem {dayOfYear : Int} (hday : 0 ≤ dayOfYear ∧ dayOfYear ≤ 365) :
    0 ≤ monthFromMarch dayOfYear ∧ monthFromMarch dayOfYear ≤ 11 := by
  simp only [monthFromMarch]
  omega

theorem one_le_dayOfMonth (dayOfYear : Int) : 1 ≤ dayOfMonth dayOfYear := by
  simp only [dayOfMonth, monthFromMarch]
  omega

/-- The days of a year that begins in March fall into months of the usual lengths. -/
theorem dayOfMonth_le (year : Int) {dayOfYear : Int} (hday : 0 ≤ dayOfYear ∧ dayOfYear ≤ 365)
    (hleap : dayOfYear = 365 → isLeapYear year = true) :
    dayOfMonth dayOfYear ≤ daysInMonth year (monthNumber (monthFromMarch dayOfYear)).toNat := by
  obtain ⟨hfirst, hlast⟩ := monthFromMarch_mem hday
  have hmonth : monthFromMarch dayOfYear = (5 * dayOfYear + 2) / 153 := rfl
  simp only [dayOfMonth]
  generalize monthFromMarch dayOfYear = month at *
  -- February is the last month, and longer where the year has a 366th day.
  by_cases hfebruary : month = 11
  · have hlength : daysInMonth year (monthNumber month).toNat =
        if isLeapYear year then 29 else 28 := by
      rw [hfebruary]
      rfl
    by_cases hextra : dayOfYear = 365
    · rw [hlength, if_pos (hleap hextra)]
      omega
    · rw [hlength]
      split <;> omega
  · have hearlier : month ≤ 10 := by omega
    interval_cases month <;> simp [monthNumber, daysInMonth] <;> omega

theorem dateOfDays_eq (days : Int) : ∃ parts : EraDay ((days + 719468) % 146097),
    dateOfDays days =
      (parts.yearOfEra + (days + 719468) / 146097 * 400
          + if monthNumber (monthFromMarch parts.dayOfYear) ≤ 2 then 1 else 0,
        (monthNumber (monthFromMarch parts.dayOfYear)).toNat,
        (dayOfMonth parts.dayOfYear).toNat) := by
  have hlow : 0 ≤ (days + 719468) % 146097 := by omega
  have hhigh : (days + 719468) % 146097 ≤ 146096 := by omega
  obtain ⟨parts⟩ := EraDay.exists_of_mem hlow hhigh
  refine ⟨parts, ?_⟩
  have hday : (days + 719468) % 146097 -
      (365 * parts.yearOfEra + parts.yearOfEra / 4 - parts.yearOfEra / 100) = parts.dayOfYear := by
    have hsum := parts.dayOfEra_eq
    omega
  simp only [dateOfDays, parts.yearOfEra_eq, hday]
  rfl

/-- Every day is the day of its date. -/
theorem daysOfDate_dateOfDays (days : Int) :
    daysOfDate (dateOfDays days).1 (dateOfDays days).2.1 (dateOfDays days).2.2 = days := by
  obtain ⟨parts, hdate⟩ := dateOfDays_eq days
  obtain ⟨hfirst, hlast⟩ := monthFromMarch_mem parts.hday
  have hera := parts.yearOfEra_mem
  have hsum := parts.dayOfEra_eq
  have hday := one_le_dayOfMonth parts.dayOfYear
  have hbegins : dayOfMonth parts.dayOfYear =
      parts.dayOfYear - (153 * monthFromMarch parts.dayOfYear + 2) / 5 + 1 := rfl
  rw [hdate]
  generalize monthFromMarch parts.dayOfYear = month at *
  generalize dayOfMonth parts.dayOfYear = day at *
  have hdays : (day.toNat : Int) = day := Int.toNat_of_nonneg (by omega)
  by_cases hyear : month < 10
  · have hnumber : monthNumber month = month + 3 := if_pos hyear
    have hlate : ¬(month + 3 ≤ 2) := by omega
    have hlater : ¬(month + 3).toNat ≤ 2 := by omega
    have hmonth : ((month + 3).toNat : Int) - 3 = month := by omega
    have hshifted : (parts.yearOfEra + (days + 719468) / 146097 * 400 + 0) / 400 =
        (days + 719468) / 146097 := by omega
    have hrest : (parts.yearOfEra + (days + 719468) / 146097 * 400 + 0) % 400 =
        parts.yearOfEra := by omega
    simp only [daysOfDate, hnumber, if_neg hlate, if_neg hlater, hmonth, hdays, hshifted, hrest]
    omega
  · have hnumber : monthNumber month = month - 9 := if_neg hyear
    have hearly : month - 9 ≤ 2 := by omega
    have hearlier : (month - 9).toNat ≤ 2 := by omega
    have hmonth : ((month - 9).toNat : Int) + 9 = month := by omega
    have hshifted : (parts.yearOfEra + (days + 719468) / 146097 * 400 + 1 - 1) / 400 =
        (days + 719468) / 146097 := by omega
    have hrest : (parts.yearOfEra + (days + 719468) / 146097 * 400 + 1 - 1) % 400 =
        parts.yearOfEra := by omega
    simp only [daysOfDate, hnumber, if_pos hearly, if_pos hearlier, hmonth, hdays, hshifted, hrest]
    omega

/-- The date of a day is one of the calendar. -/
theorem dateOfDays_mem (days : Int) :
    1 ≤ (dateOfDays days).2.1 ∧ (dateOfDays days).2.1 ≤ 12 ∧ 1 ≤ (dateOfDays days).2.2 ∧
      (dateOfDays days).2.2 ≤ daysInMonth (dateOfDays days).1 (dateOfDays days).2.1 := by
  obtain ⟨parts, hdate⟩ := dateOfDays_eq days
  obtain ⟨hfirst, hlast⟩ := monthFromMarch_mem parts.hday
  have hday := one_le_dayOfMonth parts.dayOfYear
  rw [hdate]
  refine ⟨?_, ?_, ?_, ?_⟩
  · simp only [monthNumber]
    omega
  · simp only [monthNumber]
    omega
  · simp only
    omega
  · refine Int.toNat_le.mpr (dayOfMonth_le _ parts.hday ?_)
    intro hextra
    rw [hextra]
    exact parts.isLeapYear_of_last hextra _

end PromptScript.Timestamp
