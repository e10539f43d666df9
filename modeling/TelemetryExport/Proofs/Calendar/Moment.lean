import Mathlib.Algebra.BigOperators.Group.Finset.Basic
import Mathlib.Algebra.Order.BigOperators.Group.Finset
import Mathlib.Tactic.IntervalCases
import TelemetryExport.Calendar

/-! # Moments of the calendar

A `Moment` is a date that exists and a time of day.  Its seconds are counted the long way: all
days of the years before, all days of the months before, the days before in its month.  That
count agrees with the closed formula by which dates are read (`dayNumber_eq`), and it follows
the calendar: of two moments the earlier one has fewer seconds (`Moment.seconds_lt_iff`). -/

namespace TelemetryExport
namespace Calendar

/-! ### Counting days -/

def daysInYear (year : Nat) : Nat := if isLeap year then 366 else 365

/-- Days from the first one of the year 0 to the first one of a year. -/
def daysOfYears (year : Nat) : Nat := ∑ y ∈ Finset.range year, daysInYear y

/-- Days from the first one of a year to the first one of a month of it. -/
def daysOfMonths (year month : Nat) : Nat :=
  ∑ m ∈ Finset.range (month - 1), daysInMonth year (m + 1)

/-- Days from the first one of the year 0 to a date. -/
def daysUntil (year month day : Nat) : Nat :=
  daysOfYears year + daysOfMonths year month + (day - 1)

/-- What lies within one piece lies before all later pieces. -/
theorem sum_range_add_lt {width : Nat → Nat} {i j r : Nat} (h : i < j) (hr : r < width i) :
    ∑ k ∈ Finset.range i, width k + r < ∑ k ∈ Finset.range j, width k := by
  have hle : ∑ k ∈ Finset.range (i + 1), width k ≤ ∑ k ∈ Finset.range j, width k :=
    Finset.sum_le_sum_of_subset (Finset.range_subset_range.mpr h)
  rw [Finset.sum_range_succ] at hle
  omega

theorem isLeap_iff (year : Int) :
    isLeap year = true ↔ year % 4 = 0 ∧ (year % 100 ≠ 0 ∨ year % 400 = 0) := by
  simp [isLeap]

/-- A year that begins in March is as long as the one in which it ends. -/
theorem daysBeforeYear_eq (year : Nat) :
    daysBeforeYear year = daysBeforeYear (year - 1) + daysInYear year := by
  unfold daysBeforeYear daysInYear
  split_ifs with h
  · rw [isLeap_iff] at h
    omega
  · rw [isLeap_iff] at h
    omega

theorem dayNumber_newYear_succ (year : Nat) :
    dayNumber (year + 1) 1 1 = dayNumber year 1 1 + daysInYear year := by
  have hyear := daysBeforeYear_eq year
  simp only [dayNumber, marchYear, add_sub_cancel_right]
  rw [if_pos (by decide), if_pos (by decide)]
  dsimp only
  omega

theorem dayNumber_newYear (year : Nat) :
    dayNumber year 1 1 = dayNumber 0 1 1 + daysOfYears year := by
  induction year with
  | zero => simp [daysOfYears]
  | succ year ih =>
      have hstep := dayNumber_newYear_succ year
      unfold daysOfYears at ih ⊢
      rw [Finset.sum_range_succ]
      push_cast at hstep ih ⊢
      omega

theorem dayNumber_month_succ (year : Nat) {month : Nat} (hlow : 1 ≤ month) (hhigh : month ≤ 11) :
    dayNumber year (month + 1) 1 = dayNumber year month 1 + daysInMonth year month := by
  have hyear := daysBeforeYear_eq year
  unfold daysInYear at hyear
  simp only [dayNumber, marchYear, daysBeforeMonth, daysInMonth]
  -- Only after February does the year that begins in March change.
  interval_cases month <;> simp <;> split_ifs at hyear ⊢ <;> omega

theorem dayNumber_month (year : Nat) {month : Nat} (hlow : 1 ≤ month) (hhigh : month ≤ 12) :
    dayNumber year month 1 = dayNumber year 1 1 + daysOfMonths year month := by
  induction month, hlow using Nat.le_induction with
  | base => simp [daysOfMonths]
  | succ month hlow ih =>
      have hstep := dayNumber_month_succ year hlow (by omega)
      have hmonths := ih (by omega)
      unfold daysOfMonths at hmonths ⊢
      obtain ⟨m, rfl⟩ : ∃ m, month = m + 1 := ⟨month - 1, by omega⟩
      rw [Nat.add_sub_cancel] at hmonths ⊢
      rw [Finset.sum_range_succ]
      push_cast at hstep hmonths ⊢
      omega

theorem dayNumber_day (year : Int) (month day : Nat) :
    dayNumber year month day = dayNumber year month 1 + (day - 1 : Int) := by
  simp [dayNumber]

/-- The closed formula counts the days. -/
theorem dayNumber_eq (year : Nat) {month day : Nat} (hlow : 1 ≤ month) (hhigh : month ≤ 12)
    (hday : 1 ≤ day) :
    dayNumber year month day = dayNumber 0 1 1 + daysUntil year month day := by
  rw [dayNumber_day, dayNumber_month year hlow hhigh, dayNumber_newYear]
  unfold daysUntil
  omega

/-- Days from the first one of the year 0 to the Unix epoch. -/
@[irreducible]
def epochDay : Nat := daysUntil 1970 1 1

theorem epochDay_eq : (epochDay : Int) = -dayNumber 0 1 1 := by
  unfold epochDay
  have hcount : dayNumber (1970 : Nat) 1 1 = dayNumber 0 1 1 + daysUntil 1970 1 1 :=
    dayNumber_eq 1970 le_rfl (by decide) le_rfl
  have hepoch : dayNumber (1970 : Nat) 1 1 = 0 := by decide
  rw [hepoch] at hcount
  exact eq_neg_of_add_eq_zero_right hcount.symm

theorem daysOfMonths_end (year : Nat) : daysOfMonths year 13 = daysInYear year := by
  unfold daysOfMonths daysInYear daysInMonth
  cases isLeap year <;> decide

theorem daysOfMonths_add_lt {year month month' r : Nat} (hlow : 1 ≤ month) (h : month < month')
    (hr : r < daysInMonth year month) :
    daysOfMonths year month + r < daysOfMonths year month' := by
  obtain ⟨m, rfl⟩ : ∃ m, month = m + 1 := ⟨month - 1, by omega⟩
  exact sum_range_add_lt (by omega) hr

/-! ### Moments -/

/-- A date and a time of day of the years 0 to 9999, universal time. -/
structure Moment where
  year : Nat
  month : Nat
  day : Nat
  hour : Nat
  minute : Nat
  second : Nat
  year_le : year ≤ 9999 := by decide
  one_le_month : 1 ≤ month := by decide
  month_le : month ≤ 12 := by decide
  one_le_day : 1 ≤ day := by decide
  day_le : day ≤ daysInMonth year month := by decide
  hour_lt : hour < 24 := by decide
  minute_lt : minute < 60 := by decide
  second_lt : second < 60 := by decide
deriving DecidableEq

namespace Moment

/-- From the year down to the second. -/
def fields (m : Moment) : List Nat := [m.year, m.month, m.day, m.hour, m.minute, m.second]

/-- Days from the first one of the year 0. -/
def days (m : Moment) : Nat := daysUntil m.year m.month m.day

def secondOfDay (m : Moment) : Nat := 3600 * m.hour + 60 * m.minute + m.second

/-- Seconds since the Unix epoch. -/
def seconds (m : Moment) : Int :=
  ((m.days : Int) - epochDay) * secondsPerDay + m.secondOfDay

theorem day_le_31 (m : Moment) : m.day ≤ 31 := by
  have h := m.day_le
  unfold daysInMonth at h
  split_ifs at h <;> omega

theorem secondOfDay_lt (m : Moment) : m.secondOfDay < 86400 := by
  have hh := m.hour_lt
  have hm := m.minute_lt
  have hs := m.second_lt
  unfold secondOfDay
  omega

theorem seconds_eq (m : Moment) :
    m.seconds = dayNumber m.year m.month m.day * secondsPerDay + m.secondOfDay := by
  rw [dayNumber_eq m.year m.one_le_month m.month_le m.one_le_day, seconds, days, epochDay_eq,
    sub_neg_eq_add, add_comm (dayNumber 0 1 1)]

/-! ### The order of the calendar -/

theorem days_lt_of_year {a b : Moment} (h : a.year < b.year) : a.days < b.days := by
  have hday := a.one_le_day
  have hwithin : daysOfMonths a.year a.month + (a.day - 1) < daysInYear a.year := by
    rw [← daysOfMonths_end]
    exact daysOfMonths_add_lt a.one_le_month (Nat.lt_succ_of_le a.month_le)
      (by have := a.day_le; omega)
  have hyears : daysOfYears a.year + (daysOfMonths a.year a.month + (a.day - 1)) <
      daysOfYears b.year := sum_range_add_lt h hwithin
  unfold days daysUntil
  omega

theorem days_lt_of_month {a b : Moment} (hyear : a.year = b.year) (h : a.month < b.month) :
    a.days < b.days := by
  have hday := a.one_le_day
  have hmonths : daysOfMonths a.year a.month + (a.day - 1) < daysOfMonths a.year b.month :=
    daysOfMonths_add_lt a.one_le_month h (by have := a.day_le; omega)
  unfold days daysUntil
  rw [← hyear]
  omega

theorem seconds_lt_of_days {a b : Moment} (h : a.days < b.days) : a.seconds < b.seconds := by
  have ha := a.secondOfDay_lt
  unfold seconds secondsPerDay
  omega

theorem seconds_lt_of_fields {a b : Moment} (h : a.fields < b.fields) :
    a.seconds < b.seconds := by
  simp only [fields, List.cons_lt_cons_iff] at h
  rcases h with hyear | ⟨hyear, hmonth | ⟨hmonth, hday | ⟨hday, htime⟩⟩⟩
  · exact seconds_lt_of_days (days_lt_of_year hyear)
  · exact seconds_lt_of_days (days_lt_of_month hyear hmonth)
  · apply seconds_lt_of_days
    have ha := a.one_le_day
    unfold days daysUntil
    rw [hyear, hmonth]
    omega
  · have hdays : a.days = b.days := by
      unfold days
      rw [hyear, hmonth, hday]
    have hm := a.minute_lt
    have hs := a.second_lt
    have hseconds : a.secondOfDay < b.secondOfDay := by
      unfold secondOfDay
      rcases htime with hhour | ⟨hhour, hminute | ⟨hminute, hsecond | ⟨-, hnil⟩⟩⟩
      · omega
      · omega
      · omega
      · exact absurd hnil (List.not_lt_nil _)
    unfold seconds
    rw [hdays]
    omega

theorem fields_inj {a b : Moment} : a.fields = b.fields ↔ a = b := by
  refine ⟨fun h => ?_, fun h => h ▸ rfl⟩
  cases a
  cases b
  simp only [fields, List.cons.injEq] at h
  obtain ⟨rfl, rfl, rfl, rfl, rfl, rfl, -⟩ := h
  rfl

/-- Seconds follow the calendar. -/
theorem seconds_lt_iff {a b : Moment} : a.seconds < b.seconds ↔ a.fields < b.fields := by
  refine ⟨fun h => ?_, seconds_lt_of_fields⟩
  rcases lt_trichotomy a.fields b.fields with hlt | heq | hgt
  · exact hlt
  · rw [fields_inj.mp heq] at h
    exact absurd h (lt_irrefl _)
  · exact absurd h (lt_asymm (seconds_lt_of_fields hgt))

/-- No two moments have the same seconds. -/
theorem seconds_inj {a b : Moment} : a.seconds = b.seconds ↔ a = b := by
  refine ⟨fun h => ?_, fun h => h ▸ rfl⟩
  rcases lt_trichotomy a.fields b.fields with hlt | heq | hgt
  · exact absurd h (seconds_lt_of_fields hlt).ne
  · exact fields_inj.mp heq
  · exact absurd h (seconds_lt_of_fields hgt).ne'

end Moment
end Calendar
end TelemetryExport
