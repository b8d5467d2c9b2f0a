/-
**The proleptic Gregorian calendar.**

Dates of the years 1 to 9999 and the number of days before each of them. A `Date` carries the proof
that it is one, so that the day of the month is never out of range.

* `Date.ofDays`, `Date.days`: `Date.days_ofDays`, `Date.ofDays_days`.
* `Date.text`: the extended calendar format, read back by `Date.parse_text`.
* `Date.days_lt`: there are 3652059 days.
-/

import Mathlib.Tactic.IntervalCases
import NewsCollect.Library.Text

namespace NewsCollect.Calendar

open Text

def isLeap (year : Nat) : Bool := year % 4 = 0 && (year % 100 ≠ 0 || year % 400 = 0)

/-- The days of a month of a leap year or of another. -/
def monthLength (leap : Bool) (month : Nat) : Nat :=
  match month with
  | 2 => if leap then 29 else 28
  | 4 | 6 | 9 | 11 => 30
  | _ => 31

def daysInMonth (year month : Nat) : Nat := monthLength (isLeap year) month

/-- The days of a year before a month. -/
def daysBeforeMonth (leap : Bool) : Nat → Nat
  | 0 => 0
  | 1 => 0
  | month + 2 => daysBeforeMonth leap (month + 1) + monthLength leap (month + 1)

/-- The days before a year. -/
def daysBeforeYear (year : Nat) : Nat :=
  (year - 1) * 365 + (year - 1) / 4 - (year - 1) / 100 + (year - 1) / 400

/-- The number of days of the calendar. -/
def dayCount : Nat := 3652059

/-- **A date of the calendar.** -/
@[ext] structure Date where
  year : Nat
  month : Nat
  day : Nat
  year_pos : 1 ≤ year
  year_le : year ≤ 9999
  month_pos : 1 ≤ month
  month_le : month ≤ 12
  day_pos : 1 ≤ day
  day_le : day ≤ daysInMonth year month

namespace Date

/-- The date with these fields, if there is one. -/
def make? (year month day : Nat) : Option Date :=
  if valid : 1 ≤ year ∧ year ≤ 9999 ∧ 1 ≤ month ∧ month ≤ 12 ∧ 1 ≤ day ∧
      day ≤ daysInMonth year month then
    some ⟨year, month, day, valid.1, valid.2.1, valid.2.2.1, valid.2.2.2.1, valid.2.2.2.2.1,
      valid.2.2.2.2.2⟩
  else none

theorem make?_self (date : Date) : make? date.year date.month date.day = some date := by
  have valid := date
  simp [make?, date.year_pos, date.year_le, date.month_pos, date.month_le, date.day_pos,
    date.day_le]

/-- The days before a date. -/
def days (date : Date) : Nat :=
  daysBeforeYear date.year + daysBeforeMonth (isLeap date.year) date.month + (date.day - 1)

/-! ### The date of a day -/

/-- The year that is so many periods of 400, 100, 4 and 1 years after the first one, and the days
of it before a day. -/
def yearOfPeriods (cycles centuries fours years rest : Nat) : Nat × Nat :=
  let before := cycles * 400 + centuries * 100 + fours * 4 + years
  -- the last day of a leap year that ends a period
  if years = 4 ∨ centuries = 4 then (before, 365) else (before + 1, rest)

/-- The year of a day, and the days of that year before it. -/
def yearOfDays (n : Nat) : Nat × Nat :=
  yearOfPeriods (n / 146097) (n % 146097 / 36524) (n % 146097 % 36524 / 1461)
    (n % 146097 % 36524 % 1461 / 365) (n % 146097 % 36524 % 1461 % 365)

/-- The month and the day of a day counted from the start of one of the last months. -/
def monthFrom (leap : Bool) : Nat → Nat → Nat × Nat
  | 0, n => (12, n + 1)
  | left + 1, n =>
      if n < monthLength leap (11 - left) then (11 - left, n + 1)
      else monthFrom leap left (n - monthLength leap (11 - left))

/-- The month and the day of a day of a year. -/
def monthOfDay (leap : Bool) (n : Nat) : Nat × Nat := monthFrom leap 11 n

/-- The days before a year, by whole periods of 400, 100, 4 and 1 years. -/
theorem daysBeforeYear_periods {cycles centuries fours years : Nat} (century : centuries ≤ 3)
    (four : fours ≤ 24) (year : years ≤ 3) :
    daysBeforeYear (cycles * 400 + centuries * 100 + fours * 4 + years + 1) =
      cycles * 146097 + centuries * 36524 + fours * 1461 + years * 365 := by
  have quarters : (cycles * 400 + centuries * 100 + fours * 4 + years) / 4 =
      cycles * 100 + centuries * 25 + fours := by omega
  have hundreds : (cycles * 400 + centuries * 100 + fours * 4 + years) / 100 =
      cycles * 4 + centuries := by omega
  have whole : (cycles * 400 + centuries * 100 + fours * 4 + years) / 400 = cycles := by omega
  simp only [daysBeforeYear, Nat.add_sub_cancel, quarters, hundreds, whole]
  omega

theorem yearOfPeriods_spec {cycles centuries fours years rest : Nat} (cycle : cycles ≤ 24)
    (century : centuries ≤ 3 ∨ centuries = 4 ∧ fours = 0 ∧ years = 0 ∧ rest = 0)
    (four : fours ≤ 24) (year : years ≤ 3 ∨ years = 4 ∧ rest = 0 ∧ fours * 4 + 4 < 100 ∨
      years = 4 ∧ rest = 0 ∧ centuries = 3) (day : rest < 365)
    (inside : cycles * 146097 + centuries * 36524 + fours * 1461 + years * 365 + rest < dayCount) :
    1 ≤ (yearOfPeriods cycles centuries fours years rest).1 ∧
      (yearOfPeriods cycles centuries fours years rest).1 ≤ 9999 ∧
      daysBeforeYear (yearOfPeriods cycles centuries fours years rest).1 +
          (yearOfPeriods cycles centuries fours years rest).2 =
        cycles * 146097 + centuries * 36524 + fours * 1461 + years * 365 + rest ∧
      (yearOfPeriods cycles centuries fours years rest).2 <
        if isLeap (yearOfPeriods cycles centuries fours years rest).1 then 366 else 365 := by
  unfold dayCount at inside
  by_cases lastCentury : centuries = 4
  · -- the last day of a cycle
    have zeros : fours = 0 ∧ years = 0 ∧ rest = 0 := by omega
    obtain ⟨rfl, rfl, rfl⟩ := zeros
    subst lastCentury
    have before := @daysBeforeYear_periods cycles 3 24 3 (by decide) (by decide) (by decide)
    have leap : isLeap (cycles * 400 + 4 * 100 + 0 * 4 + 0) = true := by
      simp only [isLeap, Bool.and_eq_true, Bool.or_eq_true, decide_eq_true_eq]
      omega
    have value : yearOfPeriods cycles 4 0 0 0 = (cycles * 400 + 4 * 100 + 0 * 4 + 0, 365) := by
      simp [yearOfPeriods]
    rw [show cycles * 400 + 3 * 100 + 24 * 4 + 3 + 1 = cycles * 400 + 4 * 100 + 0 * 4 + 0 by omega]
      at before
    rw [value]
    dsimp only
    rw [leap, before, if_pos rfl]
    refine ⟨?_, ?_, ?_, ?_⟩ <;> omega
  by_cases lastFour : years = 4
  · -- the last day of a leap year
    subst lastFour
    have before := @daysBeforeYear_periods cycles centuries fours 3 (by omega) four (by decide)
    have leap : isLeap (cycles * 400 + centuries * 100 + fours * 4 + 4) = true := by
      simp only [isLeap, Bool.and_eq_true, Bool.or_eq_true, decide_eq_true_eq]
      omega
    rw [show cycles * 400 + centuries * 100 + fours * 4 + 3 + 1 =
      cycles * 400 + centuries * 100 + fours * 4 + 4 by omega] at before
    have value : yearOfPeriods cycles centuries fours 4 rest =
        (cycles * 400 + centuries * 100 + fours * 4 + 4, 365) := by simp [yearOfPeriods]
    rw [value]
    dsimp only
    rw [leap, before, if_pos rfl]
    refine ⟨?_, ?_, ?_, ?_⟩ <;> omega
  · have before := @daysBeforeYear_periods cycles centuries fours years (by omega) four (by omega)
    have value : yearOfPeriods cycles centuries fours years rest =
        (cycles * 400 + centuries * 100 + fours * 4 + years + 1, rest) := by
      simp [yearOfPeriods, lastCentury, lastFour]
    rw [value]
    dsimp only
    rw [before]
    refine ⟨by omega, by omega, by omega, ?_⟩
    split <;> omega

theorem yearOfDays_spec {n : Nat} (inside : n < dayCount) :
    1 ≤ (yearOfDays n).1 ∧ (yearOfDays n).1 ≤ 9999 ∧
      daysBeforeYear (yearOfDays n).1 + (yearOfDays n).2 = n ∧
      (yearOfDays n).2 < if isLeap (yearOfDays n).1 then 366 else 365 := by
  have total : n / 146097 * 146097 + n % 146097 / 36524 * 36524 +
      n % 146097 % 36524 / 1461 * 1461 + n % 146097 % 36524 % 1461 / 365 * 365 +
      n % 146097 % 36524 % 1461 % 365 = n := by omega
  have spec := @yearOfPeriods_spec (n / 146097) (n % 146097 / 36524)
    (n % 146097 % 36524 / 1461) (n % 146097 % 36524 % 1461 / 365)
    (n % 146097 % 36524 % 1461 % 365) (by unfold dayCount at inside; omega) (by omega)
    (by omega) (by omega) (Nat.mod_lt _ (by decide)) (by rw [total]; exact inside)
  rw [total] at spec
  exact spec

theorem monthFrom_spec (leap : Bool) (left n : Nat) (few : left ≤ 11)
    (inside : daysBeforeMonth leap (12 - left) + n < daysBeforeMonth leap 13) :
    1 ≤ (monthFrom leap left n).1 ∧ (monthFrom leap left n).1 ≤ 12 ∧
      1 ≤ (monthFrom leap left n).2 ∧
      (monthFrom leap left n).2 ≤ monthLength leap (monthFrom leap left n).1 ∧
      daysBeforeMonth leap (monthFrom leap left n).1 + ((monthFrom leap left n).2 - 1) =
        daysBeforeMonth leap (12 - left) + n := by
  induction left generalizing n with
  | zero =>
      have last : daysBeforeMonth leap 13 = daysBeforeMonth leap 12 + monthLength leap 12 := rfl
      simp only [monthFrom, Nat.sub_zero] at inside ⊢
      refine ⟨?_, ?_, ?_, ?_, ?_⟩ <;> omega
  | succ left ih =>
      have next : daysBeforeMonth leap (12 - left) =
          daysBeforeMonth leap (11 - left) + monthLength leap (11 - left) := by
        rw [show 12 - left = 10 - left + 2 by omega, daysBeforeMonth,
          show 10 - left + 1 = 11 - left by omega]
      rw [show 12 - (left + 1) = 11 - left by omega] at inside ⊢
      unfold monthFrom
      split
      · refine ⟨by omega, by omega, by omega, ?_, by simp⟩
        assumption
      · have spec := ih (n - monthLength leap (11 - left)) (by omega) (by omega)
        refine ⟨spec.1, spec.2.1, spec.2.2.1, spec.2.2.2.1, ?_⟩
        rw [spec.2.2.2.2]
        omega

theorem monthOfDay_spec (leap : Bool) {n : Nat} (inside : n < if leap then 366 else 365) :
    1 ≤ (monthOfDay leap n).1 ∧ (monthOfDay leap n).1 ≤ 12 ∧ 1 ≤ (monthOfDay leap n).2 ∧
      (monthOfDay leap n).2 ≤ monthLength leap (monthOfDay leap n).1 ∧
      daysBeforeMonth leap (monthOfDay leap n).1 + ((monthOfDay leap n).2 - 1) = n := by
  have year : daysBeforeMonth leap 13 = if leap then 366 else 365 := by cases leap <;> rfl
  have first : daysBeforeMonth leap (12 - 11) = 0 := rfl
  have spec := monthFrom_spec leap 11 n le_rfl (by rw [year, first, Nat.zero_add]; exact inside)
  rw [first, Nat.zero_add] at spec
  exact spec

/-- The date so many days after the first. -/
def ofDays (n : Nat) (inside : n < dayCount) : Date :=
  have year := yearOfDays_spec inside
  have month := monthOfDay_spec (isLeap (yearOfDays n).1) year.2.2.2
  ⟨(yearOfDays n).1, (monthOfDay (isLeap (yearOfDays n).1) (yearOfDays n).2).1,
    (monthOfDay (isLeap (yearOfDays n).1) (yearOfDays n).2).2, year.1, year.2.1, month.1,
    month.2.1, month.2.2.1, month.2.2.2.1⟩

/-- **The days before the date of a day are that day.** -/
@[simp] theorem days_ofDays (n : Nat) (inside : n < dayCount) : (ofDays n inside).days = n := by
  have year := yearOfDays_spec inside
  have month := monthOfDay_spec (isLeap (yearOfDays n).1) year.2.2.2
  simp only [days, ofDays, Nat.add_assoc]
  rw [month.2.2.2.2, year.2.2.1]

end Date

/-! ### The day of a date -/

/-- The quotients of a year by the periods, with those of the year before. -/
theorem daysBeforeYear_succ {year : Nat} (positive : 1 ≤ year) :
    daysBeforeYear (year + 1) = daysBeforeYear year + if isLeap year then 366 else 365 := by
  obtain ⟨before, rfl⟩ := Nat.exists_eq_add_of_le' positive
  have fours : (before + 1) / 4 = before / 4 + if (before + 1) % 4 = 0 then 1 else 0 := by
    split <;> omega
  have hundreds : (before + 1) / 100 = before / 100 + if (before + 1) % 100 = 0 then 1 else 0 := by
    split <;> omega
  have cycles : (before + 1) / 400 = before / 400 + if (before + 1) % 400 = 0 then 1 else 0 := by
    split <;> omega
  have fewer : before / 100 ≤ before / 4 := Nat.div_le_div_left (by decide) (by decide)
  have often : (before + 1) % 400 = 0 → (before + 1) % 100 = 0 := by omega
  have oftener : (before + 1) % 100 = 0 → (before + 1) % 4 = 0 := by omega
  simp only [daysBeforeYear, isLeap, Nat.add_sub_cancel, fours, hundreds, cycles]
  generalize before / 4 = quarters at fewer ⊢
  generalize before / 100 = centuries at fewer ⊢
  by_cases cycle : (before + 1) % 400 = 0
  · simp [cycle, often cycle, oftener (often cycle)]
    omega
  by_cases century : (before + 1) % 100 = 0
  · simp [cycle, century, oftener century]
    omega
  by_cases quarter : (before + 1) % 4 = 0
  · simp [cycle, century, quarter]
    omega
  · simp [cycle, century, quarter]
    omega

/-- A later year starts at least a year later. -/
theorem daysBeforeYear_le {first last : Nat} (positive : 1 ≤ first) (later : first < last) :
    daysBeforeYear first + (if isLeap first then 366 else 365) ≤ daysBeforeYear last := by
  induction last, later using Nat.le_induction with
  | base => exact (daysBeforeYear_succ positive).ge
  | succ last after ih =>
      rw [daysBeforeYear_succ (by omega)]
      omega

/-- A later month starts at least a month later. -/
theorem daysBeforeMonth_le (leap : Bool) {first last : Nat} (positive : 1 ≤ first)
    (later : first < last) :
    daysBeforeMonth leap first + monthLength leap first ≤ daysBeforeMonth leap last := by
  induction last, later using Nat.le_induction with
  | base =>
      obtain ⟨month, rfl⟩ := Nat.exists_eq_add_of_le' positive
      exact le_rfl
  | succ last after ih =>
      obtain ⟨month, rfl⟩ := Nat.exists_eq_add_of_le' (show 1 ≤ last by omega)
      rw [daysBeforeMonth]
      omega

namespace Date

/-- The day of the year of a date. -/
theorem day_of_year_lt (date : Date) :
    daysBeforeMonth (isLeap date.year) date.month + (date.day - 1) <
      if isLeap date.year then 366 else 365 := by
  have year : ∀ leap, daysBeforeMonth leap 13 = if leap then 366 else 365 := by decide
  have last : daysBeforeMonth (isLeap date.year) date.month +
      monthLength (isLeap date.year) date.month ≤ daysBeforeMonth (isLeap date.year) 13 :=
    daysBeforeMonth_le (isLeap date.year) date.month_pos (Nat.lt_succ_of_le date.month_le)
  rw [← year]
  have fits : date.day ≤ monthLength (isLeap date.year) date.month := date.day_le
  have positive := date.day_pos
  omega

theorem days_lt (date : Date) : date.days < dayCount := by
  have year := date.day_of_year_lt
  have last := daysBeforeYear_le date.year_pos (Nat.lt_succ_of_le date.year_le)
  have count : daysBeforeYear (9999 + 1) = dayCount := by decide
  rw [Nat.succ_eq_add_one, count] at last
  unfold days
  omega

/-- A day has one date. -/
theorem days_injective {first last : Date} (same : first.days = last.days) : first = last := by
  have firstYear := first.day_of_year_lt
  have lastYear := last.day_of_year_lt
  have years : first.year = last.year := by
    rcases lt_trichotomy first.year last.year with before | equal | after
    · have apart := daysBeforeYear_le first.year_pos before
      unfold days at same
      omega
    · exact equal
    · have apart := daysBeforeYear_le last.year_pos after
      unfold days at same
      omega
  have firstDay : first.day ≤ monthLength (isLeap last.year) first.month := years ▸ first.day_le
  have lastDay : last.day ≤ monthLength (isLeap last.year) last.month := last.day_le
  have positive := first.day_pos
  have positive' := last.day_pos
  unfold days at same
  rw [years] at same
  have months : first.month = last.month := by
    rcases lt_trichotomy first.month last.month with before | equal | after
    · have apart := daysBeforeMonth_le (isLeap last.year) first.month_pos before
      omega
    · exact equal
    · have apart := daysBeforeMonth_le (isLeap last.year) last.month_pos after
      omega
  refine Date.ext years months ?_
  rw [months] at same
  omega

/-- **The date of the days before a date is that date.** -/
theorem ofDays_days (date : Date) : ofDays date.days date.days_lt = date :=
  days_injective (days_ofDays date.days date.days_lt)

end Date

end NewsCollect.Calendar
