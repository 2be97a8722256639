import Mathlib.Algebra.Order.Group.Unbundled.Int
import Mathlib.Tactic.SplitIfs

/-! The calendar of the package `time`: days and seconds since the start of 1970, and the dates they fall on. -/

namespace Wwan.Calendar

/-- The days between the first of March of the year 0 and the start of 1970. -/
def unixToMarch : Int := 719468

/-- The days before a month, counted from March. -/
def daysBefore (month : Int) : Int := (153 * month + 2) / 5

/-- The days before the year that starts in March, with a leap day at the end of the year before. -/
def daysBeforeYear (year : Int) : Int := 365 * year + year / 4 - year / 100 + year / 400

/-- The day number of a date, in which a month or a day out of its range counts on, as in `time.Date`. -/
def dayNumber (year month day : Int) : Int :=
  -- January and February belong to the year before.
  let months := 12 * year + month - 3
  daysBeforeYear (months / 12) + daysBefore (months % 12) + (day - 1) - unixToMarch

/-- A date. -/
structure Date where
  year : Int
  month : Int
  day : Int
  deriving DecidableEq

/-- A day as the year that starts in March, and the day in it. -/
def marchYear (days : Int) : Int × Int :=
  let n400 := days / 146097
  let d := days % 146097
  -- The last cycle of a hundred years has one more day, on which the quotient would be four.
  let n100 := d / 36524 - d / 36524 / 4
  let d := d - 36524 * n100
  let n4 := d / 1461
  let d := d % 1461
  -- So has the last year of four.
  let n := d / 365 - d / 365 / 4
  (400 * n400 + 100 * n100 + 4 * n4 + n, d - 365 * n)

/-- The date of a day number. -/
def date (number : Int) : Date :=
  let (year, day) := marchYear (number + unixToMarch)
  let month := (5 * day + 2) / 153
  let months := 12 * year + month + 2
  { year := months / 12, month := months % 12 + 1, day := day - daysBefore month + 1 }

/-- The seconds since the start of 1970 of a date and a time of day in a zone, as `time.Date` counts them. -/
def unix (year month day hour minute second zoneOffset : Int) : Int :=
  86400 * dayNumber year month day + 3600 * hour + 60 * minute + second - zoneOffset

/-- The days of the years before, with the day in the year, are all days. -/
theorem daysBeforeYear_marchYear (days : Int) :
    daysBeforeYear (marchYear days).1 + (marchYear days).2 = days := by
  simp only [marchYear, daysBeforeYear]
  generalize cycle : days / 146097 = n400
  generalize rest400 : days % 146097 = d
  generalize century : d / 36524 - d / 36524 / 4 = n100
  generalize rest100 : d - 36524 * n100 = d'
  generalize four : d' / 1461 = n4
  generalize rest4 : d' % 1461 = d''
  generalize one : d'' / 365 - d'' / 365 / 4 = n
  -- Each digit of the year is within its range, so that the quotients of the year are its leading digits.
  have centuries : 0 ≤ n100 ∧ n100 ≤ 3 := by omega
  have inCentury : 0 ≤ d' ∧ d' ≤ 36524 := by omega
  have fours : 0 ≤ n4 ∧ n4 ≤ 24 := by omega
  have ones : 0 ≤ n ∧ n ≤ 3 := by omega
  have yearBy400 : (400 * n400 + 100 * n100 + 4 * n4 + n) / 400 = n400 := by omega
  have yearBy100 : (400 * n400 + 100 * n100 + 4 * n4 + n) / 100 = 4 * n400 + n100 := by omega
  have yearBy4 : (400 * n400 + 100 * n100 + 4 * n4 + n) / 4 = 100 * n400 + 25 * n100 + n4 := by omega
  rw [yearBy400, yearBy100, yearBy4]
  omega

/-- The day in a year is one of 366. -/
theorem marchYear_day (days : Int) : 0 ≤ (marchYear days).2 ∧ (marchYear days).2 < 366 := by
  simp only [marchYear]
  omega

/-- The date of a day has its number. -/
theorem dayNumber_date (number : Int) :
    dayNumber (date number).year (date number).month (date number).day = number := by
  have whole := daysBeforeYear_marchYear (number + unixToMarch)
  obtain ⟨low, high⟩ := marchYear_day (number + unixToMarch)
  simp only [dayNumber, date]
  generalize (marchYear (number + unixToMarch)).1 = year at whole
  generalize (marchYear (number + unixToMarch)).2 = day at whole low high
  generalize counted : (5 * day + 2) / 153 = month
  have months : 0 ≤ month ∧ month < 12 := by omega
  have back : 12 * ((12 * year + month + 2) / 12) + ((12 * year + month + 2) % 12 + 1) - 3 = 12 * year + month := by omega
  have years : (12 * year + month) / 12 = year := by omega
  have monthOf : (12 * year + month) % 12 = month := by omega
  rw [back, years, monthOf]
  omega

/-- The month of a date is one of twelve. -/
theorem date_month (number : Int) : 1 ≤ (date number).month ∧ (date number).month ≤ 12 := by
  simp only [date]
  omega

/-- The day of a date is one of 31. -/
theorem date_day (number : Int) : 1 ≤ (date number).day ∧ (date number).day ≤ 31 := by
  obtain ⟨low, high⟩ := marchYear_day (number + unixToMarch)
  simp only [date, daysBefore]
  generalize (marchYear (number + unixToMarch)).2 = day at low high
  omega

end Wwan.Calendar
