/-! The Gregorian calendar, extended back to the year one: dates, their numbers, and weeks. -/
namespace SharedTables

/-- A day of a year. -/
structure Date where
  year : Nat
  month : Nat
  day : Nat
  deriving DecidableEq, Repr, Inhabited

namespace Calendar

/-- Whether a year has a twenty-ninth of February. -/
def isLeap (year : Nat) : Bool := year % 4 == 0 && (year % 100 != 0 || year % 400 == 0)

/-- The number of days of a month. -/
def daysInMonth (year month : Nat) : Nat :=
  if month = 2 then (if isLeap year then 29 else 28)
  else if month = 4 ∨ month = 6 ∨ month = 9 ∨ month = 11 then 30
  else 31

/-- The number of days before a year, counted from the start of the year one. -/
def daysBeforeYear (year : Nat) : Nat :=
  let past := year - 1
  past * 365 + past / 4 - past / 100 + past / 400

/-- The number of days of a year before its month. -/
def daysBeforeMonth (year month : Nat) : Nat :=
  (List.range (month - 1)).foldl (fun days m => days + daysInMonth year (m + 1)) 0

/-- The weekday of a day number: Monday is zero. -/
def weekday (number : Nat) : Nat := (number + 6) % 7

end Calendar

namespace Date
open Calendar

/-- Years run from 1 to 9999, months from 1 to 12, days to the length of the month. -/
def Valid (date : Date) : Prop :=
  1 ≤ date.year ∧ date.year ≤ 9999 ∧ 1 ≤ date.month ∧ date.month ≤ 12 ∧
    1 ≤ date.day ∧ date.day ≤ daysInMonth date.year date.month

instance (date : Date) : Decidable date.Valid := by unfold Valid; infer_instance

/-- The number of a day: the first of January of the year one is day one. -/
def number (date : Date) : Nat :=
  daysBeforeYear date.year + daysBeforeMonth date.year date.month + date.day

/-- Finds the month of the `day`-th day of a year, from a month on. -/
def ofYearDayFrom (year : Nat) : Nat → Nat → Nat → Date
  | 0, month, day => ⟨year, month, day⟩
  | later + 1, month, day =>
    if day ≤ daysInMonth year month then ⟨year, month, day⟩
    else ofYearDayFrom year later (month + 1) (day - daysInMonth year month)

/-- The `day`-th day of a year. -/
def ofYearDay (year day : Nat) : Date := ofYearDayFrom year 11 1 day

/-- The date of a day number that lies in a given year or in a year next to it. -/
def ofNumberNear (year number : Nat) : Date :=
  if number ≤ daysBeforeYear year then ofYearDay (year - 1) (number - daysBeforeYear (year - 1))
  else if number ≤ daysBeforeYear (year + 1) then ofYearDay year (number - daysBeforeYear year)
  else ofYearDay (year + 1) (number - daysBeforeYear (year + 1))

/-- The number of the Monday of the first week of a year, the week with the first Thursday. -/
def firstMonday (year : Nat) : Nat :=
  let first := number ⟨year, 1, 1⟩
  let day := weekday first
  if 3 < day then first - day + 7 else first - day

/-- Whether a year has fifty-three weeks: it begins on a Thursday, or on a Wednesday and is a leap
year. -/
def hasLongYear (year : Nat) : Bool :=
  let day := weekday (number ⟨year, 1, 1⟩)
  day == 3 || (day == 2 && isLeap year)

/-- The date of a day of a week of a year; days count from Monday, one to seven. -/
def ofWeek? (year week day : Nat) : Option Date :=
  if 1 ≤ year ∧ year ≤ 9999 ∧ 1 ≤ week ∧ (week ≤ 52 ∨ week = 53 ∧ hasLongYear year = true) ∧
      1 ≤ day ∧ day ≤ 7 then
    some (ofNumberNear year (firstMonday year + (week - 1) * 7 + (day - 1)))
  else none

end Date
end SharedTables
