import ExEditor.Text.Basic

/-! Moments in local time, and the calendar: which day of the week a date is, and which week of which
year it belongs to. -/
namespace ExEditor

/-- A moment in local time. Months and days count from 1, and `offset` is how many minutes the local
time is ahead of the universal one. -/
structure Clock where
  year : Nat := 2000
  month : Nat := 1
  day : Nat := 1
  hour : Nat := 0
  minute : Nat := 0
  second : Nat := 0
  nanosecond : Nat := 0
  offset : Int := 0
  deriving DecidableEq, Repr

namespace Clock

/-- Whether a year has 366 days. -/
def isLeap (year : Nat) : Bool := year % 4 = 0 && (year % 100 ≠ 0 || year % 400 = 0)

/-- Number of days in a year. -/
def yearLength (year : Nat) : Nat := if isLeap year then 366 else 365

/-- Number of days in the months of a year. -/
def monthLengths (year : Nat) : List Nat :=
  [31, if isLeap year then 29 else 28, 31, 30, 31, 30, 31, 31, 30, 31, 30, 31]

/-- Number of days between the first day of the year 1 and that of another year. -/
def daysBefore (year : Nat) : Nat :=
  365 * (year - 1) + (year - 1) / 4 - (year - 1) / 100 + (year - 1) / 400

/-- The day of the year, from 1. -/
def dayOfYear (c : Clock) : Nat :=
  ((monthLengths c.year).take (c.month - 1)).foldl (· + ·) c.day

/-- The day of the week of the day with a number in a year. A week begins on Sunday with 0, and the
year 1 began on a Monday. -/
def weekdayOf (year dayOfYear : Nat) : Nat := (daysBefore year + dayOfYear) % 7

/-- The day of the week, from Sunday as 0. -/
def weekday (c : Clock) : Nat := weekdayOf c.year c.dayOfYear

/-- The day of the week, from Monday as 1. -/
def weekdayFromMonday (c : Clock) : Nat := if c.weekday = 0 then 7 else c.weekday

/-- Number of the week in which the first week of a year begins on its first Sunday. -/
def weekFromSunday (c : Clock) : Nat := (c.dayOfYear + 6 - c.weekday) / 7

/-- Number of the week in which the first week of a year begins on its first Monday. -/
def weekFromMonday (c : Clock) : Nat := (c.dayOfYear + 7 - c.weekdayFromMonday) / 7

/-- Number of the last week of a year whose weeks belong to the year that has their Thursday. -/
def lastWeek (year : Nat) : Nat :=
  if weekdayOf year 1 = 4 || weekdayOf year (yearLength year) = 4 then 53 else 52

/-- The year that has the Thursday of the week, and the number of the week in it. -/
def weekYear (c : Clock) : Nat × Nat :=
  let week := (c.dayOfYear + 10 - c.weekdayFromMonday) / 7
  if week = 0 then (c.year - 1, lastWeek (c.year - 1))
  else if week > lastWeek c.year then (c.year + 1, 1)
  else (c.year, week)

/-- Number of seconds since the year 1970 began in universal time. -/
def secondsSince1970 (c : Clock) : Int :=
  ((daysBefore c.year + c.dayOfYear : Nat) - (daysBefore 1970 + 1 : Nat) : Int) * 86400
    + (3600 * c.hour + 60 * c.minute + c.second : Nat) - 60 * c.offset

/-- The hour on a clock of twelve. -/
def hour12 (c : Clock) : Nat := if c.hour % 12 = 0 then 12 else c.hour % 12

/-- Names of the days. -/
def dayNames : List String :=
  ["Sunday", "Monday", "Tuesday", "Wednesday", "Thursday", "Friday", "Saturday"]

/-- Names of the months. -/
def monthNames : List String :=
  ["January", "February", "March", "April", "May", "June", "July", "August", "September", "October",
   "November", "December"]

/-- Name of the day of the week. -/
def dayName (c : Clock) : Text := (dayNames.getD c.weekday "").toList

/-- Name of the month. -/
def monthName (c : Clock) : Text := (monthNames.getD (c.month - 1) "").toList

end Clock
end ExEditor
