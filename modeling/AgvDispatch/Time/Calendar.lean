/-!
# The calendar

Days of the calendar and times of day, and which of them exist.
-/

namespace AgvDispatch

/-- A day of the calendar. -/
structure Date where
  /-- The year. -/
  year : Int
  /-- The month, from `1` on. -/
  month : Nat
  /-- The day of the month, from `1` on. -/
  day : Nat
  deriving DecidableEq, Repr

namespace Date

/-- Whether a year has a leap day. -/
def isLeapYear (year : Int) : Bool :=
  decide (year % 4 = 0 ∧ (year % 100 ≠ 0 ∨ year % 400 = 0))

/-- How many days a month has. -/
def daysIn (year : Int) (month : Nat) : Nat :=
  if month = 2 then if isLeapYear year then 29 else 28
  else if month = 4 ∨ month = 6 ∨ month = 9 ∨ month = 11 then 30
  else 31

/-- Whether a day exists. -/
def isValid (d : Date) : Bool :=
  decide (1 ≤ d.month ∧ d.month ≤ 12 ∧ 1 ≤ d.day ∧ d.day ≤ daysIn d.year d.month)

end Date

/-- A time of day. -/
structure Clock where
  /-- The hour, from `0` on. -/
  hour : Nat
  /-- The minute, from `0` on. -/
  minute : Nat
  /-- The second, from `0` on. -/
  second : Nat
  deriving DecidableEq, Repr

namespace Clock

/-- Whether a time of day exists. A minute may have a leap second. -/
def isValid (t : Clock) : Bool :=
  decide (t.hour ≤ 23 ∧ t.minute ≤ 59 ∧ t.second ≤ 60)

/-- The seconds since midnight. A leap second counts as the second before it. -/
def seconds (t : Clock) : Int :=
  3600 * t.hour + 60 * t.minute + (min t.second 59 : Nat)

end Clock

end AgvDispatch
