/-
This file gives the calendar: a moment is a date that there is with a time of day, and
its seconds are counted from one fixed moment on, so that two moments differ by the
seconds between them.
-/

import Mathlib.Algebra.Order.Group.Nat
import Mathlib.Algebra.Ring.Nat
import Mathlib.Tactic.Common

namespace Library

namespace Calendar

/-- The year has 366 days. -/
def isLeap (year : Nat) : Bool := (year % 4 = 0 ∧ year % 100 ≠ 0) ∨ year % 400 = 0

/-- The length of a month, from 1 for January on -/
def daysInMonth (year month : Nat) : Nat :=
  if month = 2 then if isLeap year then 29 else 28
  else if month = 4 ∨ month = 6 ∨ month = 9 ∨ month = 11 then 30
  else 31

/-- The days of all years before -/
def daysBeforeYear (year : Nat) : Nat :=
  365 * year + (year + 3) / 4 - (year + 99) / 100 + (year + 399) / 400

/-- The days of the months of the year before -/
def daysBeforeMonth (year month : Nat) : Nat :=
  ((List.range' 1 (month - 1)).map (daysInMonth year)).sum

/-- A day and a time of it -/
structure Moment : Type where
  year : Nat
  month : Nat
  day : Nat
  hour : Nat
  minute : Nat
  second : Nat
  isMonth : 1 ≤ month ∧ month ≤ 12
  isDay : 1 ≤ day ∧ day ≤ daysInMonth year month
  isHour : hour ≤ 23
  isMinute : minute ≤ 59
  isSecond : second ≤ 59

namespace Moment

/-- The days before the day of a moment -/
def days (moment : Moment) : Nat :=
  daysBeforeYear moment.year + daysBeforeMonth moment.year moment.month + (moment.day - 1)

/-- The seconds before a moment -/
def seconds (moment : Moment) : Nat :=
  ((moment.days * 24 + moment.hour) * 60 + moment.minute) * 60 + moment.second

/-- What two moments of one month differ by -/
theorem seconds_sub (earlier later : Moment) (sameYear : earlier.year = later.year)
    (sameMonth : earlier.month = later.month) :
    (later.seconds : Int) - earlier.seconds =
      (((later.day * 24 + later.hour) * 60 + later.minute) * 60 + later.second : Nat) -
        (((earlier.day * 24 + earlier.hour) * 60 + earlier.minute) * 60 + earlier.second : Nat) := by
  have isLater := later.isDay.1
  have isEarlier := earlier.isDay.1
  unfold seconds days
  rw [sameYear, sameMonth]
  omega

end Moment

end Calendar

end Library
