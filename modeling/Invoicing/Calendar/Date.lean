/-!
# Dates

Dates of the Gregorian calendar, carried back before its introduction; the year
before year 1 is year 0, which is a leap year.  The calendar runs from the first day
of `Date.minYear` to the last day of `Date.maxYear`.
-/

namespace Invoicing

namespace Date

/-- The first year of the calendar. -/
def minYear : Int := -262143

/-- The last year of the calendar. -/
def maxYear : Int := 262142

/-- Whether a year has a 29th of February. -/
def isLeapYear (year : Int) : Bool :=
  year % 4 == 0 && (year % 100 != 0 || year % 400 == 0)

/-- The number of days of a month. -/
def daysInMonth (year : Int) (month : Nat) : Nat :=
  if month = 2 then if isLeapYear year then 29 else 28
  else if month = 4 ∨ month = 6 ∨ month = 9 ∨ month = 11 then 30
  else 31

/-- The parts of a date name a day of the calendar. -/
structure IsDay (year : Int) (month day : Nat) : Prop where
  /-- The year is one of the calendar. -/
  year_mem : minYear ≤ year ∧ year ≤ maxYear
  /-- The month is one of twelve. -/
  month_mem : 1 ≤ month ∧ month ≤ 12
  /-- The day is one of the month. -/
  day_mem : 1 ≤ day ∧ day ≤ daysInMonth year month

theorem isDay_iff {year : Int} {month day : Nat} : IsDay year month day ↔
    (minYear ≤ year ∧ year ≤ maxYear) ∧ (1 ≤ month ∧ month ≤ 12) ∧
      (1 ≤ day ∧ day ≤ daysInMonth year month) :=
  ⟨fun h => ⟨h.1, h.2, h.3⟩, fun h => ⟨h.1, h.2.1, h.2.2⟩⟩

instance (year : Int) (month day : Nat) : Decidable (IsDay year month day) :=
  decidable_of_iff _ isDay_iff.symm

end Date

/-- A day of the calendar. -/
structure Date where
  /-- The year. -/
  year : Int
  /-- The month, from 1. -/
  month : Nat
  /-- The day of the month, from 1. -/
  day : Nat
  /-- There is such a day. -/
  isDay : Date.IsDay year month day
  deriving DecidableEq, Repr

namespace Date

/-- The date with these parts, if there is such a day. -/
def of? (year : Int) (month day : Nat) : Option Date :=
  if h : IsDay year month day then some ⟨year, month, day, h⟩ else none

theorem of?_eq_some_iff {year : Int} {month day : Nat} {date : Date} :
    of? year month day = some date ↔ date.year = year ∧ date.month = month ∧ date.day = day := by
  unfold of?
  constructor
  · intro h
    split at h
    · obtain rfl : _ = date := by simpa using h
      exact ⟨rfl, rfl, rfl⟩
    · simp at h
  · rintro ⟨rfl, rfl, rfl⟩
    simp [date.isDay]

/-- Whether a date comes before another one. -/
def isBefore (first second : Date) : Bool :=
  first.year < second.year || first.year == second.year &&
    (first.month < second.month || first.month == second.month && first.day < second.day)

/-- The next day, unless the calendar ends here. -/
def next? (date : Date) : Option Date :=
  (of? date.year date.month (date.day + 1)).or <|
    (of? date.year (date.month + 1) 1).or (of? (date.year + 1) 1 1)

/-- The date a number of days later, unless the calendar ends before it. -/
def addDays? (date : Date) : Nat → Option Date
  | 0 => some date
  | count + 1 => date.next? >>= fun next => next.addDays? count

end Date

end Invoicing
