/-!
# Dates of the Gregorian calendar

Dates run from 1 January of year 1 to 31 December of year 9999. A date carries the proof that it
stands in the calendar. The days before and after a date exist except at the two ends.

## Main definitions

* `Calendar.daysInMonth`: the length of a month.
* `Calendar.Date`, `Calendar.Date.ofParts?`: the dates of the calendar.
* `Calendar.Date.next?`, `Calendar.Date.prev?`: the neighbouring dates.
-/

namespace DocQuery.Calendar

/-- Whether a year has a 29 February. -/
def isLeapYear (year : Nat) : Bool := year % 4 = 0 && (year % 100 ≠ 0 || year % 400 = 0)

/-- The number of days of a month; zero if there is no such month. -/
def daysInMonth (year month : Nat) : Nat :=
  match month with
  | 2 => if isLeapYear year then 29 else 28
  | 4 | 6 | 9 | 11 => 30
  | 1 | 3 | 5 | 7 | 8 | 10 | 12 => 31
  | _ => 0

/-- Whether year, month and day stand in the calendar. -/
def InCalendar (year month day : Nat) : Prop :=
  1 ≤ year ∧ year ≤ 9999 ∧ 1 ≤ day ∧ day ≤ daysInMonth year month

instance (year month day : Nat) : Decidable (InCalendar year month day) :=
  inferInstanceAs (Decidable (_ ∧ _ ∧ _ ∧ _))

/-- A date of the Gregorian calendar. -/
structure Date where
  /-- The year, from 1 to 9999. -/
  year : Nat
  /-- The month, from 1 to 12. -/
  month : Nat
  /-- The day of the month. -/
  day : Nat
  /-- The date stands in the calendar. -/
  inCalendar : InCalendar year month day
  deriving DecidableEq

namespace Date

/-- The date with the given year, month and day, if it stands in the calendar. -/
def ofParts? (year month day : Nat) : Option Date :=
  if h : InCalendar year month day then some ⟨year, month, day, h⟩ else none

/-- The day after a date. -/
def next? (d : Date) : Option Date :=
  ofParts? d.year d.month (d.day + 1) <|> ofParts? d.year (d.month + 1) 1 <|>
    ofParts? (d.year + 1) 1 1

/-- The day before a date. -/
def prev? (d : Date) : Option Date :=
  ofParts? d.year d.month (d.day - 1) <|>
    ofParts? d.year (d.month - 1) (daysInMonth d.year (d.month - 1)) <|>
    ofParts? (d.year - 1) 12 31

end Date

end DocQuery.Calendar
