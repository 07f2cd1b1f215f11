import DocQuery.Calendar.Date

/-!
# Instants

An instant is a date and a number of microseconds of that day, both in UTC. A local time with an
offset from UTC names the instant that is found by taking the offset away; since offsets are
shorter than a day, the date changes by at most one day. At the ends of the calendar there may be
no such date, and then the local time names no instant.

## Main definitions

* `Calendar.Instant`: a point in time, to the microsecond, in UTC.
* `Calendar.LocalTime`, `Calendar.LocalTime.instant?`: a local time and the instant it names.
* `Calendar.Instant.text`: an instant in the extended format of date and time.
-/

namespace DocQuery.Calendar

/-- The number of microseconds of a second. -/
def microsPerSecond : Nat := 1000000

/-- The number of microseconds of a day. -/
def microsPerDay : Nat := 86400 * microsPerSecond

/-- A point in time, to the microsecond, in UTC. -/
structure Instant where
  /-- The date in UTC. -/
  date : Date
  /-- The microseconds since the beginning of that date. -/
  micros : Nat
  /-- The microseconds lie within the date. -/
  micros_lt : micros < microsPerDay
  deriving DecidableEq

/-- A local date and time together with its offset from UTC. -/
structure LocalTime where
  /-- The local date. -/
  date : Date
  /-- The microseconds since the beginning of that date. -/
  micros : Nat
  /-- The offset from UTC in microseconds, positive to the east. -/
  offset : Int

theorem emod_microsPerDay_lt (t : Int) : (t % microsPerDay).toNat < microsPerDay := by
  have h0 : 0 ≤ t % (microsPerDay : Int) := Int.emod_nonneg _ (by decide)
  have h1 : t % (microsPerDay : Int) < microsPerDay := Int.emod_lt_of_pos _ (by decide)
  omega

/-- The instant that a local time names, if it lies in the calendar: the offset is taken away and
the date moves by the whole days that this gains or loses. -/
def LocalTime.instant? (l : LocalTime) : Option Instant :=
  let t : Int := l.micros - l.offset
  let days := t / microsPerDay
  let date? :=
    if days = 0 then some l.date
    else if days = 1 then l.date.next?
    else if days = -1 then l.date.prev?
    else none
  date?.map fun date => ⟨date, (t % microsPerDay).toNat, emod_microsPerDay_lt t⟩

/-- A number in base ten with leading zeros up to a width. -/
def padded : Nat → Nat → List Char
  | 0, _ => []
  | width + 1, n => padded width (n / 10) ++ [Nat.digitChar (n % 10)]

namespace Instant

/-- The hour of the day. -/
def hour (t : Instant) : Nat := t.micros / (3600 * microsPerSecond)

/-- The minute of the hour. -/
def minute (t : Instant) : Nat := t.micros / (60 * microsPerSecond) % 60

/-- The second of the minute. -/
def second (t : Instant) : Nat := t.micros / microsPerSecond % 60

/-- The microsecond of the second. -/
def fraction (t : Instant) : Nat := t.micros % microsPerSecond

/-- The instant in the extended format of date and time; microseconds are written, with six digits,
unless they are zero. -/
def text (t : Instant) : String :=
  String.ofList <|
    padded 4 t.date.year ++ '-' :: padded 2 t.date.month ++ '-' :: padded 2 t.date.day ++
    'T' :: padded 2 t.hour ++ ':' :: padded 2 t.minute ++ ':' :: padded 2 t.second ++
    (if t.fraction = 0 then [] else '.' :: padded 6 t.fraction) ++
    ['+', '0', '0', ':', '0', '0']

end Instant

end DocQuery.Calendar
