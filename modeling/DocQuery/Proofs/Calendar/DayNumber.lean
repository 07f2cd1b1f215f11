import DocQuery.Proofs.Calendar.LocalTime
import Mathlib.Order.Monotone.Basic

/-!
# Counting days and microseconds

Dates are numbered by the days that lie before them, from 1 January of year 1, and instants by the
microseconds that have gone by since the beginning of that day. Both numbers are counted month by
month and year by year. The day after a date has the next number, and no two dates have the same
one, so that taking an offset away from a local time is nothing but a subtraction: the instant that
a local time names is the one whose number is left, and there is one as long as this number lies
between the ends of the calendar.

## Main definitions

* `Calendar.daysOfMonths`, `Calendar.daysOfYears`: the lengths of the first months of a year and of
  the first years.
* `Calendar.Date.dayNumber`: the number of days before a date.
* `Calendar.Instant.sinceStart`, `Calendar.LocalTime.sinceStart`: the number of microseconds since
  the calendar began, in UTC.
* `Calendar.calendarEnd`: the number of microseconds of the whole calendar.

## Main results

* `Calendar.daysOfYears_eq`: the number of leap days.
* `Calendar.Date.dayNumber_of_next?`, `Calendar.Date.dayNumber_of_prev?`: neighbouring dates.
* `Calendar.Date.dayNumber_injective`, `Calendar.Instant.sinceStart_injective`: dates and instants
  are told apart by their numbers.
* `Calendar.LocalTime.sinceStart_of_instant?`: the number of the instant that a local time names.
* `Calendar.LocalTime.exists_instant?`: the local times that name an instant.
-/

namespace DocQuery.Calendar

/-! ### Months and years -/

/-- The number of days of the first months of a year. -/
def daysOfMonths (year : Nat) : Nat → Nat
  | 0 => 0
  | month + 1 => daysOfMonths year month + daysInMonth year (month + 1)

/-- The number of days of the first years. -/
def daysOfYears : Nat → Nat
  | 0 => 0
  | year + 1 => daysOfYears year + daysOfMonths (year + 1) 12

theorem daysOfMonths_mono (year : Nat) : Monotone (daysOfMonths year) :=
  monotone_nat_of_le_succ fun month => Nat.le_add_right (daysOfMonths year month) _

theorem daysOfYears_mono : Monotone daysOfYears :=
  monotone_nat_of_le_succ fun year => Nat.le_add_right (daysOfYears year) _

/-- The length of a year. -/
theorem daysOfMonths_twelve (year : Nat) :
    daysOfMonths year 12 = if isLeapYear year then 366 else 365 := by
  simp only [daysOfMonths, daysInMonth]
  split <;> rfl

theorem isLeapYear_iff {year : Nat} :
    isLeapYear year = true ↔ year % 4 = 0 ∧ (year % 100 ≠ 0 ∨ year % 400 = 0) := by
  simp [isLeapYear]

/-- Every fourth year has a leap day, except the hundredth ones, of which every fourth has one. -/
theorem daysOfYears_eq (year : Nat) :
    daysOfYears year = 365 * year + year / 4 - year / 100 + year / 400 := by
  induction year with
  | zero => rfl
  | succ year ih =>
    rw [daysOfYears, ih, daysOfMonths_twelve]
    split
    · next hleap =>
      rw [isLeapYear_iff] at hleap
      omega
    · next hleap =>
      rw [isLeapYear_iff] at hleap
      omega

/-! ### Dates -/

namespace Date

/-- The number of days before a date, from 1 January of year 1. -/
def dayNumber (d : Date) : Nat :=
  daysOfYears (d.year - 1) + daysOfMonths d.year (d.month - 1) + (d.day - 1)

variable {d d' : Date}

theorem eq_of_ofParts? {year month day : Nat} (h : ofParts? year month day = some d) :
    d.year = year ∧ d.month = month ∧ d.day = day := by
  unfold ofParts? at h
  split at h
  · cases h
    exact ⟨rfl, rfl, rfl⟩
  · cases h

theorem daysOfMonths_month (d : Date) :
    daysOfMonths d.year d.month =
      daysOfMonths d.year (d.month - 1) + daysInMonth d.year d.month := by
  obtain ⟨month, hmonth⟩ := Nat.exists_eq_succ_of_ne_zero (Nat.ne_of_gt d.month_bounds.1)
  rw [hmonth]
  rfl

theorem daysOfYears_year (d : Date) :
    daysOfYears d.year = daysOfYears (d.year - 1) + daysOfMonths d.year 12 := by
  obtain ⟨year, hyear⟩ := Nat.exists_eq_succ_of_ne_zero (Nat.ne_of_gt d.inCalendar.1)
  rw [hyear]
  rfl

/-- The next date has the next number. -/
theorem dayNumber_of_next? (h : d.next? = some d') : d'.dayNumber = d.dayNumber + 1 := by
  obtain ⟨hyear, hlast, hday, hdays⟩ := d.inCalendar
  have hmonth := d.month_bounds
  have hmonths := d.daysOfMonths_month
  have hyears := d.daysOfYears_year
  simp only [next?, Option.orElse_eq_orElse, Option.orElse_eq_or, Option.or_eq_some_iff,
    ofParts?_eq_none_iff] at h
  rcases h with h | ⟨hmonthEnd, h⟩
  · obtain ⟨hy, hm, hd⟩ := eq_of_ofParts? h
    rw [dayNumber, dayNumber, hy, hm, hd]
    omega
  -- otherwise the date is the last of its month
  have hlength : d.day = daysInMonth d.year d.month := by
    by_contra hne
    exact hmonthEnd ⟨hyear, hlast, by omega, by omega⟩
  rcases h with h | ⟨hyearEnd, h⟩
  · obtain ⟨hy, hm, hd⟩ := eq_of_ofParts? h
    rw [dayNumber, dayNumber, hy, hm, hd, Nat.add_sub_cancel, hmonths]
    omega
  · have htwelve : d.month = 12 := by
      have hnone : daysInMonth d.year (d.month + 1) = 0 := by
        by_contra hne
        exact hyearEnd ⟨hyear, hlast, by decide, by omega⟩
      rw [daysInMonth_eq_zero_iff] at hnone
      omega
    obtain ⟨hy, hm, hd⟩ := eq_of_ofParts? h
    rw [htwelve] at hmonths hlength
    rw [dayNumber, dayNumber, hy, hm, hd, htwelve, Nat.add_sub_cancel, hyears, hmonths,
      daysOfMonths]
    omega

/-- The previous date has the previous number. -/
theorem dayNumber_of_prev? (h : d.prev? = some d') : d.dayNumber = d'.dayNumber + 1 := by
  obtain ⟨hyear, hlast, hday, hdays⟩ := d.inCalendar
  obtain ⟨hyear', -, hday', hdays'⟩ := d'.inCalendar
  have hmonth := d.month_bounds
  have hmonth' := d'.month_bounds
  have hmonths := d'.daysOfMonths_month
  have hyears := d'.daysOfYears_year
  simp only [prev?, Option.orElse_eq_orElse, Option.orElse_eq_or, Option.or_eq_some_iff,
    ofParts?_eq_none_iff] at h
  rcases h with h | ⟨hmonthStart, h⟩
  · obtain ⟨hy, hm, hd⟩ := eq_of_ofParts? h
    rw [dayNumber, dayNumber, hy, hm, hd]
    omega
  -- otherwise the date is the first of its month
  have hfirst : d.day = 1 := by
    by_contra hne
    exact hmonthStart ⟨hyear, hlast, by omega, by omega⟩
  rcases h with h | ⟨hyearStart, h⟩
  · obtain ⟨hy, hm, hd⟩ := eq_of_ofParts? h
    rw [← hy, ← hm] at hd
    rw [dayNumber, dayNumber, hfirst, ← hy, ← hm]
    omega
  · obtain ⟨hy, hm, hd⟩ := eq_of_ofParts? h
    have hone : d.month = 1 := by
      have hnone : daysInMonth d.year (d.month - 1) = 0 := by
        by_contra hne
        exact hyearStart ⟨hyear, hlast, by omega, Nat.le_refl _⟩
      rw [daysInMonth_eq_zero_iff] at hnone
      omega
    have hlength : daysInMonth d'.year 12 = 31 := rfl
    have hnone : daysOfMonths d.year (1 - 1) = 0 := rfl
    rw [hm, hlength] at hmonths
    rw [dayNumber, dayNumber, hfirst, hone, hnone, ← hy, hm, hd]
    omega

/-! ### Dates are told apart -/

/-- A date lies before the end of its month. -/
theorem dayNumber_lt (d : Date) :
    d.dayNumber < daysOfYears (d.year - 1) + daysOfMonths d.year d.month := by
  obtain ⟨-, -, hday, hdays⟩ := d.inCalendar
  have hmonths := d.daysOfMonths_month
  rw [dayNumber]
  omega

/-- A date lies before the end of its year. -/
theorem dayNumber_lt_daysOfYears (d : Date) : d.dayNumber < daysOfYears d.year := by
  have hmonth := daysOfMonths_mono d.year d.month_bounds.2
  have hyears := d.daysOfYears_year
  have hlt := d.dayNumber_lt
  omega

theorem dayNumber_lt_of_year_lt (h : d.year < d'.year) : d.dayNumber < d'.dayNumber := by
  have hyears : daysOfYears d.year ≤ daysOfYears (d'.year - 1) := daysOfYears_mono (by omega)
  have hlt := d.dayNumber_lt_daysOfYears
  rw [dayNumber, dayNumber] at *
  omega

theorem dayNumber_lt_of_month_lt (hyear : d.year = d'.year) (h : d.month < d'.month) :
    d.dayNumber < d'.dayNumber := by
  have hmonths : daysOfMonths d.year d.month ≤ daysOfMonths d.year (d'.month - 1) :=
    daysOfMonths_mono d.year (by omega)
  have hlt := d.dayNumber_lt
  rw [dayNumber, dayNumber, ← hyear] at *
  omega

/-- Dates are told apart by their numbers. -/
theorem dayNumber_injective : Function.Injective dayNumber := by
  intro d d' h
  have hyear : d.year = d'.year := by
    rcases Nat.lt_trichotomy d.year d'.year with hlt | heq | hgt
    · exact absurd h (Nat.ne_of_lt (dayNumber_lt_of_year_lt hlt))
    · exact heq
    · exact absurd h (Nat.ne_of_gt (dayNumber_lt_of_year_lt hgt))
  have hmonth : d.month = d'.month := by
    rcases Nat.lt_trichotomy d.month d'.month with hlt | heq | hgt
    · exact absurd h (Nat.ne_of_lt (dayNumber_lt_of_month_lt hyear hlt))
    · exact heq
    · exact absurd h (Nat.ne_of_gt (dayNumber_lt_of_month_lt hyear.symm hgt))
  have hday : d.day = d'.day := by
    have hone := d.inCalendar.2.2.1
    have hone' := d'.inCalendar.2.2.1
    rw [dayNumber, dayNumber, hyear, hmonth] at h
    omega
  cases d
  cases d'
  simp_all

end Date

/-! ### Instants -/

/-- The number of microseconds of the whole calendar. -/
def calendarEnd : Int := daysOfYears 9999 * microsPerDay

/-- The calendar has 3652059 days. -/
theorem calendarEnd_eq : calendarEnd = 3652059 * microsPerDay := by
  rw [calendarEnd, daysOfYears_eq]
  rfl

/-- The number of microseconds since the calendar began. -/
def Instant.sinceStart (t : Instant) : Int := t.date.dayNumber * microsPerDay + t.micros

/-- The number of microseconds since the calendar began, in UTC. -/
def LocalTime.sinceStart (l : LocalTime) : Int :=
  l.date.dayNumber * microsPerDay + l.micros - l.offset

theorem Instant.sinceStart_bounds (t : Instant) :
    0 ≤ t.sinceStart ∧ t.sinceStart < calendarEnd := by
  have hdays : t.date.dayNumber < daysOfYears 9999 :=
    Nat.lt_of_lt_of_le t.date.dayNumber_lt_daysOfYears (daysOfYears_mono t.date.inCalendar.2.1)
  have hmicros := t.micros_lt
  have hlength : microsPerDay = 86400000000 := rfl
  rw [hlength] at hmicros
  rw [Instant.sinceStart, calendarEnd, hlength]
  omega

/-- Instants are told apart by their numbers. -/
theorem Instant.sinceStart_injective : Function.Injective Instant.sinceStart := by
  intro t t' h
  have hmicros := t.micros_lt
  have hmicros' := t'.micros_lt
  have hlength : microsPerDay = 86400000000 := rfl
  rw [hlength] at hmicros hmicros'
  rw [Instant.sinceStart, Instant.sinceStart, hlength] at h
  have hdate : t.date = t'.date := Date.dayNumber_injective (by omega)
  rw [hdate] at h
  have heq : t.micros = t'.micros := by omega
  cases t
  cases t'
  simp_all

namespace LocalTime

variable {l : LocalTime} {t : Instant}

/-- The instant that a local time names has the number of the local time. -/
theorem sinceStart_of_instant? (h : l.instant? = some t) : t.sinceStart = l.sinceStart := by
  have hlength : (microsPerDay : Int) = 86400000000 := rfl
  have hday : (microsPerDay : Int) ≠ 0 := by decide
  have hmod := Int.emod_nonneg ((l.micros : Int) - l.offset) hday
  have hdiv := Int.mul_ediv_add_emod ((l.micros : Int) - l.offset) microsPerDay
  rw [instant?] at h
  obtain ⟨date, hdate, rfl⟩ := Option.map_eq_some_iff.1 h
  rw [Instant.sinceStart, sinceStart, Int.toNat_of_nonneg hmod]
  -- the date moves by as many days as the offset gains or loses
  have hdays : (date.dayNumber : Int) =
      l.date.dayNumber + ((l.micros : Int) - l.offset) / microsPerDay := by
    split_ifs at hdate with hsame hnext hprev
    · rw [hsame, Option.some.inj hdate]
      omega
    · rw [hnext, Date.dayNumber_of_next? hdate]
      omega
    · rw [hprev, Date.dayNumber_of_prev? hdate]
      omega
  rw [hdays]
  linarith

/-- A local time that lies beyond the ends of the calendar has a number that does. -/
theorem sinceStart_of_leavesCalendar (h : l.LeavesCalendar) :
    l.sinceStart < 0 ∨ calendarEnd ≤ l.sinceStart := by
  have hlength : microsPerDay = 86400000000 := rfl
  cases h with
  | before hdate hmicros =>
    obtain ⟨hyear, hmonth, hday⟩ := hdate
    have hfirst : l.date.dayNumber = 0 := by
      rw [Date.dayNumber, hyear, hmonth, hday]
      rfl
    rw [sinceStart, hfirst]
    omega
  | after hdate hmicros =>
    obtain ⟨hyear, hmonth, hday⟩ := hdate
    have hlast : l.date.dayNumber + 1 = daysOfYears 9999 := by
      have hdays := l.date.daysOfMonths_month
      have hyears := l.date.daysOfYears_year
      have hdecember : daysInMonth 9999 12 = 31 := rfl
      rw [hyear, hmonth, hdecember] at hdays
      rw [hyear] at hyears
      rw [Date.dayNumber, hyear, hmonth, hday]
      omega
    rw [sinceStart, calendarEnd, ← hlast]
    rw [hlength] at hmicros ⊢
    omega

/-- A local time within a day and less than a day away from UTC names an instant if its number lies
between the ends of the calendar. -/
theorem exists_instant? (hmicros : l.micros < microsPerDay)
    (hoffset : l.offset.natAbs < microsPerDay) (hlow : 0 ≤ l.sinceStart)
    (hhigh : l.sinceStart < calendarEnd) : ∃ t, l.instant? = some t := by
  cases hinstant : l.instant? with
  | none =>
    have hleaves := (instant?_eq_none_iff hmicros hoffset).1 hinstant
    rcases sinceStart_of_leavesCalendar hleaves with hbefore | hafter
    · omega
    · omega
  | some t => exact ⟨t, rfl⟩

end LocalTime

end DocQuery.Calendar
