import DocQuery.Calendar.LocalTime
import DocQuery.Proofs.Number.Decimal
import Mathlib.Data.List.Induction
import Mathlib.Tactic.ByContra
import Mathlib.Tactic.SplitIfs

/-!
# Local times and the ends of the calendar

A local time that is read from a text lies within a day and is less than a day away from UTC. So it
names an instant unless the offset leads out of the calendar: from the first day of year 1 back into
the day before, or from the last day of year 9999 into the day after.

The text of a local time begins with four decimal digits and a hyphen.

## Main definitions

* `Calendar.Reader.AtMost`: readers whose numbers have an upper bound.
* `Calendar.LocalTime.LeavesCalendar`: local times that lie beyond the ends of the calendar in UTC.

## Main results

* `Calendar.Date.next?_eq_none_iff`, `Calendar.Date.prev?_eq_none_iff`: the ends of the calendar.
* `Calendar.instant?_eq_none_iff`: the local times that are read but name no instant.
* `Calendar.exists_of_readLocalTime?`: how the text of a local time begins.
-/

namespace DocQuery.Calendar

open DocQuery.Number (tenPow tenPow_succ)
open DocQuery.Text (decimalDigit?)

/-! ### The ends of the calendar -/

namespace Date

theorem ofParts?_eq_none_iff {year month day : Nat} :
    ofParts? year month day = none ↔ ¬InCalendar year month day := by
  unfold ofParts?
  split <;> simp [*]

theorem daysInMonth_eq_zero_iff {year month : Nat} :
    daysInMonth year month = 0 ↔ month = 0 ∨ 12 < month := by
  unfold daysInMonth
  split
  · split <;> simp
  all_goals simp_all
  omega

theorem month_bounds (d : Date) : 1 ≤ d.month ∧ d.month ≤ 12 := by
  obtain ⟨-, -, hday, hmonth⟩ := d.inCalendar
  have hne : daysInMonth d.year d.month ≠ 0 := by omega
  rw [ne_eq, daysInMonth_eq_zero_iff] at hne
  omega

/-- Every date has a next one, except 31 December of year 9999. -/
theorem next?_eq_none_iff (d : Date) :
    d.next? = none ↔ d.year = 9999 ∧ d.month = 12 ∧ d.day = 31 := by
  obtain ⟨hyear, hlast, hday, hdays⟩ := d.inCalendar
  have hmonth := d.month_bounds
  simp only [next?, Option.orElse_eq_orElse, Option.orElse_eq_or, Option.or_eq_none_iff,
    ofParts?_eq_none_iff]
  constructor
  · rintro ⟨hnextDay, hnextMonth, hnextYear⟩
    have hyearEnd : d.year = 9999 := by
      by_contra hne
      exact hnextYear ⟨by omega, by omega, by omega, by simp [daysInMonth]⟩
    have hmonthEnd : d.month = 12 := by
      by_contra hne
      have hpos : daysInMonth d.year (d.month + 1) ≠ 0 := by
        rw [ne_eq, daysInMonth_eq_zero_iff]
        omega
      exact hnextMonth ⟨hyear, hlast, by omega, by omega⟩
    rw [hmonthEnd] at hdays hnextDay
    have hdayEnd : d.day = 31 := by
      by_contra hne
      have hlength : daysInMonth d.year 12 = 31 := rfl
      exact hnextDay ⟨hyear, hlast, by omega, by omega⟩
    exact ⟨hyearEnd, hmonthEnd, hdayEnd⟩
  · rintro ⟨hy, hm, hd⟩
    rw [hy, hm, hd]
    decide

/-- Every date has a previous one, except 1 January of year 1. -/
theorem prev?_eq_none_iff (d : Date) :
    d.prev? = none ↔ d.year = 1 ∧ d.month = 1 ∧ d.day = 1 := by
  obtain ⟨hyear, hlast, hday, hdays⟩ := d.inCalendar
  have hmonth := d.month_bounds
  simp only [prev?, Option.orElse_eq_orElse, Option.orElse_eq_or, Option.or_eq_none_iff,
    ofParts?_eq_none_iff]
  constructor
  · rintro ⟨hprevDay, hprevMonth, hprevYear⟩
    have hyearEnd : d.year = 1 := by
      by_contra hne
      exact hprevYear ⟨by omega, by omega, by omega, by simp [daysInMonth]⟩
    have hmonthEnd : d.month = 1 := by
      by_contra hne
      have hpos : daysInMonth d.year (d.month - 1) ≠ 0 := by
        rw [ne_eq, daysInMonth_eq_zero_iff]
        omega
      exact hprevMonth ⟨hyear, hlast, by omega, Nat.le_refl _⟩
    have hdayEnd : d.day = 1 := by
      by_contra hne
      exact hprevDay ⟨hyear, hlast, by omega, by omega⟩
    exact ⟨hyearEnd, hmonthEnd, hdayEnd⟩
  · rintro ⟨hy, hm, hd⟩
    rw [hy, hm, hd]
    decide

end Date

/-- Whether a local time lies beyond the ends of the calendar in UTC: on the first day of year 1 it
is east of UTC by more than the time of day, or on the last day of year 9999 it is west of UTC by at
least what is left of the day. -/
inductive LocalTime.LeavesCalendar (l : LocalTime) : Prop
  | before (hdate : l.date.year = 1 ∧ l.date.month = 1 ∧ l.date.day = 1)
      (hmicros : (l.micros : Int) < l.offset) : LeavesCalendar l
  | after (hdate : l.date.year = 9999 ∧ l.date.month = 12 ∧ l.date.day = 31)
      (hmicros : (microsPerDay : Int) ≤ l.micros - l.offset) : LeavesCalendar l

/-- A local time within a day and less than a day away from UTC names no instant exactly if it
leaves the calendar. -/
theorem LocalTime.instant?_eq_none_iff {l : LocalTime} (hmicros : l.micros < microsPerDay)
    (hoffset : l.offset.natAbs < microsPerDay) : l.instant? = none ↔ l.LeavesCalendar := by
  have hday : (microsPerDay : Int) = 86400000000 := rfl
  have hlength : microsPerDay = 86400000000 := rfl
  have hleaves : l.LeavesCalendar ↔ (l.date.prev? = none ∧ (l.micros : Int) - l.offset < 0) ∨
      (l.date.next? = none ∧ (microsPerDay : Int) ≤ l.micros - l.offset) := by
    rw [Date.prev?_eq_none_iff, Date.next?_eq_none_iff]
    constructor
    · rintro (⟨hdate, ht⟩ | ⟨hdate, ht⟩)
      · exact Or.inl ⟨hdate, by omega⟩
      · exact Or.inr ⟨hdate, ht⟩
    · rintro (⟨hdate, ht⟩ | ⟨hdate, ht⟩)
      · exact .before hdate (by omega)
      · exact .after hdate ht
  rw [hleaves, instant?]
  simp only [Option.map_eq_none_iff, hday]
  -- the whole days that the offset gains or loses are none, one or minus one
  split_ifs with hsame hnext hprev
  · simp only [false_iff]
    omega
  · constructor
    · exact fun h => Or.inr ⟨h, by omega⟩
    · rintro (⟨-, ht⟩ | ⟨h, -⟩)
      · omega
      · exact h
  · constructor
    · exact fun h => Or.inl ⟨h, by omega⟩
    · rintro (⟨h, -⟩ | ⟨-, ht⟩)
      · exact h
      · omega
  · omega

/-! ### Bounds of what is read -/

namespace Reader

/-- Whether the numbers that a reader reads are at most a given one. -/
def AtMost (f : Reader Nat) (bound : Nat) : Prop := ∀ s n rest, f s = some (n, rest) → n ≤ bound

variable {f g : Reader Nat} {a b : Nat}

theorem AtMost.mono (h : AtMost f a) (hab : a ≤ b) : AtMost f b :=
  fun s n rest hn => Nat.le_trans (h s n rest hn) hab

theorem AtMost.either (hf : AtMost f a) (hg : AtMost g a) : AtMost (either f g) a := by
  intro s n rest h
  rw [Reader.either, Option.orElse_eq_orElse, Option.orElse_eq_or, Option.or_eq_some_iff] at h
  rcases h with h | ⟨-, h⟩
  · exact hf s n rest h
  · exact hg s n rest h

theorem AtMost.twoDigits (hf : AtMost f a) (hg : AtMost g b) :
    AtMost (twoDigits f g) (10 * a + b) := by
  intro s n rest h
  simp only [Reader.twoDigits, Option.bind_eq_bind, Option.bind_eq_some_iff, Option.pure_def,
    Option.some.injEq, Prod.mk.injEq, Prod.exists] at h
  obtain ⟨t, s', ht, u, s'', hu, rfl, rfl⟩ := h
  have htens := hf s t s' ht
  have hunits := hg s' u s'' hu
  omega

theorem atMost_digit (low high : Nat) : AtMost (digit low high) high := by
  intro s n rest h
  cases s with
  | nil => cases h
  | cons c s =>
    simp only [digit] at h
    split at h
    · next hdigit =>
      cases h
      exact hdigit.2.2
    · cases h

theorem decimalDigit?_le {c : Char} {n : Nat} (h : decimalDigit? c = some n) : n ≤ 9 := by
  obtain ⟨first, hfirst, rfl⟩ := Option.map_eq_some_iff.1 h
  have hrun := List.find?_some hfirst
  simp only [Bool.and_eq_true, decide_eq_true_eq] at hrun
  omega

theorem atMost_anyDigit : AtMost anyDigit 9 := by
  intro s n rest h
  cases s with
  | nil => cases h
  | cons c s =>
    obtain ⟨m, hm, heq⟩ := Option.map_eq_some_iff.1 h
    cases heq
    exact decimalDigit?_le hm

theorem atMost_hour : AtMost hour 23 := by
  refine .either ((atMost_digit 2 2).twoDigits (atMost_digit 0 3)) (.either ?_ ?_)
  · exact ((atMost_digit 0 1).twoDigits atMost_anyDigit).mono (by decide)
  · exact atMost_anyDigit.mono (by decide)

theorem atMost_minute : AtMost minute 59 :=
  .either ((atMost_digit 0 5).twoDigits atMost_anyDigit) (atMost_anyDigit.mono (by decide))

/-- Up to `n` digits are read, none above nine. -/
theorem upTo_bounds (hf : AtMost f 9) {n : Nat} {s : List Char} {ds : List Nat} {rest : List Char}
    (h : upTo f n s = some (ds, rest)) : ds.length ≤ n ∧ ∀ d ∈ ds, d ≤ 9 := by
  induction n generalizing s ds with
  | zero =>
    cases h
    simp
  | succ n ih =>
    unfold upTo at h
    split at h
    · cases h
      simp
    · next d s' hd =>
      obtain ⟨⟨ds', rest'⟩, hrest, heq⟩ := Option.map_eq_some_iff.1 h
      cases heq
      obtain ⟨hlength, hdigits⟩ := ih hrest
      exact ⟨Nat.succ_le_succ hlength, List.forall_mem_cons.2 ⟨hf s d s' hd, hdigits⟩⟩

/-- The number that digits denote has no more digits than these. -/
theorem foldl_digits_lt {ds : List Nat} (hds : ∀ d ∈ ds, d ≤ 9) :
    ds.foldl (fun n d => 10 * n + d) 0 < tenPow ds.length := by
  induction ds using List.reverseRecOn with
  | nil => decide
  | append_singleton ds d ih =>
    obtain ⟨hinit, hlast⟩ := List.forall_mem_append.1 hds
    have hd := hlast d (List.mem_singleton.2 rfl)
    have hn := ih hinit
    rw [List.foldl_append, List.length_append, List.length_singleton, tenPow_succ, List.foldl_cons,
      List.foldl_nil]
    omega

/-- A fraction is shorter than a second. -/
theorem atMost_fraction (hf : AtMost f 9) : AtMost (fraction f) (microsPerSecond - 1) := by
  intro s n rest h
  unfold fraction at h
  split at h
  · cases h
    decide
  · simp only [Option.bind_eq_bind, Option.bind_eq_some_iff, Prod.exists] at h
    obtain ⟨ds, s', hds, h⟩ := h
    obtain ⟨hlength, hdigits⟩ := upTo_bounds hf hds
    split at h
    · cases h
    · cases h
      have hvalue := foldl_digits_lt hdigits
      have hpow : tenPow ds.length * tenPow (6 - ds.length) = microsPerSecond := by
        simp only [tenPow, Nat.pow_eq]
        rw [← Nat.pow_add, Nat.add_sub_cancel' hlength]
        rfl
      have hscaled : ds.foldl (fun n d => 10 * n + d) 0 * tenPow (6 - ds.length) <
          microsPerSecond := by
        rw [← hpow]
        exact Nat.mul_lt_mul_of_pos_right hvalue (Nat.pow_pos (by decide))
      omega

/-- A time of day lies within a day. -/
theorem timeOfDay_lt {s rest : List Char} {micros : Nat}
    (h : timeOfDay s = some (micros, rest)) : micros < microsPerDay := by
  simp only [timeOfDay, Option.bind_eq_bind, Option.bind_eq_some_iff, Prod.exists, Option.pure_def,
    Option.some.injEq, Prod.mk.injEq] at h
  obtain ⟨hours, s₁, hhours, -, s₂, -, minutes, s₃, hminutes, -, s₄, -, seconds, s₅, hseconds,
    fraction, s₆, hfraction, rfl, -⟩ := h
  have hhours := atMost_hour _ _ _ hhours
  have hminutes := atMost_minute _ _ _ hminutes
  have hseconds := atMost_minute _ _ _ hseconds
  have hfraction := atMost_fraction (atMost_digit 0 9) _ _ _ hfraction
  simp only [microsPerDay, microsPerSecond] at *
  omega

/-- An offset is shorter than a day. -/
theorem natAbs_zone_lt {s rest : List Char} {offset : Int} (h : zone s = some (offset, rest)) :
    offset.natAbs < microsPerDay := by
  cases s with
  | nil => cases h
  | cons c s =>
    simp only [zone] at h
    split at h
    · cases h
      decide
    · split at h
      · simp only [Option.bind_eq_bind, Option.bind_eq_some_iff, Prod.exists] at h
        obtain ⟨magnitude, s', -, h⟩ := h
        split at h
        · next hshort =>
          simp only [Option.pure_def, Option.some.injEq, Prod.mk.injEq] at h
          obtain ⟨rfl, -⟩ := h
          split <;> simpa using hshort
        · cases h
      · cases h

end Reader

/-- A local time that is read lies within a day and is less than a day away from UTC. -/
theorem bounds_of_readLocalTime? {s : String} {l : LocalTime} (h : readLocalTime? s = some l) :
    l.micros < microsPerDay ∧ l.offset.natAbs < microsPerDay := by
  simp only [readLocalTime?, Option.bind_eq_bind, Option.bind_eq_some_iff, Prod.exists] at h
  obtain ⟨date, rest, -, h⟩ := h
  split at h
  · cases h
    have hday : 0 < microsPerDay := by decide
    exact ⟨hday, hday⟩
  · split_ifs at h with hmark
    simp only [Option.bind_eq_some_iff, Prod.exists] at h
    obtain ⟨micros, s', hmicros, offset, s'', hoffset, h⟩ := h
    split_ifs at h
    cases h
    exact ⟨Reader.timeOfDay_lt hmicros, Reader.natAbs_zone_lt hoffset⟩

/-- A local time that is read names no instant exactly if it leaves the calendar. -/
theorem instant?_eq_none_iff {s : String} {l : LocalTime} (h : readLocalTime? s = some l) :
    l.instant? = none ↔ l.LeavesCalendar :=
  LocalTime.instant?_eq_none_iff (bounds_of_readLocalTime? h).1 (bounds_of_readLocalTime? h).2

/-! ### How a text begins -/

/-- Cutting a fraction leaves what stands in front of the first point. -/
theorem exists_of_cutFraction {p s r : List Char} (hp : '.' ∉ p) (h : cutFraction s = p ++ r) :
    ∃ r', s = p ++ r' ∧ cutFraction r' = r := by
  induction p generalizing s with
  | nil => exact ⟨s, rfl, h⟩
  | cons c p ih =>
    rw [List.mem_cons, not_or] at hp
    cases s with
    | nil => cases h
    | cons c' s =>
      unfold cutFraction at h
      split at h
      · exact absurd (List.cons.inj h).1 hp.1
      · obtain ⟨rfl, hrest⟩ := List.cons.inj h
        obtain ⟨r', rfl, hr'⟩ := ih hp.2 hrest
        exact ⟨r', rfl, hr'⟩

namespace Reader

theorem exists_of_anyDigit {s rest : List Char} {n : Nat} (h : anyDigit s = some (n, rest)) :
    ∃ c, s = c :: rest ∧ decimalDigit? c = some n := by
  cases s with
  | nil => cases h
  | cons c s =>
    obtain ⟨m, hm, heq⟩ := Option.map_eq_some_iff.1 h
    cases heq
    exact ⟨c, rfl, hm⟩

theorem eq_cons_of_mark {m : Char} {s rest : List Char} {u : Unit}
    (h : mark m s = some (u, rest)) : s = m :: rest := by
  cases s with
  | nil => cases h
  | cons c s =>
    by_cases hc : c = m
    · rw [mark, if_pos hc] at h
      cases h
      rw [hc]
    · rw [mark, if_neg hc] at h
      cases h

/-- A year is written with four decimal digits. -/
theorem exists_of_year {s rest : List Char} {n : Nat} (h : year s = some (n, rest)) :
    ∃ ds, s = ds ++ rest ∧ ds.length = 4 ∧ ∀ c ∈ ds, (decimalDigit? c).isSome = true := by
  simp only [year, twoDigits, Option.bind_eq_bind, Option.bind_eq_some_iff, Prod.exists,
    Option.pure_def, Option.some.injEq, Prod.mk.injEq] at h
  obtain ⟨_, _, ⟨_, _, h₁, _, _, h₂, -, rfl⟩, _, _, ⟨_, _, h₃, _, _, h₄, -, rfl⟩, -, rfl⟩ := h
  obtain ⟨c₁, rfl, hc₁⟩ := exists_of_anyDigit h₁
  obtain ⟨c₂, rfl, hc₂⟩ := exists_of_anyDigit h₂
  obtain ⟨c₃, rfl, hc₃⟩ := exists_of_anyDigit h₃
  obtain ⟨c₄, rfl, hc₄⟩ := exists_of_anyDigit h₄
  exact ⟨[c₁, c₂, c₃, c₄], rfl, rfl, by simp [hc₁, hc₂, hc₃, hc₄]⟩

end Reader

/-- The text of a local time begins with the four decimal digits of a year and a hyphen. -/
theorem exists_of_readLocalTime? {s : String} {l : LocalTime} (h : readLocalTime? s = some l) :
    ∃ ds rest, s.toList = ds ++ '-' :: rest ∧ ds.length = 4 ∧
      ∀ c ∈ ds, (decimalDigit? c).isSome = true := by
  simp only [readLocalTime?, Reader.date, Option.bind_eq_bind, Option.bind_eq_some_iff,
    Prod.exists] at h
  obtain ⟨-, -, ⟨year, afterYear, hyear, u, afterMark, hmark, -⟩, -⟩ := h
  obtain ⟨ds, hds, hlength, hdigits⟩ := Reader.exists_of_year hyear
  rw [Reader.eq_cons_of_mark hmark, List.append_cons] at hds
  have hpoint : '.' ∉ ds ++ ['-'] := by
    rw [List.mem_append, List.mem_singleton, not_or]
    refine ⟨fun hmem => ?_, by decide⟩
    have hsome := hdigits '.' hmem
    revert hsome
    decide
  obtain ⟨rest, hrest, -⟩ := exists_of_cutFraction hpoint hds
  exact ⟨ds, rest, by rw [hrest, List.append_assoc, List.singleton_append], hlength, hdigits⟩

end DocQuery.Calendar
