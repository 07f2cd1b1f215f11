import DocQuery.Proofs.Calendar.LocalTime

/-!
# Reading dates and times that were written

Numbers that are written in base ten with leading zeros are read back from the places of a date and
a time, and the text of an instant is read as its own date and time in UTC.

## Main results

* `Calendar.exists_digits_padded`: the digits of a number with leading zeros.
* `Calendar.Reader.year_padded`, `Calendar.Reader.month_padded`, `Calendar.Reader.day_padded`,
  `Calendar.Reader.hour_padded`, `Calendar.Reader.minute_padded`: the places of a date and a time.
* `Calendar.Reader.fraction_digits`: a fraction of up to six digits.
* `Calendar.readLocalTime?_text`: the text of an instant.
* `Calendar.Instant.instant?_localTime`: the instant that is named by its own local time.
-/

namespace DocQuery.Calendar

open DocQuery.Number (tenPow tenPow_succ isDigit_digitChar digitChar_sub)
open DocQuery.Text (decimalDigit? decimalDigit?_of_isDigit)

/-! ### Digits -/

/-- A number with leading zeros consists of as many digits as it is wide, which denote what the
width leaves of it. -/
theorem exists_digits_padded (width n : Nat) :
    ∃ ds : List Nat, padded width n = ds.map Nat.digitChar ∧ ds.length = width ∧
      (∀ d ∈ ds, d < 10) ∧ ds.foldl (fun m d => 10 * m + d) 0 = n % tenPow width := by
  induction width generalizing n with
  | zero => exact ⟨[], rfl, rfl, by simp, (Nat.mod_one n).symm⟩
  | succ width ih =>
    obtain ⟨ds, hds, hlength, hdigits, hvalue⟩ := ih (n / 10)
    refine ⟨ds ++ [n % 10], by simp [padded, hds], by simp [hlength], ?_, ?_⟩
    · exact List.forall_mem_append.2
        ⟨hdigits, List.forall_mem_singleton.2 (Nat.mod_lt n (by decide))⟩
    · rw [List.foldl_append, hvalue, List.foldl_cons, List.foldl_nil, tenPow_succ,
        Nat.mul_comm (tenPow width), Nat.mod_mul, Nat.add_comm]

theorem length_padded (width n : Nat) : (padded width n).length = width := by
  obtain ⟨ds, hds, hlength, -, -⟩ := exists_digits_padded width n
  rw [hds, List.length_map, hlength]

theorem isDigit_of_mem_padded {width n : Nat} {c : Char} (hc : c ∈ padded width n) :
    c.isDigit = true := by
  obtain ⟨ds, hds, -, hdigits, -⟩ := exists_digits_padded width n
  rw [hds] at hc
  obtain ⟨d, hd, rfl⟩ := List.mem_map.1 hc
  exact isDigit_digitChar (hdigits d hd)

theorem point_notMem_padded (width n : Nat) : '.' ∉ padded width n := fun h =>
  absurd (isDigit_of_mem_padded h) (by decide)

theorem padded_two (n : Nat) :
    padded 2 n = [Nat.digitChar (n / 10 % 10), Nat.digitChar (n % 10)] := rfl

theorem padded_four (n : Nat) : padded 4 n = padded 2 (n / 100) ++ padded 2 (n % 100) := by
  have h1 : n / 10 / 10 / 10 % 10 = n / 100 / 10 % 10 := by omega
  have h2 : n / 10 / 10 % 10 = n / 100 % 10 := by omega
  have h3 : n / 10 % 10 = n % 100 / 10 % 10 := by omega
  have h4 : n % 10 = n % 100 % 10 := by omega
  simp only [padded, List.nil_append, List.cons_append]
  rw [h1, h2, h3, h4]

theorem daysInMonth_le (year month : Nat) : daysInMonth year month ≤ 31 := by
  unfold daysInMonth
  split
  · split <;> decide
  all_goals decide

namespace Reader

variable {α : Type} {f g : Reader α} {s : List Char} {r : α × List Char}
variable {n low high low' high' : Nat}

theorem either_of_some (h : f s = some r) : either f g s = some r := by
  rw [either, h]
  rfl

theorem either_of_none (h : f s = none) : either f g s = g s := by
  rw [either, h]
  rfl

theorem digit_digitChar (hn : n < 10) (hlow : low ≤ n) (hhigh : n ≤ high)
    (s : List Char) : digit low high (Nat.digitChar n :: s) = some (n, s) := by
  simp only [digit, isDigit_digitChar hn, digitChar_sub hn, true_and, if_pos (And.intro hlow hhigh)]

theorem digit_digitChar_eq_none (hn : n < 10) (h : n < low ∨ high < n)
    (s : List Char) : digit low high (Nat.digitChar n :: s) = none := by
  have hbounds : ¬(low ≤ n ∧ n ≤ high) := by omega
  simp only [digit, isDigit_digitChar hn, digitChar_sub hn, true_and, if_neg hbounds]

theorem anyDigit_digitChar (hn : n < 10) (s : List Char) :
    anyDigit (Nat.digitChar n :: s) = some (n, s) := by
  rw [anyDigit, decimalDigit?_of_isDigit (isDigit_digitChar hn), digitChar_sub hn, Option.map_some]

/-- Two digits are read if each of them is read at its place. -/
theorem twoDigits_padded {tens units : Reader Nat} (hn : n < 100)
    (htens : ∀ s, tens (Nat.digitChar (n / 10) :: s) = some (n / 10, s))
    (hunits : ∀ s, units (Nat.digitChar (n % 10) :: s) = some (n % 10, s)) (s : List Char) :
    twoDigits tens units (padded 2 n ++ s) = some (n, s) := by
  have hdigit : n / 10 % 10 = n / 10 := by omega
  have hvalue : 10 * (n / 10) + n % 10 = n := by omega
  simp [twoDigits, padded_two, hdigit, htens, hunits, hvalue]

/-- Two digits are read if each of them lies within its bounds. -/
theorem twoDigits_digit_digit (hn : n < 100) (htens : low ≤ n / 10 ∧ n / 10 ≤ high)
    (hunits : low' ≤ n % 10 ∧ n % 10 ≤ high') (s : List Char) :
    twoDigits (digit low high) (digit low' high') (padded 2 n ++ s) = some (n, s) :=
  twoDigits_padded hn (digit_digitChar (by omega) htens.1 htens.2)
    (digit_digitChar (by omega) hunits.1 hunits.2) s

/-- Two digits are read if the first of them lies within its bounds and any other may follow. -/
theorem twoDigits_digit_anyDigit (hn : n < 100) (htens : low ≤ n / 10 ∧ n / 10 ≤ high)
    (s : List Char) : twoDigits (digit low high) anyDigit (padded 2 n ++ s) = some (n, s) :=
  twoDigits_padded hn (digit_digitChar (by omega) htens.1 htens.2)
    (anyDigit_digitChar (by omega)) s

/-- Two digits are not read if the first of them does not lie within its bounds. -/
theorem twoDigits_digit_eq_none {units : Reader Nat} (hn : n < 100)
    (htens : n / 10 < low ∨ high < n / 10) (s : List Char) :
    twoDigits (digit low high) units (padded 2 n ++ s) = none := by
  have hdigit : n / 10 % 10 = n / 10 := by omega
  have hnone := digit_digitChar_eq_none (show n / 10 < 10 by omega) htens
  simp [twoDigits, padded_two, hdigit, hnone]

/-! ### Places of a date -/

/-- The year. -/
theorem year_padded {y : Nat} (hy : y ≤ 9999) (s : List Char) :
    year (padded 4 y ++ s) = some (y, s) := by
  have hcentury : y / 100 < 100 := by omega
  have hrest : y % 100 < 100 := Nat.mod_lt y (by decide)
  have hvalue : 100 * (y / 100) + y % 100 = y := Nat.div_add_mod y 100
  have htwo {n : Nat} (hn : n < 100) (s : List Char) :
      twoDigits anyDigit anyDigit (padded 2 n ++ s) = some (n, s) :=
    twoDigits_padded hn (anyDigit_digitChar (by omega))
      (anyDigit_digitChar (Nat.mod_lt n (by decide))) s
  simp [year, padded_four, htwo hcentury, htwo hrest, hvalue]

/-- The month. -/
theorem month_padded {m : Nat} (hlow : 1 ≤ m) (hhigh : m ≤ 12) (s : List Char) :
    month (padded 2 m ++ s) = some (m, s) := by
  unfold month
  by_cases hten : 10 ≤ m
  · exact either_of_some (twoDigits_digit_digit (by omega) (by omega) (by omega) s)
  · rw [either_of_none (twoDigits_digit_eq_none (by omega) (by omega) s)]
    exact either_of_some (twoDigits_digit_digit (by omega) (by omega) (by omega) s)

/-- The day. -/
theorem day_padded {d : Nat} (hlow : 1 ≤ d) (hhigh : d ≤ 31) (s : List Char) :
    day (padded 2 d ++ s) = some (d, s) := by
  unfold day
  by_cases hthirty : 30 ≤ d
  · exact either_of_some (twoDigits_digit_digit (by omega) (by omega) (by omega) s)
  rw [either_of_none (twoDigits_digit_eq_none (by omega) (by omega) s)]
  by_cases hten : 10 ≤ d
  · exact either_of_some (twoDigits_digit_anyDigit (by omega) (by omega) s)
  rw [either_of_none (twoDigits_digit_eq_none (by omega) (by omega) s)]
  exact either_of_some (twoDigits_digit_digit (by omega) (by omega) (by omega) s)

/-- A character that is looked for. -/
theorem mark_cons (m : Char) (s : List Char) : mark m (m :: s) = some ((), s) := if_pos rfl

/-- A date. -/
theorem date_padded (d : Date) (s : List Char) :
    date (padded 4 d.year ++ '-' :: padded 2 d.month ++ '-' :: padded 2 d.day ++ s) =
      some (d, s) := by
  obtain ⟨-, hyear, hday, hdays⟩ := d.inCalendar
  have hmonth := d.month_bounds
  have hlast : d.day ≤ 31 := Nat.le_trans hdays (daysInMonth_le d.year d.month)
  have hparts : Date.ofParts? d.year d.month d.day = some d := dif_pos d.inCalendar
  simp only [date, List.append_assoc, List.cons_append, year_padded hyear, mark_cons,
    month_padded hmonth.1 hmonth.2, day_padded hday hlast, Option.bind_eq_bind, Option.bind_some,
    hparts, Option.map_some]

/-! ### Places of a time -/

/-- The hour. -/
theorem hour_padded {h : Nat} (hh : h ≤ 23) (s : List Char) :
    hour (padded 2 h ++ s) = some (h, s) := by
  unfold hour
  by_cases htwenty : 20 ≤ h
  · exact either_of_some (twoDigits_digit_digit (by omega) (by omega) (by omega) s)
  · rw [either_of_none (twoDigits_digit_eq_none (by omega) (by omega) s)]
    exact either_of_some (twoDigits_digit_anyDigit (by omega) (by omega) s)

/-- The minute. -/
theorem minute_padded {m : Nat} (hm : m ≤ 59) (s : List Char) :
    minute (padded 2 m ++ s) = some (m, s) :=
  either_of_some (twoDigits_digit_anyDigit (by omega) (by omega) s)

/-- The second. -/
theorem second_padded {m : Nat} (hm : m ≤ 59) (s : List Char) :
    second (padded 2 m ++ s) = some (m, s) := minute_padded hm s

/-- As many digits are read as there are, up to the number that is admitted. -/
theorem upTo_digits {ds : List Nat} (hds : ∀ d ∈ ds, d < 10) {n : Nat} (hn : ds.length ≤ n)
    {s : List Char} (hs : ds.length < n → ∀ c ∈ s.head?, c.isDigit = false) :
    upTo (digit 0 9) n (ds.map Nat.digitChar ++ s) = some (ds, s) := by
  induction ds generalizing n with
  | nil =>
    cases n with
    | zero => rfl
    | succ n =>
      have hstop : digit 0 9 s = none := by
        cases s with
        | nil => rfl
        | cons c s =>
          have hc := hs (Nat.zero_lt_succ n) c rfl
          simp [digit, hc]
      rw [List.map_nil, List.nil_append, upTo, hstop]
  | cons d ds ih =>
    obtain ⟨hd, hrest⟩ := List.forall_mem_cons.1 hds
    cases n with
    | zero => cases hn
    | succ n =>
      rw [List.length_cons, Nat.succ_le_succ_iff] at hn
      have hread := ih hrest hn fun h => hs (Nat.succ_lt_succ h)
      rw [List.map_cons, List.cons_append, upTo,
        digit_digitChar hd (Nat.zero_le d) (Nat.le_of_lt_succ hd)]
      simp [hread]

/-- A fraction of up to six digits. -/
theorem fraction_digits {ds : List Nat} (hne : ds ≠ []) (hds : ∀ d ∈ ds, d < 10)
    (hlength : ds.length ≤ 6) {s : List Char}
    (hs : ds.length < 6 → ∀ c ∈ s.head?, c.isDigit = false) :
    fraction (digit 0 9) ('.' :: ds.map Nat.digitChar ++ s) =
      some (ds.foldl (fun n d => 10 * n + d) 0 * tenPow (6 - ds.length), s) := by
  rw [List.cons_append, fraction, mark_cons]
  simp [upTo_digits hds hlength hs, hne]

/-- No fraction. -/
theorem fraction_none (f : Reader Nat) {s : List Char} (hs : s.head? ≠ some '.') :
    fraction f s = some (0, s) := by
  cases s with
  | nil => rfl
  | cons c s =>
    have hc : c ≠ '.' := fun h => hs (h ▸ rfl)
    rw [fraction, mark, if_neg hc]

/-- A time of day. -/
theorem timeOfDay_padded {h m sec micros : Nat} (hh : h ≤ 23) (hm : m ≤ 59) (hsec : sec ≤ 59)
    {s rest : List Char} (hfraction : fraction (digit 0 9) s = some (micros, rest)) :
    timeOfDay (padded 2 h ++ ':' :: padded 2 m ++ ':' :: padded 2 sec ++ s) =
      some (((h * 60 + m) * 60 + sec) * microsPerSecond + micros, rest) := by
  simp only [timeOfDay, List.append_assoc, List.cons_append, hour_padded hh, mark_cons,
    minute_padded hm, second_padded hsec, hfraction, Option.bind_eq_bind, Option.bind_some,
    Option.pure_def]

end Reader

/-! ### Cutting fractions -/

/-- Nothing is cut in front of the first point. -/
theorem cutFraction_append {p : List Char} (hp : '.' ∉ p) (s : List Char) :
    cutFraction (p ++ s) = p ++ cutFraction s := by
  induction p with
  | nil => rfl
  | cons c p ih =>
    rw [List.mem_cons, not_or] at hp
    have hc : ¬(c = '.' ∧ 6 < ((p ++ s).takeWhile Char.isDigit).length) := fun h => hp.1 h.1.symm
    rw [List.cons_append, cutFraction, if_neg hc, ih hp.2, List.cons_append]

/-- Digits end where another character stands. -/
theorem takeWhile_digits {ds s : List Char} (hds : ∀ c ∈ ds, c.isDigit = true)
    (hs : ∀ c ∈ s.head?, c.isDigit = false) : (ds ++ s).takeWhile Char.isDigit = ds := by
  rw [List.takeWhile_append_of_pos hds]
  cases s with
  | nil => exact List.append_nil ds
  | cons c s => rw [List.takeWhile_cons_of_neg (by simp [hs c rfl]), List.append_nil]

/-- Nothing is cut of a fraction of up to six digits. -/
theorem cutFraction_digits {ds s : List Char} (hds : ∀ c ∈ ds, c.isDigit = true)
    (hlength : ds.length ≤ 6) (hs : ∀ c ∈ s.head?, c.isDigit = false) :
    cutFraction ('.' :: ds ++ s) = '.' :: ds ++ cutFraction s := by
  have hshort : ¬('.' = '.' ∧ 6 < ((ds ++ s).takeWhile Char.isDigit).length) := by
    rw [takeWhile_digits hds hs]
    exact fun h => Nat.not_lt.2 hlength h.2
  have hpoint : '.' ∉ ds := fun h => absurd (hds '.' h) (by decide)
  rw [List.cons_append, cutFraction, if_neg hshort, cutFraction_append hpoint, List.cons_append]

/-! ### Instants -/

namespace Instant

/-- An instant as a local time in UTC. -/
def localTime (t : Instant) : LocalTime := ⟨t.date, t.micros, 0⟩

/-- The local time of an instant in UTC names the instant. -/
theorem instant?_localTime (t : Instant) : t.localTime.instant? = some t := by
  have hdays : (t.micros : Int) / microsPerDay = 0 :=
    Int.ediv_eq_zero_of_lt (Int.natCast_nonneg _) (Int.ofNat_lt.2 t.micros_lt)
  have hmicros : (t.micros : Int) % microsPerDay = t.micros :=
    Int.emod_eq_of_lt (Int.natCast_nonneg _) (Int.ofNat_lt.2 t.micros_lt)
  simp [LocalTime.instant?, localTime, hdays, hmicros]

/-- The places of the time of day. -/
theorem micros_eq (t : Instant) :
    ((t.hour * 60 + t.minute) * 60 + t.second) * microsPerSecond + t.fraction = t.micros := by
  simp only [hour, minute, second, fraction, microsPerSecond]
  omega

theorem bounds (t : Instant) :
    t.hour ≤ 23 ∧ t.minute ≤ 59 ∧ t.second ≤ 59 ∧ t.fraction < 1000000 := by
  have h := t.micros_lt
  simp only [hour, minute, second, fraction, microsPerDay, microsPerSecond] at *
  omega

/-- The fraction of a second in the text of an instant. -/
def fractionText (t : Instant) : List Char :=
  if t.fraction = 0 then [] else '.' :: padded 6 t.fraction

theorem toList_text (t : Instant) :
    t.text.toList =
      (padded 4 t.date.year ++ '-' :: padded 2 t.date.month ++ '-' :: padded 2 t.date.day) ++
      'T' :: (padded 2 t.hour ++ ':' :: padded 2 t.minute ++ ':' :: padded 2 t.second ++
        (t.fractionText ++ ['+', '0', '0', ':', '0', '0'])) := by
  simp only [text, fractionText, String.toList_ofList, List.append_assoc, List.cons_append]

/-- The fraction in the text of an instant is read back. -/
theorem fraction_fractionText (t : Instant) :
    Reader.fraction (Reader.digit 0 9) (t.fractionText ++ ['+', '0', '0', ':', '0', '0']) =
      some (t.fraction, ['+', '0', '0', ':', '0', '0']) := by
  unfold fractionText
  split
  · next hzero =>
    rw [hzero]
    exact Reader.fraction_none _ (by decide)
  · obtain ⟨ds, hds, hlength, hdigits, hvalue⟩ := exists_digits_padded 6 t.fraction
    have hne : ds ≠ [] := List.ne_nil_of_length_pos (by omega)
    have hfraction : t.fraction % tenPow 6 = t.fraction := Nat.mod_eq_of_lt t.bounds.2.2.2
    have hscale : tenPow (6 - 6) = 1 := rfl
    rw [hds, Reader.fraction_digits hne hdigits (Nat.le_of_eq hlength) (by simp [hlength]), hvalue,
      hlength, hfraction, hscale, Nat.mul_one]

/-- Nothing is cut in the text of an instant. -/
theorem cutFraction_text (t : Instant) : cutFraction t.text.toList = t.text.toList := by
  have hzone : cutFraction ['+', '0', '0', ':', '0', '0'] = ['+', '0', '0', ':', '0', '0'] := by
    decide
  have hfraction : cutFraction (t.fractionText ++ ['+', '0', '0', ':', '0', '0']) =
      t.fractionText ++ ['+', '0', '0', ':', '0', '0'] := by
    unfold fractionText
    split
    · exact hzone
    · have hsign : ∀ c ∈ ['+', '0', '0', ':', '0', '0'].head?, c.isDigit = false := by simp
      rw [cutFraction_digits (fun c => isDigit_of_mem_padded)
        (Nat.le_of_eq (length_padded 6 t.fraction)) hsign, hzone]
  rw [toList_text, List.append_cons, ← List.append_assoc, cutFraction_append, hfraction]
  simp [point_notMem_padded]

end Instant

/-- The text of an instant is read as its local time in UTC. -/
theorem readLocalTime?_text (t : Instant) : readLocalTime? t.text = some t.localTime := by
  obtain ⟨hhour, hminute, hsecond, -⟩ := t.bounds
  have hzone : Reader.zone ['+', '0', '0', ':', '0', '0'] = some (0, []) := by decide
  rw [readLocalTime?, t.cutFraction_text, t.toList_text, Reader.date_padded]
  simp only [Option.bind_eq_bind, Option.bind_some, true_or, if_true,
    Reader.timeOfDay_padded hhour hminute hsecond t.fraction_fractionText, hzone, t.micros_eq]
  rfl

end DocQuery.Calendar
