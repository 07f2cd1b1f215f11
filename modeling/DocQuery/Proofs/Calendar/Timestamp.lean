import DocQuery.Proofs.Calendar.DayNumber
import DocQuery.Proofs.Calendar.Writing
import Mathlib.Data.Nat.Digits.Lemmas

/-!
# Timestamps that are read

A timestamp is a date, a time of day with a fraction of any number of digits, and a zone. Its text
is read as the local time that it states, in microseconds. The digits of the fraction behind the
sixth are cut off before anything else is read, and missing ones count as zeros; what is left is
never rounded. The date alone stands for the midnight that begins it.

## Main definitions

* `Calendar.Zone`, `Calendar.Timestamp`: zones and timestamps as they are written.
* `Calendar.Timestamp.text`, `Calendar.Date.text`: their texts.
* `Calendar.Timestamp.sinceStart`: the number of microseconds since the calendar began, in UTC.

## Main results

* `Calendar.cutFraction_fraction`: a fraction is cut to six digits.
* `Calendar.Reader.fraction_cut`, `Calendar.Reader.zone_text`: the fraction and the zone.
* `Calendar.readLocalTime?_timestamp`, `Calendar.readLocalTime?_date`: timestamps and dates.
* `Calendar.Timestamp.exists_instant?`: the instant of a timestamp.
-/

namespace DocQuery.Calendar

open DocQuery.Number (tenPow isDigit_digitChar)

/-! ### Zones and timestamps -/

/-- A zone as it is written: the letter `Z`, or a sign with hours and minutes. -/
inductive Zone where
  /-- UTC itself. -/
  | utc
  /-- East or west of UTC by hours and minutes. -/
  | offset (west : Bool) (hours minutes : Nat) (hours_le : hours ≤ 23) (minutes_le : minutes ≤ 59)

namespace Zone

/-- The text of a zone. -/
def text : Zone → List Char
  | .utc => ['Z']
  | .offset west hours minutes _ _ =>
    (if west then '-' else '+') :: padded 2 hours ++ ':' :: padded 2 minutes

/-- The offset of a zone from UTC in microseconds, positive to the east. -/
def micros : Zone → Int
  | .utc => 0
  | .offset west hours minutes _ _ =>
    let magnitude : Nat := (hours * 60 + minutes) * 60 * microsPerSecond
    if west then -(magnitude : Int) else magnitude

end Zone

/-- A date and a time of day, with the digits of a fraction of a second, in a zone. -/
structure Timestamp where
  /-- The local date. -/
  date : Date
  /-- The hour of the day. -/
  hour : Nat
  /-- The minute of the hour. -/
  minute : Nat
  /-- The second of the minute. -/
  second : Nat
  /-- The digits of the fraction of the second; if there are none, no fraction is written. -/
  fraction : List Nat
  /-- The zone. -/
  zone : Zone
  hour_le : hour ≤ 23
  minute_le : minute ≤ 59
  second_le : second ≤ 59
  fraction_lt : ∀ d ∈ fraction, d < 10

/-- The date in the extended format. -/
def Date.text (d : Date) : String :=
  String.ofList (padded 4 d.year ++ '-' :: padded 2 d.month ++ '-' :: padded 2 d.day)

namespace Timestamp

/-- The digits of a fraction with the point in front, or nothing if there are none. -/
def fractionText (ds : List Nat) : List Char :=
  if ds = [] then [] else '.' :: ds.map Nat.digitChar

/-- A timestamp in the extended format of date and time. -/
def text (w : Timestamp) : String :=
  String.ofList <|
    w.date.text.toList ++
    'T' :: padded 2 w.hour ++ ':' :: padded 2 w.minute ++ ':' :: padded 2 w.second ++
    fractionText w.fraction ++ w.zone.text

/-- The number that the first six digits of a fraction denote, where missing digits are zeros. -/
def fractionMicros (ds : List Nat) : Nat :=
  Nat.ofDigits 10 ((ds ++ List.replicate 6 0).take 6).reverse

/-- The number of microseconds of a timestamp since the calendar began, in UTC: the days before its
date, its time of day, and the fraction, less the offset of its zone. -/
def sinceStart (w : Timestamp) : Int :=
  w.date.dayNumber * microsPerDay +
    ((w.hour * 60 + w.minute) * 60 + w.second) * microsPerSecond + fractionMicros w.fraction -
    w.zone.micros

end Timestamp

/-! ### Fractions -/

/-- Nothing is cut without a point. -/
theorem cutFraction_eq_self {s : List Char} (hpoint : '.' ∉ s) : cutFraction s = s := by
  have h := cutFraction_append hpoint []
  rwa [List.append_nil, cutFraction, List.append_nil] at h

/-- A fraction is cut to six digits, and what comes behind it is left alone. -/
theorem cutFraction_fraction {ds s : List Char} (hds : ∀ c ∈ ds, c.isDigit = true)
    (hs : ∀ c ∈ s.head?, c.isDigit = false) (hpoint : '.' ∉ s) :
    cutFraction ('.' :: ds ++ s) = '.' :: ds.take 6 ++ s := by
  rcases Nat.lt_or_ge 6 ds.length with hlong | hshort
  · have htake := takeWhile_digits hds hs
    have hdrop : (ds ++ s).dropWhile Char.isDigit = s := by
      have hsplit := List.takeWhile_append_dropWhile (p := Char.isDigit) (l := ds ++ s)
      rw [htake] at hsplit
      exact List.append_cancel_left hsplit
    have hcut : '.' = '.' ∧ 6 < ((ds ++ s).takeWhile Char.isDigit).length := ⟨rfl, by rwa [htake]⟩
    rw [List.cons_append, cutFraction, if_pos hcut, htake, hdrop]
  · rw [cutFraction_digits hds hshort hs, List.take_of_length_le hshort, cutFraction_eq_self hpoint]

theorem cutFraction_fractionText {ds : List Nat} (hds : ∀ d ∈ ds, d < 10) {s : List Char}
    (hs : ∀ c ∈ s.head?, c.isDigit = false) (hpoint : '.' ∉ s) :
    cutFraction (Timestamp.fractionText ds ++ s) = Timestamp.fractionText (ds.take 6) ++ s := by
  by_cases hne : ds = []
  · rw [hne]
    exact cutFraction_eq_self hpoint
  · have hdigits : ∀ c ∈ ds.map Nat.digitChar, c.isDigit = true := by
      intro c hc
      obtain ⟨d, hd, rfl⟩ := List.mem_map.1 hc
      exact isDigit_digitChar (hds d hd)
    have htake : ds.take 6 ≠ [] := by simpa using hne
    rw [Timestamp.fractionText, Timestamp.fractionText, if_neg hne, if_neg htake, List.map_take]
    exact cutFraction_fraction hdigits hs hpoint

/-- What digits denote when they are read from the left, as a number of the place that is `n` digits
behind the point. -/
theorem foldl_mul_tenPow (ds : List Nat) (n : Nat) :
    ds.foldl (fun m d => 10 * m + d) 0 * tenPow n =
      Nat.ofDigits 10 (ds ++ List.replicate n 0).reverse := by
  have hfold : ds.foldl (fun m d => 10 * m + d) 0 = Nat.ofDigits 10 ds.reverse := by
    rw [Nat.ofDigits_eq_foldr, List.foldr_reverse]
    simp only [Nat.cast_id, Nat.add_comm]
  rw [List.reverse_append, List.reverse_replicate, Nat.ofDigits_append, Nat.ofDigits_replicate_zero,
    List.length_replicate, Nat.zero_add, hfold, Nat.mul_comm]
  rfl

/-- Of a fraction the first six digits count. -/
theorem fractionMicros_eq (ds : List Nat) :
    Timestamp.fractionMicros ds =
      (ds.take 6).foldl (fun m d => 10 * m + d) 0 * tenPow (6 - (ds.take 6).length) := by
  have hroom : 6 - (ds.take 6).length = 6 - ds.length := by
    rw [List.length_take]
    omega
  rw [foldl_mul_tenPow, hroom, Timestamp.fractionMicros, List.take_append, List.take_replicate,
    Nat.min_eq_left (Nat.sub_le 6 ds.length)]

/-- The fraction of a timestamp is read up to its sixth digit. -/
theorem Reader.fraction_cut {ds : List Nat} (hds : ∀ d ∈ ds, d < 10) {s : List Char}
    (hs : ∀ c ∈ s.head?, c.isDigit = false) (hpoint : s.head? ≠ some '.') :
    fraction (digit 0 9) (Timestamp.fractionText (ds.take 6) ++ s) =
      some (Timestamp.fractionMicros ds, s) := by
  unfold Timestamp.fractionText
  split
  · next hnone =>
    rw [fractionMicros_eq, hnone]
    exact fraction_none _ hpoint
  · next hne =>
    have hdigits : ∀ d ∈ ds.take 6, d < 10 := fun d hd => hds d (List.mem_of_mem_take hd)
    have hlength : (ds.take 6).length ≤ 6 := List.length_take_le 6 ds
    rw [fractionMicros_eq]
    exact fraction_digits hne hdigits hlength fun _ => hs

/-! ### Zones -/

namespace Zone

/-- A zone begins with a letter or a sign. -/
theorem head?_text (z : Zone) : z.text.head? ∈ [some 'Z', some '-', some '+'] := by
  cases z with
  | utc => simp [text]
  | offset west => cases west <;> simp [text]

theorem head?_isDigit (z : Zone) : ∀ c ∈ z.text.head?, c.isDigit = false := by
  have hhead := z.head?_text
  intro c hc
  rw [hc] at hhead
  simp only [List.mem_cons, Option.some.injEq, List.not_mem_nil, or_false] at hhead
  rcases hhead with rfl | rfl | rfl <;> decide

theorem head?_ne_point (z : Zone) : z.text.head? ≠ some '.' := by
  intro h
  have hhead := z.head?_text
  rw [h] at hhead
  revert hhead
  decide

theorem point_notMem_text (z : Zone) : '.' ∉ z.text := by
  cases z with
  | utc => decide
  | offset west hours minutes => cases west <;> simp [text, point_notMem_padded]

/-- An offset consists of whole seconds. -/
theorem exists_micros_eq (z : Zone) : ∃ seconds : Int, z.micros = seconds * microsPerSecond := by
  cases z with
  | utc => exact ⟨0, by simp [micros]⟩
  | offset west hours minutes =>
    cases west with
    | false => exact ⟨(hours * 60 + minutes) * 60, by simp [micros]⟩
    | true => exact ⟨-((hours * 60 + minutes) * 60), by simp [micros]⟩

end Zone

/-- Behind a sign stands an offset that is shorter than a day. -/
theorem Reader.zone_sign {sign : Char} (hsign : sign = '+' ∨ sign = '-') {s rest : List Char}
    {magnitude : Nat} (hmagnitude : offsetMagnitude s = some (magnitude, rest))
    (hshort : magnitude < microsPerDay) :
    zone (sign :: s) = some (if sign = '-' then -(magnitude : Int) else magnitude, rest) := by
  have hletter : ¬(sign = 'Z' ∨ sign = 'z') := by
    rcases hsign with rfl | rfl <;> decide
  rw [zone, if_neg hletter, if_pos hsign, hmagnitude]
  exact if_pos hshort

/-- A zone is read from its text. -/
theorem Reader.zone_text (z : Zone) : zone z.text = some (z.micros, []) := by
  cases z with
  | utc => rfl
  | offset west hours minutes hhours hminutes =>
    have hhour := twoDigits_padded (show hours < 100 by omega) (anyDigit_digitChar (by omega))
      (anyDigit_digitChar (Nat.mod_lt hours (by decide)))
    have hminute : sixtieth (padded 2 minutes ++ []) = some (minutes, []) :=
      twoDigits_digit_anyDigit (by omega) (by omega) []
    have hmagnitude : offsetMagnitude (padded 2 hours ++ ':' :: padded 2 minutes) =
        some ((hours * 60 + minutes) * 60 * microsPerSecond, []) := by
      rw [List.append_nil] at hminute
      simp [offsetMagnitude, hhour, mark_cons, hminute, offsetSeconds]
    have hshort : (hours * 60 + minutes) * 60 * microsPerSecond < microsPerDay := by
      simp only [microsPerDay, microsPerSecond]
      omega
    cases west with
    | false => exact zone_sign (Or.inl rfl) hmagnitude hshort
    | true => exact zone_sign (Or.inr rfl) hmagnitude hshort

/-! ### Timestamps -/

theorem Date.toList_text (d : Date) :
    d.text.toList = padded 4 d.year ++ '-' :: padded 2 d.month ++ '-' :: padded 2 d.day := by
  rw [text, String.toList_ofList]

theorem Date.point_notMem_text (d : Date) : '.' ∉ d.text.toList := by
  simp [toList_text, point_notMem_padded]

/-- A date alone is read as its midnight. -/
theorem readLocalTime?_date (d : Date) : readLocalTime? d.text = some ⟨d, 0, 0⟩ := by
  have hcut : cutFraction d.text.toList = d.text.toList := cutFraction_eq_self d.point_notMem_text
  have hdate := Reader.date_padded d []
  rw [List.append_nil, ← Date.toList_text] at hdate
  rw [readLocalTime?, hcut]
  simp [hdate]

namespace Timestamp

variable (w : Timestamp)

/-- The local time that a timestamp states. -/
def localTime : LocalTime where
  date := w.date
  micros := ((w.hour * 60 + w.minute) * 60 + w.second) * microsPerSecond + fractionMicros w.fraction
  offset := w.zone.micros

theorem toList_text :
    w.text.toList =
      (w.date.text.toList ++ 'T' :: padded 2 w.hour ++ ':' :: padded 2 w.minute ++
        ':' :: padded 2 w.second) ++ (fractionText w.fraction ++ w.zone.text) := by
  rw [text, String.toList_ofList]
  simp only [List.append_assoc, List.cons_append]

/-- Cutting a timestamp leaves six digits of its fraction. -/
theorem cutFraction_text :
    cutFraction w.text.toList =
      w.date.text.toList ++ 'T' :: (padded 2 w.hour ++ ':' :: padded 2 w.minute ++
        ':' :: padded 2 w.second ++ (fractionText (w.fraction.take 6) ++ w.zone.text)) := by
  have hpoint : '.' ∉ w.date.text.toList ++ 'T' :: padded 2 w.hour ++ ':' :: padded 2 w.minute ++
      ':' :: padded 2 w.second := by
    simp [w.date.point_notMem_text, point_notMem_padded]
  rw [toList_text, cutFraction_append hpoint, cutFraction_fractionText w.fraction_lt
    w.zone.head?_isDigit w.zone.point_notMem_text]
  simp only [List.append_assoc, List.cons_append]

theorem sinceStart_localTime : w.localTime.sinceStart = w.sinceStart := by
  simp only [LocalTime.sinceStart, localTime, sinceStart]
  push_cast
  ring

end Timestamp

/-- A timestamp is read as the local time that it states. -/
theorem readLocalTime?_timestamp (w : Timestamp) : readLocalTime? w.text = some w.localTime := by
  have hfraction := Reader.fraction_cut w.fraction_lt w.zone.head?_isDigit w.zone.head?_ne_point
  have htime := Reader.timeOfDay_padded w.hour_le w.minute_le w.second_le hfraction
  have hdate := Reader.date_padded w.date
  rw [readLocalTime?, w.cutFraction_text, w.date.toList_text, hdate]
  simp only [Option.bind_eq_bind, Option.bind_some, true_or, if_true, htime, Reader.zone_text]
  rfl

namespace Timestamp

variable {w : Timestamp} {t : Instant}

/-- A fraction is shorter than a second. -/
theorem fractionMicros_lt {ds : List Nat} (hds : ∀ d ∈ ds, d < 10) :
    fractionMicros ds < microsPerSecond := by
  have hdigits : ∀ d ∈ ((ds ++ List.replicate 6 0).take 6).reverse, d < 10 := by
    intro d hd
    rcases List.mem_append.1 (List.mem_of_mem_take (List.mem_reverse.1 hd)) with hd | hd
    · exact hds d hd
    · rw [List.eq_of_mem_replicate hd]
      decide
  have hlength : ((ds ++ List.replicate 6 0).take 6).reverse.length = 6 := by simp
  have hpow : 10 ^ 6 = microsPerSecond := rfl
  have hlt := Nat.ofDigits_lt_base_pow_length (by decide) hdigits
  rwa [hlength, hpow] at hlt

/-- A timestamp between the ends of the calendar names the instant that has its number. The fraction
of this instant is that of the timestamp. -/
theorem exists_instant? (hlow : 0 ≤ w.sinceStart) (hhigh : w.sinceStart < calendarEnd) :
    ∃ t, w.localTime.instant? = some t ∧ t.sinceStart = w.sinceStart ∧
      t.fraction = fractionMicros w.fraction := by
  obtain ⟨hmicros, hoffset⟩ := bounds_of_readLocalTime? (readLocalTime?_timestamp w)
  rw [← sinceStart_localTime] at hlow hhigh
  obtain ⟨t, ht⟩ := LocalTime.exists_instant? hmicros hoffset hlow hhigh
  have hnumber := LocalTime.sinceStart_of_instant? ht
  rw [sinceStart_localTime] at hnumber
  refine ⟨t, ht, hnumber, ?_⟩
  have hfraction := fractionMicros_lt w.fraction_lt
  obtain ⟨seconds, hseconds⟩ := w.zone.exists_micros_eq
  have hday : microsPerDay = 86400 * 1000000 := rfl
  have hsecond : microsPerSecond = 1000000 := rfl
  rw [Instant.sinceStart, sinceStart, hseconds, hday, hsecond] at hnumber
  rw [hsecond] at hfraction
  rw [Instant.fraction, hsecond]
  omega

end Timestamp

end DocQuery.Calendar
