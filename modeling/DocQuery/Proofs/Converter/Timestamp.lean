import DocQuery.Proofs.Calendar.Timestamp
import DocQuery.Proofs.Converter.Form
import DocQuery.Proofs.Converter.Leaf

/-!
# Instants and the texts of instants

The standard chain makes an instant of every local time in the calendar, whatever the dialect is,
since no other converter accepts its text. So a timestamp is converted to the instant that is found
by counting, and the text in which an instant is written is converted to the instant, and never left
as a text.

## Main definitions

* `Value.IsTimeless`: values that are not the text of an instant.
* `Converter.ReadsInstant`: texts that the converter of instants and all standard chains make the
  same instant of.

## Main results

* `Chain.standard_of_readLocalTime?`: what the chain makes of a local time.
* `Chain.standard_text`: the text of an instant is read back.
* `Chain.readsInstant_standard`: the instants of timestamps, of dates and of instants.
* `Chain.isTimeless_of_standard`: no text that the chain leaves as it is is that of an instant.
-/

namespace DocQuery

open Calendar (Date Instant LocalTime Timestamp calendarEnd readLocalTime?)

/-- Whether a value is not the text of an instant. -/
def Value.IsTimeless (v : Value) : Prop := ∀ t : Instant, v ≠ .text t.text

namespace Converter

variable {s : String} {l : LocalTime} {t : Instant}

theorem instant_of_readLocalTime? (hl : readLocalTime? s = some l) (ht : l.instant? = some t) :
    instant s = .ok (.instant t) := by
  rw [instant, hl]
  dsimp only
  rw [ht]

/-- A local time is no word: there is a hyphen behind its year. -/
theorem not_isShortWord_of_readLocalTime? (hl : readLocalTime? s = some l) : ¬IsShortWord s := by
  intro hword
  obtain ⟨ds, rest, hs, -, -⟩ := Calendar.exists_of_readLocalTime? hl
  exact absurd (hword.alphanum '-' (hs ▸ by simp)) (by decide)

/-- Whether the converter of instants makes an instant of a text, and every standard chain makes the
same instant of it. -/
structure ReadsInstant (s : String) (t : Instant) : Prop where
  /-- The converter of instants makes the instant. -/
  instant_eq : instant s = .ok (.instant t)
  /-- Every standard chain makes the instant, whatever its dialect is. -/
  standard_eq : ∀ d allowText, (Chain.standard d allowText).convert s = .ok (.instant t)

/-- No converter that looks for a type makes a text. -/
theorem ne_text_of_mem_typing {allowed : List String} {f : Converter}
    (hf : f ∈ typing (some (.extendedJson allowed))) (s' : String) : f s ≠ .ok (.text s') := by
  intro h
  simp only [typing, ofWords, Option.map_some, Option.toList_some, List.cons_append,
    List.nil_append, List.mem_cons, List.not_mem_nil, or_false] at hf
  rcases hf with rfl | rfl | rfl | rfl | rfl
  · obtain ⟨b, hb⟩ := exists_of_boolean h
    cases hb
  · unfold objectId at h
    split_ifs at h
    simp only [Dialect.extendedJson] at h
    split_ifs at h
    cases h
  · unfold integer at h
    split at h
    · cases h
    · split_ifs at h
      cases h
  · unfold number at h
    split at h
    · cases h
    · dsimp only at h
      split at h
      · cases h
      · split_ifs at h
        cases h
  · unfold instant at h
    split at h
    · cases h
    · split at h <;> cases h

end Converter

namespace Chain

open Converter

variable {s : String} {v : Value}

/-- The standard chain makes an instant of every local time that names one. -/
theorem standard_of_readLocalTime? (d : Option Dialect) (allowText : Bool) {l : LocalTime}
    {t : Instant} (hl : readLocalTime? s = some l) (ht : l.instant? = some t) :
    (standard d allowText).convert s = .ok (.instant t) := by
  have hwords := refuses_of_not_isShortWord d (not_isShortWord_of_readLocalTime? hl)
  have hnumbers : ∀ f ∈ [integer, number], f.Refuses s := by
    simpa using ⟨refuses_integer_date hl, refuses_number_date hl⟩
  rw [convert, converters_standard, typing, List.append_assoc,
    firstOf_append_of_refuses hwords]
  exact (firstOf_append_of_refuses hnumbers).trans
    (firstOf_cons_of_ok (instant_of_readLocalTime? hl ht))

/-- The text of an instant is read back. -/
theorem standard_text (d : Option Dialect) (allowText : Bool) (t : Instant) :
    (standard d allowText).convert t.text = .ok (.instant t) :=
  standard_of_readLocalTime? d allowText (Calendar.readLocalTime?_text t) t.instant?_localTime

/-- A text that is read as a local time stands for the instant that the local time names. -/
theorem readsInstant_of_readLocalTime? {l : LocalTime} {t : Instant}
    (hl : readLocalTime? s = some l) (ht : l.instant? = some t) : ReadsInstant s t :=
  ⟨instant_of_readLocalTime? hl ht, fun d allowText => standard_of_readLocalTime? d allowText hl ht⟩

/-- A timestamp that lies between the ends of the calendar in UTC stands for the instant that is as
many microseconds away from the beginning of the calendar, where a fraction is cut to microseconds;
a date stands for its midnight in UTC; and the text of an instant stands for the instant. Instants
lie between the ends of the calendar, and no two are equally far away from its beginning. -/
theorem readsInstant_standard :
    (∀ w : Timestamp, 0 ≤ w.sinceStart → w.sinceStart < calendarEnd →
      ∃ t : Instant, t.sinceStart = w.sinceStart ∧
        t.fraction = Timestamp.fractionMicros w.fraction ∧ ReadsInstant w.text t) ∧
    (∀ d : Date, ∃ t : Instant, t.date = d ∧ t.micros = 0 ∧ ReadsInstant d.text t) ∧
    (∀ t : Instant, ReadsInstant t.text t) ∧
    (∀ t : Instant, 0 ≤ t.sinceStart ∧ t.sinceStart < calendarEnd) ∧
    ∀ t t' : Instant, t.sinceStart = t'.sinceStart → t = t' := by
  refine ⟨fun w hlow hhigh => ?_, fun d => ?_, fun t => ?_, Instant.sinceStart_bounds,
    fun t t' h => ?_⟩
  · obtain ⟨t, ht, hnumber, hfraction⟩ := Timestamp.exists_instant? hlow hhigh
    have hread := readsInstant_of_readLocalTime? (Calendar.readLocalTime?_timestamp w) ht
    exact ⟨t, hnumber, hfraction, hread⟩
  · have hmidnight : 0 < Calendar.microsPerDay := by decide
    refine ⟨⟨d, 0, hmidnight⟩, rfl, rfl, ?_⟩
    exact readsInstant_of_readLocalTime? (Calendar.readLocalTime?_date d)
      (Instant.instant?_localTime ⟨d, 0, hmidnight⟩)
  · exact readsInstant_of_readLocalTime? (Calendar.readLocalTime?_text t) t.instant?_localTime
  · exact Instant.sinceStart_injective h

/-- On the eve of a leap day, with a fraction that is cut and an offset that leads into the next
day. -/
theorem readsInstant_standard_leapDay :
    ∃ w : Timestamp, w.text = "0400-02-28T23:59:59.9999999-00:01" ∧ 0 ≤ w.sinceStart ∧
      w.sinceStart < calendarEnd ∧
      ReadsInstant w.text ⟨⟨400, 2, 29, by decide⟩, 59999999, by decide⟩ := by
  let w : Timestamp :=
    { date := ⟨400, 2, 28, by decide⟩
      hour := 23
      minute := 59
      second := 59
      fraction := [9, 9, 9, 9, 9, 9, 9]
      zone := .offset true 0 1 (by decide) (by decide)
      hour_le := by decide
      minute_le := by decide
      second_le := by decide
      fraction_lt := by decide }
  have hlow : 0 ≤ w.sinceStart := by decide +kernel
  have hhigh : w.sinceStart < calendarEnd := by
    rw [Calendar.calendarEnd_eq]
    decide +kernel
  obtain ⟨t, hnumber, -, hread⟩ := readsInstant_standard.1 w hlow hhigh
  have hsame := readsInstant_standard.2.2.2.2 t ⟨⟨400, 2, 29, by decide⟩, 59999999, by decide⟩
    (hnumber.trans (by decide +kernel))
  exact ⟨w, by decide +kernel, hlow, hhigh, hsame ▸ hread⟩

/-- A text that the standard chain makes is the text that it was given. -/
theorem eq_of_standard {allowed : List String} {allowText : Bool} {s' : String}
    (h : (standard (some (.extendedJson allowed)) allowText).convert s = .ok (.text s')) :
    s' = s := by
  obtain ⟨f, hf, hv⟩ := exists_of_firstOf h
  rw [converters_standard, List.mem_append] at hf
  rcases hf with hf | hf
  · exact absurd hv (ne_text_of_mem_typing hf s')
  · split_ifs at hf
    · rw [List.mem_singleton.1 hf] at hv
      exact (Value.text.inj (Except.ok.inj hv)).symm
    · cases hf

/-- No text that the standard chain leaves as it is is that of an instant. -/
theorem isTimeless_of_standard {allowed : List String} {allowText : Bool}
    (h : (standard (some (.extendedJson allowed)) allowText).convert s = .ok v) :
    v.IsTimeless := by
  rintro t rfl
  obtain rfl := eq_of_standard h
  cases h.symm.trans (standard_text _ _ t)

end Chain

end DocQuery
