import DocQuery.Proofs.Converter.Form

/-!
# What the standard chain makes of a text

The standard chain that accepts texts finds the type of a text or leaves it as it is, with three
exceptions: an integer with more digits than are ever converted, an infinity whose name is spelled
with a letter that only resembles `i`, and a local time that lies beyond the ends of the calendar in
UTC. Such a text has the form that a converter looks for and yet has no value there, and the fault
of that converter ends the chain. No other converter that is tried earlier has a value for it, so
the exceptions are the same with every dialect.

## Main definitions

* `Converter.IsUnconvertible`: the texts that are exceptions, with their faults.

## Main results

* `Converter.refuses_or_ok_of_mem_typing`: texts that are no exceptions.
* `Converter.IsUnconvertible.firstOf_typing`: the faults of the exceptions.
* `Chain.standard_stops_or_converts`: the value or the fault of the standard chain.
-/

namespace DocQuery

open Calendar (readLocalTime?)
open Number (IsSign)

namespace Converter

/-- Whether a text has the form of a value that cannot be made, and the fault that this is. -/
inductive IsUnconvertible (s : String) : Fault → Prop
  /-- An integer with more digits than are ever converted. -/
  | digits {negative : Bool} {sign ds : List Char} (hs : s.toList = sign ++ ds)
      (hsign : IsSign negative sign) (hds : ∀ c ∈ ds, c.isDigit = true)
      (hlong : digitLimit < ds.length) : IsUnconvertible s (.tooManyDigits ds.length)
  /-- An infinity whose name is misspelt. -/
  | name {negative : Bool} {sign name : List Char} (hs : s.toList = sign ++ name)
      (hsign : IsSign negative sign) (hname : IsMisspelt name) :
      IsUnconvertible s (.unreadableNumber s)
  /-- A local time beyond the ends of the calendar. -/
  | instant {l : Calendar.LocalTime} (hl : readLocalTime? s = some l) (hout : l.LeavesCalendar) :
      IsUnconvertible s .instantOutOfRange

variable {s : String}

/-! ### Texts that are no exceptions -/

theorem refuses_integer_or_ok (h : ∀ f, ¬IsUnconvertible s f) :
    integer.Refuses s ∨ ∃ v, integer s = .ok v := by
  unfold Refuses integer
  split
  · exact Or.inl ⟨_, rfl, rfl⟩
  · next n hn =>
    obtain ⟨sign, hsign, hs, -, hdigits⟩ := Number.readSigned?_eq_some_iff.1 hn
    split_ifs with hlong
    · exact absurd (.digits hs hsign hdigits hlong) (h _)
    · exact Or.inr ⟨_, rfl⟩
    · exact Or.inl ⟨_, rfl, rfl⟩

theorem refuses_number_or_ok (h : ∀ f, ¬IsUnconvertible s f) :
    number.Refuses s ∨ ∃ v, number s = .ok v := by
  obtain ⟨sign, hsign, hs⟩ := Number.exists_isSign s.toList
  unfold Refuses number
  split
  · exact Or.inr ⟨_, rfl⟩
  · dsimp only
    split
    · exact Or.inl ⟨_, rfl, rfl⟩
    · next x hx =>
      split_ifs with hplain
      · exact Or.inr ⟨_, rfl⟩
      · have hname := isMisspelt_of_special? hx (eq_false_of_ne_true hplain)
        exact absurd (.name hs hsign hname) (h _)

theorem refuses_instant_or_ok (h : ∀ f, ¬IsUnconvertible s f) :
    instant.Refuses s ∨ ∃ v, instant s = .ok v := by
  unfold Refuses instant
  split
  · exact Or.inl ⟨_, rfl, rfl⟩
  · next l hl =>
    split
    · next hnone =>
      exact absurd (.instant hl ((Calendar.instant?_eq_none_iff hl).1 hnone)) (h _)
    · exact Or.inr ⟨_, rfl⟩

/-- Every converter makes a value of a text that is no exception, or refuses it. -/
theorem refuses_or_ok_of_mem_typing {d : Option Dialect} (h : ∀ f, ¬IsUnconvertible s f) :
    ∀ g ∈ typing d, g.Refuses s ∨ ∃ v, g s = .ok v := by
  intro g hg
  rw [typing, ofWords, List.cons_append, List.mem_cons, List.mem_append, Option.mem_toList,
    Option.map_eq_some_iff] at hg
  rcases hg with rfl | ⟨d', -, rfl⟩ | hg
  · exact refuses_boolean_or_ok s
  · exact refuses_objectId_or_ok d' s
  · simp only [List.mem_cons, List.not_mem_nil, or_false] at hg
    rcases hg with rfl | rfl | rfl
    · exact refuses_integer_or_ok h
    · exact refuses_number_or_ok h
    · exact refuses_instant_or_ok h

/-! ### Exceptions -/

/-- An exception is no short word. -/
theorem IsUnconvertible.not_isShortWord {f : Fault} (h : IsUnconvertible s f) :
    ¬IsShortWord s := by
  intro hword
  cases h with
  | digits hs hsign hds hlong =>
    have hlength := hword.length_le
    rw [hs, List.length_append] at hlength
    rw [digitLimit] at hlong
    omega
  | name hs hsign hname =>
    obtain ⟨c, hc, hcode⟩ := hname.letter
    have halphanum := hword.alphanum c (hs ▸ List.mem_append_right _ hc)
    rcases hcode with rfl | rfl
    · exact absurd halphanum (by decide)
    · exact absurd halphanum (by decide)
  | instant hl hout =>
    obtain ⟨ds, rest, hs, -, -⟩ := Calendar.exists_of_readLocalTime? hl
    have halphanum := hword.alphanum '-' (hs ▸ by simp)
    exact absurd halphanum (by decide)

/-- An exception is refused by the converters that are tried first, until one of them ends with its
fault. -/
theorem IsUnconvertible.firstOf_typing (d : Option Dialect) (fs : List Converter) {f : Fault}
    (h : IsUnconvertible s f) : firstOf (typing d ++ fs) s = .error (.fault f) := by
  rw [typing, List.append_assoc,
    firstOf_append_of_refuses (refuses_of_not_isShortWord d h.not_isShortWord)]
  cases h with
  | digits hs hsign hds hlong => exact firstOf_cons_of_fault (integer_overlong hs hsign hds hlong)
  | name hs hsign hname =>
    have hinteger := refuses_integer_infinity hs hsign hname.infinity
    rw [List.cons_append, ← List.singleton_append,
      firstOf_append_of_refuses (List.forall_mem_singleton.2 hinteger)]
    exact firstOf_cons_of_fault (number_misspelt hs hsign hname)
  | instant hl hout =>
    have hboth : ∀ g ∈ [integer, number], g.Refuses s := by
      simpa using ⟨refuses_integer_date hl, refuses_number_date hl⟩
    exact (firstOf_append_of_refuses hboth).trans
      (firstOf_cons_of_fault (instant_out_of_range hl hout))

end Converter

namespace Chain

open Converter

/-- The standard chain that accepts texts. It stops with a fault exactly at the exceptions, whatever
the dialect is and however its factories fail; every other text becomes the value of the first
converter that has one for it, and stays as it is if there is none. -/
theorem standard_stops_or_converts (d : Option Dialect) (s : String) :
    (∀ e, (standard d true).convert s = .error e ↔ ∃ f, e = .fault f ∧ IsUnconvertible s f) ∧
      ∀ v, (standard d true).convert s = .ok v ↔ (∀ f, ¬IsUnconvertible s f) ∧
        (MakesFirst (typing d) s v ∨ (v = .text s ∧ ∀ g ∈ typing d, ∀ w, g s ≠ .ok w)) := by
  have hconvert : (standard d true).convert s = firstOf (typing d ++ [text]) s := by
    rw [convert, converters_standard, if_pos rfl]
  rw [hconvert]
  refine ⟨fun e => ⟨fun he => ?_, ?_⟩, fun v => ⟨fun hv => ?_, ?_⟩⟩
  · by_cases hexception : ∃ f, IsUnconvertible s f
    · obtain ⟨f, hf⟩ := hexception
      rw [hf.firstOf_typing d [text]] at he
      exact ⟨f, (Except.error.inj he).symm, hf⟩
    · have hnone : ∀ f, ¬IsUnconvertible s f := fun f hf => hexception ⟨f, hf⟩
      obtain ⟨v, hv⟩ := exists_firstOf_append_text (refuses_or_ok_of_mem_typing (d := d) hnone)
      rw [hv] at he
      cases he
  · rintro ⟨f, rfl, hf⟩
    exact hf.firstOf_typing d [text]
  · have hnone : ∀ f, ¬IsUnconvertible s f := by
      intro f hf
      rw [hf.firstOf_typing d [text]] at hv
      cases hv
    exact ⟨hnone, (firstOf_append_text_eq_ok_iff (refuses_or_ok_of_mem_typing hnone)).1 hv⟩
  · rintro ⟨hnone, hv⟩
    exact (firstOf_append_text_eq_ok_iff (refuses_or_ok_of_mem_typing hnone)).2 hv

/-- One hour east of UTC, the first moment of year 1 lies before the calendar. -/
example : IsUnconvertible "0001-01-01T00:00:00+01:00" .instantOutOfRange :=
  .instant rfl (.before ⟨rfl, rfl, rfl⟩ (by decide))

end Chain

end DocQuery
