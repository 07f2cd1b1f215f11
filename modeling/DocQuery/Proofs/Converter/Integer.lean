import DocQuery.Proofs.Converter.Form

/-!
# Integers and the texts of integers

An integer is read from an optional sign and up to 4300 digits, zeros in front included, if it fits
into 64 bits. The only other thing that is not refused is an integer with more digits, which is a
fault. In the standard chain the truth values and the object identifiers come first. No truth value
has a digit, and an integer of 64 bits that is written without zeros in front is too short for an
object identifier of extended JSON. Texts of twelve digits have the form of one, and it is the
factory that refuses them. So every integer of 64 bits is read from its own text.

## Main definitions

* `Converter.ReadsIntegers`: how the converter of integers treats a text.

## Main results

* `Converter.readsIntegers`: the converter of integers.
* `Converter.refuses_boolean_of_digit`, `Converter.refuses_objectId_extendedJson`: what is no truth
  value and no object identifier.
* `Chain.standard_of_writesInteger`: the texts from which the standard chain reads an integer.
* `Chain.readsIntegers_standard`: the integers of 64 bits.
-/

namespace DocQuery

open Number (WritesInteger)

namespace Converter

variable {s : String} {count : Nat} {n : Int}

/-! ### The converter of integers -/

theorem fitsInt64_iff : FitsInt64 n ↔ -2 ^ 63 ≤ n ∧ n ≤ 2 ^ 63 - 1 := Iff.rfl

/-- What becomes of the text of an integer. -/
theorem integer_of_writesInteger (h : WritesInteger s.toList count n) :
    integer s =
      if digitLimit < count then .error (.fault (.tooManyDigits count))
      else if FitsInt64 n then .ok (.int n) else .error (refuse s (.integerOutOfRange s)) := by
  obtain ⟨g, hread, rfl, rfl⟩ := Number.writesInteger_iff.1 h
  rw [integer, hread]

/-- What becomes of any other text. -/
theorem integer_of_not_writesInteger (h : ∀ count n, ¬WritesInteger s.toList count n) :
    integer s = .error (refuse s (.notInteger s)) := by
  have hread : Number.readSigned? s.toList = none :=
    Option.eq_none_iff_forall_ne_some.2 fun g hg =>
      h _ _ (Number.writesInteger_iff.2 ⟨g, hg, rfl, rfl⟩)
  rw [integer, hread]

/-- How the converter of integers treats a text. -/
structure ReadsIntegers (s : String) : Prop where
  /-- An integer is made exactly of a text that writes it with up to 4300 digits, if it fits into 64
  bits. -/
  value : ∀ v, integer s = .ok v ↔ ∃ count n, WritesInteger s.toList count n ∧ count ≤ 4300 ∧
    (-2 ^ 63 ≤ n ∧ n ≤ 2 ^ 63 - 1) ∧ v = .int n
  /-- It is a fault exactly if the text writes an integer with more digits. -/
  fault : ∀ f, integer s = .error (.fault f) ↔ ∃ count n, WritesInteger s.toList count n ∧
    4300 < count ∧ f = .tooManyDigits count
  /-- Every other text is refused. -/
  refused : integer.Refuses s ↔ ∀ count n, WritesInteger s.toList count n →
    count ≤ 4300 ∧ ¬(-2 ^ 63 ≤ n ∧ n ≤ 2 ^ 63 - 1)

/-- A text that writes an integer writes no other, so that its three results depend on the number of
digits and on the integer. -/
theorem readsIntegers_of_writesInteger (h : WritesInteger s.toList count n) : ReadsIntegers s := by
  have hresult := integer_of_writesInteger h
  rcases Nat.lt_or_ge digitLimit count with hlong | hcount
  · rw [if_pos hlong] at hresult
    have hcount : ¬count ≤ 4300 := Nat.not_le.2 hlong
    refine ⟨fun v => ?_, fun f => ?_, ?_⟩
    · rw [h.exists_iff, hresult]
      simp [hcount]
    · rw [h.exists_iff, hresult]
      simp [Nat.not_le.1 hcount, eq_comm]
    · rw [h.forall_iff, Refuses, hresult]
      simp [hcount, isMismatch]
  · rw [if_neg (Nat.not_lt.2 hcount)] at hresult
    have hshort : count ≤ 4300 := hcount
    by_cases hfits : FitsInt64 n
    · rw [if_pos hfits] at hresult
      refine ⟨fun v => ?_, fun f => ?_, ?_⟩
      · rw [h.exists_iff, hresult, ← fitsInt64_iff]
        simp [hshort, hfits, eq_comm]
      · rw [h.exists_iff, hresult]
        simp [hshort]
      · rw [h.forall_iff, Refuses, hresult, ← fitsInt64_iff]
        simp [hfits]
    · rw [if_neg hfits] at hresult
      refine ⟨fun v => ?_, fun f => ?_, ?_⟩
      · rw [h.exists_iff, hresult, ← fitsInt64_iff]
        simp [hfits]
      · rw [h.exists_iff, hresult]
        simp [hshort, refuse]
      · rw [h.forall_iff, Refuses, hresult, ← fitsInt64_iff]
        simp [hshort, hfits, refuse, isMismatch]

/-- Integers of 64 bits are made of the texts that write them, unless they have too many digits. -/
theorem readsIntegers (s : String) : ReadsIntegers s := by
  by_cases hwrites : ∃ count n, WritesInteger s.toList count n
  · obtain ⟨count, n, h⟩ := hwrites
    exact readsIntegers_of_writesInteger h
  · simp only [not_exists] at hwrites
    have hresult := integer_of_not_writesInteger hwrites
    refine ⟨fun v => ?_, fun f => ?_, ?_⟩
    · simp [hresult, hwrites]
    · simp [hresult, hwrites, refuse]
    · simp [hresult, hwrites, Refuses, refuse, isMismatch]

/-! ### What is tried earlier -/

/-- A digit is no capital letter. -/
theorem toLower_of_isDigit {c : Char} (hc : c.isDigit = true) : c.toLower = c := by
  refine toLower_eq_self fun hcapital => ?_
  simp only [Char.isDigit, Bool.and_eq_true, decide_eq_true_eq] at hc
  exact absurd (UInt32.le_trans hcapital.1 hc.2) (by decide)

/-- No truth value has a digit. -/
theorem refuses_boolean_of_digit {c : Char} (hc : c ∈ s.toList) (hdigit : c.isDigit = true) :
    boolean.Refuses s := by
  refine (refuses_boolean_or_ok s).resolve_right fun ⟨v, hv⟩ => ?_
  have hwords : ∀ word ∈ ["true", "yes", "false", "no"],
      word.toList.all (fun c => !c.isDigit) = true := by decide
  have hmem : c ∈ (Text.lower s).toList := by
    rw [Text.toList_lower, ← toLower_of_isDigit hdigit]
    exact List.mem_map_of_mem hc
  have hletter := List.all_eq_true.1 (hwords _ (lower_mem_of_boolean hv)) c hmem
  rw [hdigit] at hletter
  cases hletter

/-- Extended JSON has no object identifiers of any other length. -/
theorem refuses_objectId_extendedJson (allowed : List String) (hlength : s.length ≠ 24) :
    (objectId (.extendedJson allowed)).Refuses s := by
  refine (refuses_objectId_or_ok _ s).resolve_right fun ⟨v, hv⟩ => ?_
  unfold objectId at hv
  split_ifs at hv
  simp only [Dialect.extendedJson, if_neg hlength] at hv
  cases hv

end Converter

/-! ### Chains -/

namespace Chain

open Converter

variable {s : String} {count : Nat} {n : Int}

/-- The standard chain makes an integer of 64 bits of every text that writes it and has no object
identifier. -/
theorem standard_of_writesInteger {d : Option Dialect} (hd : ∀ d' ∈ d, (objectId d').Refuses s)
    (h : WritesInteger s.toList count n) (hcount : count ≤ digitLimit) (hn : FitsInt64 n)
    (allowText : Bool) : (standard d allowText).convert s = .ok (.int n) := by
  have hwords : ∀ f ∈ ofWords d, f.Refuses s := by
    intro f hf
    rcases List.mem_cons.1 hf with rfl | hf
    · obtain ⟨c, hc, hdigit⟩ := h.exists_digit
      exact refuses_boolean_of_digit hc hdigit
    · obtain ⟨d', hd', rfl⟩ := Option.map_eq_some_iff.1 (Option.mem_toList.1 hf)
      exact hd d' hd'
  have hinteger : integer s = .ok (.int n) := by
    rw [integer_of_writesInteger h, if_neg (Nat.not_lt.2 hcount), if_pos hn]
  rw [convert, converters_standard, typing, List.append_assoc, firstOf_append_of_refuses hwords]
  exact firstOf_cons_of_ok hinteger

/-- An integer of 64 bits has at most 19 digits. -/
theorem length_toDigits_le (hn : FitsInt64 n) : (Nat.toDigits 10 n.natAbs).length ≤ 19 := by
  rw [Nat.length_toDigits_le_iff (by decide) (by decide)]
  have hbound : (10 : Nat) ^ 19 = 10000000000000000000 := by decide
  obtain ⟨hlow, hhigh⟩ := hn
  omega

/-- Integers of 64 bits are made of the texts that write them, and the standard chain makes each of
them of its own text, with the dialect of extended JSON or without a dialect. -/
theorem readsIntegers_standard :
    (∀ s, ReadsIntegers s) ∧ ∀ n : Int, -2 ^ 63 ≤ n → n ≤ 2 ^ 63 - 1 → ∀ allowText,
      (standard none allowText).convert (toString n) = .ok (.int n) ∧
        ∀ allowed, (standard (some (.extendedJson allowed)) allowText).convert (toString n) =
          .ok (.int n) := by
  refine ⟨readsIntegers, fun n hlow hhigh allowText => ?_⟩
  have hn : FitsInt64 n := fitsInt64_iff.2 ⟨hlow, hhigh⟩
  have hwrites := Number.writesInteger_toString n
  have hdigits := length_toDigits_le hn
  have hcount : (Nat.toDigits 10 n.natAbs).length ≤ digitLimit := Nat.le_trans hdigits (by decide)
  have hlength : (toString n).length ≠ 24 := by
    have hle := hwrites.length_le
    rw [String.length_toList] at hle
    omega
  refine ⟨standard_of_writesInteger (by simp) hwrites hcount hn allowText, fun allowed => ?_⟩
  refine standard_of_writesInteger (fun d hd => ?_) hwrites hcount hn allowText
  rw [← Option.some.inj hd]
  exact refuses_objectId_extendedJson allowed hlength

/-- The least integer of 64 bits, and one whose text has the form of an object identifier. -/
theorem readsIntegers_standard_least :
    (-2 ^ 63 ≤ (-2 ^ 63 : Int) ∧ (-2 ^ 63 : Int) ≤ 2 ^ 63 - 1) ∧
      (standard (some (.extendedJson [])) true).convert "-9223372036854775808" =
        .ok (.int (-2 ^ 63)) ∧
      (-2 ^ 63 ≤ (123456789012 : Int) ∧ (123456789012 : Int) ≤ 2 ^ 63 - 1) ∧
      isObjectId "123456789012".toList = true ∧
      (standard (some (.extendedJson [])) true).convert "123456789012" =
        .ok (.int 123456789012) := by
  have hleast : toString (-2 ^ 63 : Int) = "-9223372036854775808" := by decide
  have htwelve : toString (123456789012 : Int) = "123456789012" := by decide
  refine ⟨by decide, ?_, by decide, by decide, ?_⟩
  · rw [← hleast]
    exact (readsIntegers_standard.2 (-2 ^ 63) (by decide) (by decide) true).2 []
  · rw [← htwelve]
    exact (readsIntegers_standard.2 123456789012 (by decide) (by decide) true).2 []

end Chain

end DocQuery
