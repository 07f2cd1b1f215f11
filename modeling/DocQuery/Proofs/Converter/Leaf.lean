import DocQuery.Converter.Conversion
import Mathlib.Tactic.IntervalCases
import Mathlib.Tactic.SplitIfs

/-!
# What the standard converters make

The standard chain makes *leaves* from texts: truth values, integers of 64 bits, floating-point
numbers, instants, texts, and the object identifiers of extended JSON, which are mappings with one
entry of 24 hexadecimal digits. Patterns become the regular expressions of extended JSON. A request
has no other way to give a value to a condition.

## Main definitions

* `Value.IsLeaf`: the leaves.
* `Value.IsRegex`: the regular expressions of extended JSON.

## Main results

* `Converter.isLeaf_of_boolean`, `Converter.isLeaf_of_integer`, `Converter.isLeaf_of_number`,
  `Converter.isLeaf_of_instant`, `Converter.isLeaf_of_objectId`: the single converters.
* `Chain.isLeaf_of_standard`: the standard chain with the dialect of extended JSON.
-/

namespace DocQuery

/-- Whether a character is a hexadecimal digit, without capital letters. -/
def IsSmallHexDigit (ch : Char) : Prop := ch.isDigit = true ∨ 'a' ≤ ch ∧ ch ≤ 'f'

instance (ch : Char) : Decidable (IsSmallHexDigit ch) := inferInstanceAs (Decidable (_ ∨ _))

namespace Value

/-- The values that a text stands for by itself. -/
inductive IsLeaf : Value → Prop
  | bool (b : Bool) : IsLeaf (.bool b)
  | int {n : Int} (hn : Converter.FitsInt64 n) : IsLeaf (.int n)
  | float (x : Number.Binary64) : IsLeaf (.float x)
  | instant (t : Calendar.Instant) : IsLeaf (.instant t)
  | text (s : String) : IsLeaf (.text s)
  | objectId {digits : String} (hlength : digits.length = 24)
      (hdigits : ∀ ch ∈ digits.toList, IsSmallHexDigit ch) :
      IsLeaf (.object [("$oid", .text digits)])

/-- The regular expressions of extended JSON. -/
inductive IsRegex : Value → Prop
  | mk (pattern options : String) :
      IsRegex (.object [("$regularExpression",
        .object [("pattern", .text pattern), ("options", .text options)])])

end Value

namespace Converter

variable {s : String} {v : Value}

/-- The converter of truth values makes truth values. -/
theorem exists_of_boolean (h : boolean s = .ok v) : ∃ b, v = .bool b := by
  unfold boolean at h
  dsimp only at h
  split_ifs at h
  · exact ⟨true, (Except.ok.inj h).symm⟩
  · exact ⟨false, (Except.ok.inj h).symm⟩

theorem isLeaf_of_boolean (h : boolean s = .ok v) : v.IsLeaf := by
  obtain ⟨b, rfl⟩ := exists_of_boolean h
  exact .bool b

theorem isLeaf_of_integer (h : integer s = .ok v) : v.IsLeaf := by
  unfold integer at h
  split at h
  · cases h
  · split_ifs at h with hlimit hfits
    cases h
    exact .int hfits

theorem isLeaf_of_number (h : number s = .ok v) : v.IsLeaf := by
  unfold number at h
  split at h
  · cases h
    exact .float _
  · dsimp only at h
    split at h
    · cases h
    · split_ifs at h
      cases h
      exact .float _

theorem isLeaf_of_instant (h : instant s = .ok v) : v.IsLeaf := by
  unfold instant at h
  split at h
  · cases h
  · split at h
    · cases h
    · cases h
      exact .instant _

theorem isLeaf_of_text (h : text s = .ok v) : v.IsLeaf := by
  cases h
  exact .text s

/-- Lowering a hexadecimal digit gives one without capital letters. -/
theorem isSmallHexDigit_toLower {ch : Char}
    (h : (ch.isDigit || ('a' ≤ ch && ch ≤ 'f') || ('A' ≤ ch && ch ≤ 'F')) = true) :
    IsSmallHexDigit ch.toLower := by
  have hcode : (48 ≤ ch.toNat ∧ ch.toNat ≤ 57 ∨ 97 ≤ ch.toNat ∧ ch.toNat ≤ 102) ∨
      65 ≤ ch.toNat ∧ ch.toNat ≤ 70 := by
    simpa [Char.isDigit, Char.le_def, UInt32.le_iff_toNat_le] using h
  rw [← Char.ofNat_toNat ch]
  generalize ch.toNat = code at hcode
  rcases hcode with (⟨hlow, hhigh⟩ | ⟨hlow, hhigh⟩) | ⟨hlow, hhigh⟩ <;>
    interval_cases code <;> decide

/-- An object identifier of extended JSON has 24 hexadecimal digits. -/
theorem isLeaf_of_objectId {allowed : List String}
    (h : objectId (.extendedJson allowed) s = .ok v) : v.IsLeaf := by
  unfold objectId at h
  split_ifs at h with hform
  simp only [Dialect.extendedJson] at h
  split_ifs at h with hlength
  cases h
  refine .objectId (by rw [Text.length_lower, hlength]) fun ch hch => ?_
  rw [Text.toList_lower, List.mem_map] at hch
  obtain ⟨ch', hch', rfl⟩ := hch
  rw [Bool.not_eq_true, Bool.not_eq_false', isObjectId, Bool.and_eq_true, List.all_eq_true] at hform
  exact isSmallHexDigit_toLower (hform.2 ch' hch')

/-- What the first matching converter makes is made by one of the converters. -/
theorem exists_of_firstOf {fs : List Converter} (h : firstOf fs s = .ok v) :
    ∃ f ∈ fs, f s = .ok v := by
  induction fs with
  | nil => cases h
  | cons f fs ih =>
    unfold firstOf at h
    split at h
    · next w hw => exact ⟨f, List.mem_cons_self, h ▸ hw⟩
    · split_ifs at h
      obtain ⟨g, hg, hv⟩ := ih h
      exact ⟨g, List.mem_cons_of_mem _ hg, hv⟩

end Converter

/-- The standard chain with the dialect of extended JSON makes leaves. -/
theorem Chain.isLeaf_of_standard {allowed : List String} {allowText : Bool} {s : String} {v : Value}
    (h : (standard (some (.extendedJson allowed)) allowText).convert s = .ok v) : v.IsLeaf := by
  obtain ⟨f, hf, hv⟩ := Converter.exists_of_firstOf h
  simp only [converters, standard, Option.getD_some, Option.map_some, Option.toList_some,
    List.mem_cons, List.mem_append, List.not_mem_nil, or_false] at hf
  rcases hf with rfl | rfl | (rfl | rfl | rfl) | hf
  · exact Converter.isLeaf_of_boolean hv
  · exact Converter.isLeaf_of_objectId hv
  · exact Converter.isLeaf_of_integer hv
  · exact Converter.isLeaf_of_number hv
  · exact Converter.isLeaf_of_instant hv
  · split at hf
    · obtain rfl := List.mem_singleton.1 hf
      exact Converter.isLeaf_of_text hv
    · cases hf

theorem Dialect.isRegex_of_extendedJson {allowed : List String} {pattern options : String}
    {v : Value} (h : (extendedJson allowed).regex pattern options = .ok v) : v.IsRegex := by
  cases h
  exact .mk pattern options

end DocQuery
