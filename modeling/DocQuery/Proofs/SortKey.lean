import DocQuery.SortKey

/-!
# Reading and writing sort keys

A sort key is written as a token: a descending one with a minus sign in front, and an ascending one
with a plus sign, which may be left out unless the field begins with one itself. A token is read as
the key for which it was written, and the key that is read from any token can be written and is read
again. A field that is ascending must not begin with a minus sign, and no token stands for such a
key.

## Main definitions

* `SortKey.IsWritable`, `SortKey.Writes`: the sort keys that can be written, and their tokens.

## Main results

* `SortKey.ofToken_eq_ok_iff`, `SortKey.ofToken_eq_error_iff`: what is read from a token.
* `SortKey.ofToken_of_writes`: what is written is read back.
* `SortKey.isWritable_of_ofToken`: what is read can be written.
-/

namespace DocQuery

/-- A token without a sign in front is an ascending field. -/
theorem splitToken_eq_self {s : List Char} (hplus : s.head? ≠ some '+')
    (hminus : s.head? ≠ some '-') : splitToken s = (s, .ascending) := by
  match s with
  | [] => rfl
  | c :: s =>
    have hplus' : c ≠ '+' := by simpa using hplus
    have hminus' : c ≠ '-' := by simpa using hminus
    simp [splitToken, hplus', hminus']

/-- Behind a plus sign stands an ascending field. -/
theorem splitToken_plus {s : List Char} (hminus : s.head? ≠ some '-') :
    splitToken ('+' :: s) = (s, .ascending) := by
  match s with
  | [] => rfl
  | c :: s =>
    have hminus' : c ≠ '-' := by simpa using hminus
    simp [splitToken, hminus']

theorem head?_ne_of_splitToken {s field : List Char} (h : splitToken s = (field, .ascending)) :
    field.head? ≠ some '-' := by
  unfold splitToken at h
  dsimp only at h
  split at h
  · cases h
  · next hminus =>
    obtain rfl := (Prod.mk.inj h).1
    rintro hhead
    obtain ⟨r, hr⟩ := List.head?_eq_some_iff.1 hhead
    exact hminus r hr

namespace SortKey

/-- Whether a sort key can be written: its field is not empty and, if it is ascending, does not
begin with a minus sign. -/
structure IsWritable (key : SortKey) : Prop where
  /-- The field is not empty. -/
  ne_empty : key.field ≠ ""
  /-- An ascending field does not begin with a minus sign. -/
  no_minus : key.direction = .ascending → key.field.toList.head? ≠ some '-'

/-- The tokens that are written for a sort key. -/
inductive Writes : SortKey → String → Prop
  /-- A minus sign stands in front of a descending field. -/
  | descending {field : String} : Writes ⟨field, .descending⟩ ("-" ++ field)
  /-- A plus sign stands in front of an ascending field. -/
  | ascending {field : String} : Writes ⟨field, .ascending⟩ ("+" ++ field)
  /-- The plus sign is left out in front of a field that does not begin with one. -/
  | bare {field : String} (hplus : field.toList.head? ≠ some '+') : Writes ⟨field, .ascending⟩ field

variable {key : SortKey} {token : String}

theorem ofToken_eq (token : String) : ofToken token =
    if (splitToken token.toList).1 = [] then
      .error { kind := .sortRefused, reason := some (.emptySortToken token) }
    else .ok ⟨String.ofList (splitToken token.toList).1, (splitToken token.toList).2⟩ :=
  rfl

theorem ofToken_eq_ok_iff : ofToken token = .ok key ↔
    splitToken token.toList = (key.field.toList, key.direction) ∧ key.field ≠ "" := by
  rw [ofToken_eq]
  constructor
  · intro h
    split at h
    · cases h
    · next hfield =>
      obtain rfl := Except.ok.inj h
      refine ⟨by rw [String.toList_ofList], fun hempty => hfield ?_⟩
      simpa using congrArg String.toList hempty
  · rintro ⟨hsplit, hne⟩
    have hfield : key.field.toList ≠ [] := fun hnil => hne (String.toList_inj.1 hnil)
    rw [hsplit, if_neg hfield, String.ofList_toList]

/-- Only a token without a field is refused. -/
theorem ofToken_eq_error_iff {e : RequestError} : ofToken token = .error e ↔
    (splitToken token.toList).1 = [] ∧
      e = { kind := .sortRefused, reason := some (.emptySortToken token) } := by
  rw [ofToken_eq]
  by_cases hfield : (splitToken token.toList).1 = []
  · simp [hfield, eq_comm]
  · simp [hfield]

/-- What is written for a sort key is read as this key. -/
theorem ofToken_of_writes (hkey : key.IsWritable) (h : key.Writes token) :
    ofToken token = .ok key := by
  refine ofToken_eq_ok_iff.2 ⟨?_, hkey.ne_empty⟩
  cases h with
  | descending =>
    rw [String.toList_append]
    rfl
  | ascending =>
    rw [String.toList_append]
    exact splitToken_plus (hkey.no_minus rfl)
  | bare hplus => exact splitToken_eq_self hplus (hkey.no_minus rfl)

/-- What is read from a token can be written. -/
theorem isWritable_of_ofToken (h : ofToken token = .ok key) : key.IsWritable := by
  obtain ⟨hsplit, hne⟩ := ofToken_eq_ok_iff.1 h
  exact ⟨hne, fun hdirection => head?_ne_of_splitToken (hdirection ▸ hsplit)⟩

end SortKey

end DocQuery
