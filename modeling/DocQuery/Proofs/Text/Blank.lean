import DocQuery.Text.Character
import Mathlib.Data.List.DropRight

/-!
# Texts without the blanks around them

Taking the blanks away from the two ends of a text leaves the only text that neither begins nor ends
with a blank and has nothing but blanks around it. It is empty if the whole text is blank.

## Main definitions

* `Text.IsTrimOf`: what is left of a text without the blanks around it.

## Main results

* `Text.trim_eq_iff`: the specification of `Text.trim`.
* `Text.trim_eq_empty_iff`: the texts of which nothing is left.
-/

namespace DocQuery.Text

/-- What is left of a text without the blanks around it. -/
structure IsTrimOf (t s : String) : Prop where
  /-- There are only blanks around it. -/
  exists_blanks : ∃ before after, s.toList = before ++ t.toList ++ after ∧
    (∀ c ∈ before, isBlank c = true) ∧ ∀ c ∈ after, isBlank c = true
  /-- It begins with no blank. -/
  head : ∀ c ∈ t.toList.head?, isBlank c = false
  /-- It ends with no blank. -/
  last : ∀ c ∈ t.toList.getLast?, isBlank c = false

theorem toList_trim (s : String) :
    (trim s).toList = (s.toList.dropWhile isBlank).rdropWhile isBlank :=
  String.toList_ofList

/-- Nothing is dropped from a list that begins with no blank. -/
theorem dropWhile_isBlank_eq_self {l : List Char} (h : ∀ c ∈ l.head?, isBlank c = false) :
    l.dropWhile isBlank = l := by
  cases l with
  | nil => rfl
  | cons c l => rw [List.dropWhile_cons_of_neg (by simp [h c rfl])]

/-- Only the blanks are dropped behind a list that ends with no blank. -/
theorem rdropWhile_isBlank_append {l after : List Char} (hl : ∀ c ∈ l.getLast?, isBlank c = false)
    (h : ∀ c ∈ after, isBlank c = true) : (l ++ after).rdropWhile isBlank = l := by
  rw [List.rdropWhile, List.reverse_append,
    List.dropWhile_append_of_pos fun c hc => h c (List.mem_reverse.1 hc),
    dropWhile_isBlank_eq_self fun c hc => hl c (by rwa [List.head?_reverse] at hc),
    List.reverse_reverse]

/-- Trimming leaves a text without the blanks around it. -/
theorem isTrimOf_trim (s : String) : IsTrimOf (trim s) s := by
  -- dropping stops at a character that is no blank, and the blanks at the end stand behind it
  have hrest := List.head?_dropWhile_not isBlank s.toList
  rw [← List.rdropWhile_append_rtakeWhile (p := isBlank) (l := s.toList.dropWhile isBlank),
    ← toList_trim] at hrest
  refine ⟨⟨s.toList.takeWhile isBlank, (s.toList.dropWhile isBlank).rtakeWhile isBlank, ?_,
    fun c => List.mem_takeWhile_imp, fun c => List.mem_rtakeWhile_imp⟩, fun c hc => ?_,
    fun c hc => ?_⟩
  · rw [toList_trim, List.append_assoc, List.rdropWhile_append_rtakeWhile,
      List.takeWhile_append_dropWhile]
  · obtain ⟨l, hl⟩ := List.head?_eq_some_iff.1 hc
    rw [hl] at hrest
    exact hrest
  · rw [toList_trim] at hc
    obtain ⟨hne, hlast⟩ := List.mem_getLast?_eq_getLast hc
    rw [hlast]
    exact Bool.eq_false_iff.2 (List.rdropWhile_last_not _ _ hne)

/-- Only one text is left of a text without the blanks around it. -/
theorem IsTrimOf.trim_eq {s t : String} (h : IsTrimOf t s) : trim s = t := by
  obtain ⟨⟨before, after, hs, hbefore, hafter⟩, hhead, hlast⟩ := h
  apply String.toList_inj.1
  rw [toList_trim, hs, List.append_assoc, List.dropWhile_append_of_pos hbefore,
    List.dropWhile_append, dropWhile_isBlank_eq_self hhead]
  by_cases ht : t.toList = []
  · rw [ht, List.isEmpty_nil, if_pos rfl, List.dropWhile_eq_nil_iff.2 hafter, List.rdropWhile_nil]
  · rw [if_neg (by simpa using ht), rdropWhile_isBlank_append hlast hafter]

/-- The specification of `trim`. -/
theorem trim_eq_iff {s t : String} : trim s = t ↔ IsTrimOf t s :=
  ⟨fun h => h ▸ isTrimOf_trim s, IsTrimOf.trim_eq⟩

/-- Nothing is left of a text if all of it is blank. -/
theorem trim_eq_empty_iff {s : String} : trim s = "" ↔ ∀ c ∈ s.toList, isBlank c = true := by
  rw [trim_eq_iff]
  constructor
  · rintro ⟨⟨before, after, hs, hbefore, hafter⟩, -, -⟩ c hc
    rw [hs, String.toList_empty, List.append_nil, List.mem_append] at hc
    exact hc.elim (hbefore c) (hafter c)
  · intro h
    exact ⟨⟨s.toList, [], by simp, h, by simp⟩, by simp, by simp⟩

end DocQuery.Text
