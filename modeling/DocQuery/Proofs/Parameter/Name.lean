import DocQuery.Proofs.Parameter.Filing

/-!
# Names of paths

A key begins with a name of the path of its field. If the name has no doubled underscore and does
not end in an underscore, the key is cut right behind it; if it does not end in `[]` either, the key
may consist of the name alone; and if it is not empty, the key is not that of a directive. A path
without brackets is a name of itself. Names are put together by dots and by brackets, both of which
name the path in which the parts are joined by a dot.

## Main definitions

* `IsNameOf`: the names of a path.
* `IsPlainPath`: paths of fields that a key can name without changing them.

## Main results

* `IsNameOf.ofString_mark`, `IsNameOf.ofString_brackets`, `IsNameOf.ofString_self`: what the keys
  say that begin with a name.
* `IsNameOf.dot`, `IsNameOf.bracket`: names that are put together.
-/

namespace DocQuery

/-! ### Paths and cuts -/

theorem fieldPath_append (name name' : String) :
    fieldPath (name ++ name') = fieldPath name ++ fieldPath name' := by
  simp only [fieldPath, String.toList_append, List.flatMap_append, String.ofList_append]

/-- A text without brackets is a path as it stands. -/
theorem fieldPath_eq_self {name : String} (hopen : '[' ∉ name.toList) (hclose : ']' ∉ name.toList) :
    fieldPath name = name := by
  have hchar : ∀ c ∈ name.toList, pathChar c = [c] := by
    intro c hc
    have hc' : c ≠ '[' ∧ c ≠ ']' := ⟨fun e => hopen (e ▸ hc), fun e => hclose (e ▸ hc)⟩
    rw [pathChar, if_neg hc'.1, if_neg hc'.2]
  rw [fieldPath, List.flatMap_congr hchar, List.flatMap_singleton', String.ofList_toList]

/-- No doubled underscore arises behind a text that does not end in an underscore. -/
theorem not_mark_infix_append {s t : List Char} (hs : ¬['_', '_'] <:+: s)
    (hlast : s.getLast? ≠ some '_') (ht : ¬['_', '_'] <:+: t) : ¬['_', '_'] <:+: s ++ t := by
  rw [List.infix_append_iff]
  rintro (h | h | ⟨l, l', hsplit, hl, hl'⟩)
  · exact hs h
  · exact ht h
  · -- the two underscores stand in `t`, on both sides of the joint, or in `s`
    rcases List.cons_eq_append_iff.1 hsplit with ⟨-, rfl⟩ | ⟨l, rfl, hrest⟩
    · exact ht hl'.isInfix
    · rcases List.cons_eq_append_iff.1 hrest with ⟨rfl, -⟩ | ⟨l, rfl, hnil⟩
      · obtain ⟨r, rfl⟩ := hl
        exact hlast List.getLast?_concat
      · obtain ⟨rfl, -⟩ := List.nil_eq_append_iff.1 hnil
        exact hs hl.isInfix

theorem withoutBrackets?_eq_none {name : List Char} (h : ∀ r, name ≠ r ++ ['[', ']']) :
    withoutBrackets? name = none := by
  unfold withoutBrackets?
  split
  · next r hr => exact absurd (by simpa using congrArg List.reverse hr) (h r.reverse)
  · rfl

/-! ### Names -/

/-- Whether a text names a path at the beginning of a key, whatever follows it there. -/
structure IsNameOf (path name : String) : Prop where
  /-- With its brackets turned into dots the name is the path. -/
  fieldPath_eq : fieldPath name = path
  /-- The name is not empty. -/
  ne_empty : name ≠ ""
  /-- The name has no doubled underscore. -/
  no_mark : ¬['_', '_'] <:+: name.toList
  /-- The name does not end in an underscore. -/
  last_ne : name.toList.getLast? ≠ some '_'
  /-- The name does not end in an opening bracket. -/
  last_ne_open : name.toList.getLast? ≠ some '['
  /-- The name does not end in a pair of brackets. -/
  ne_brackets : ∀ r, name.toList ≠ r ++ ['[', ']']

namespace IsNameOf

variable {path path' name name' : String}

theorem toList_ne_nil (h : IsNameOf path name) : name.toList ≠ [] := fun hnil =>
  h.ne_empty (String.toList_inj.1 hnil)

/-- A key that begins with a name does not begin with a doubled underscore. -/
theorem not_isDirectiveKey_append (h : IsNameOf path name) (rest : String) :
    ¬IsDirectiveKey (name ++ rest) := by
  rintro ⟨directive, hdirective⟩
  rw [String.toList_append] at hdirective
  have hne := h.toList_ne_nil
  have hmark := h.no_mark
  have hlast := h.last_ne
  match hchars : name.toList with
  | [] => exact hne hchars
  | [c] =>
    rw [hchars] at hdirective hlast
    exact hlast (by simpa using (List.cons.inj hdirective).1.symm)
  | c :: c' :: cs =>
    rw [hchars] at hdirective hmark
    obtain ⟨rfl, htail⟩ := List.cons.inj hdirective
    obtain ⟨rfl, -⟩ := List.cons.inj htail
    exact hmark ⟨[], cs, rfl⟩

/-- Behind a name a doubled underscore separates the operator. -/
theorem ofString_mark (h : IsNameOf path name) (operator : String) :
    Key.ofString (name ++ "__" ++ operator) = ⟨path, operator⟩ := by
  have hkey : (name ++ "__" ++ operator).toList =
      name.toList ++ '_' :: '_' :: operator.toList := by simp
  rw [Key.ofString, hkey, Text.cutMark_append h.no_mark h.last_ne]
  simp [h.fieldPath_eq]

/-- Brackets behind a name stand for the list operator. -/
theorem ofString_brackets (h : IsNameOf path name) :
    Key.ofString (name ++ "[]") = ⟨path, (Operator.within true).text⟩ := by
  have hmark : ¬['_', '_'] <:+: name.toList ++ ['[', ']'] :=
    not_mark_infix_append h.no_mark h.last_ne (by decide)
  have hkey : (name ++ "[]").toList = name.toList ++ ['[', ']'] := by simp
  rw [Key.ofString, hkey, Text.cutMark_eq_none hmark]
  simp [withoutBrackets?, h.fieldPath_eq]

/-- A name alone stands for equality. -/
theorem ofString_self (h : IsNameOf path name) :
    Key.ofString name = ⟨path, Operator.eq.text⟩ := by
  rw [Key.ofString, Text.cutMark_eq_none h.no_mark, withoutBrackets?_eq_none h.ne_brackets]
  simp [h.fieldPath_eq]

/-- Two names are put together by a dot. -/
theorem dot (h : IsNameOf path name) (h' : IsNameOf path' name') :
    IsNameOf (path ++ "." ++ path') (name ++ "." ++ name') := by
  have hlist : (name ++ "." ++ name').toList = name.toList ++ '.' :: name'.toList := by simp
  have hlast : (name ++ "." ++ name').toList.getLast? = name'.toList.getLast? := by
    rw [hlist, List.getLast?_append_cons, List.getLast?_cons_of_ne_nil h'.toList_ne_nil]
  refine ⟨?_, ?_, ?_, hlast ▸ h'.last_ne, hlast ▸ h'.last_ne_open, fun r hr => ?_⟩
  · rw [fieldPath_append, fieldPath_append, h.fieldPath_eq, h'.fieldPath_eq]
    rfl
  · intro hempty
    simp [hempty] at hlist
  · rw [hlist]
    refine not_mark_infix_append h.no_mark h.last_ne ?_
    exact not_mark_infix_append (s := ['.']) (by decide) (by decide) h'.no_mark
  · rw [hlist, List.append_eq_append_iff] at hr
    rcases hr with ⟨l, -, hl⟩ | ⟨l, -, hl⟩
    · match l with
      | [] => cases hl
      | c :: l => exact h'.ne_brackets l (List.cons.inj hl).2
    · match l with
      | [] => cases hl
      | c :: l =>
        have hlength := congrArg List.length hl
        have hpos := List.length_pos_iff.2 h'.toList_ne_nil
        simp only [List.length_cons, List.length_nil, List.length_append] at hlength
        omega

/-- A name is put into brackets behind another one. -/
theorem bracket (h : IsNameOf path name) (h' : IsNameOf path' name') :
    IsNameOf (path ++ "." ++ path') (name ++ "[" ++ name' ++ "]") := by
  have hlist : (name ++ "[" ++ name' ++ "]").toList =
      name.toList ++ '[' :: name'.toList ++ [']'] := by simp
  have hlast : (name ++ "[" ++ name' ++ "]").toList.getLast? = some ']' := by
    rw [hlist, List.getLast?_concat]
  refine ⟨?_, ?_, ?_, by rw [hlast]; decide, by rw [hlast]; decide, fun r hr => ?_⟩
  · simp only [fieldPath_append, h.fieldPath_eq, h'.fieldPath_eq]
    exact String.append_empty
  · intro hempty
    simp [hempty] at hlist
  · rw [hlist, List.append_assoc]
    refine not_mark_infix_append h.no_mark h.last_ne ?_
    refine not_mark_infix_append (s := ['[']) (by decide) (by decide) ?_
    exact not_mark_infix_append h'.no_mark h'.last_ne (by decide)
  · -- the closing bracket stands behind a name, which does not end in an opening one
    rw [hlist, List.append_cons r, List.append_left_inj] at hr
    have hlast' := congrArg List.getLast? hr
    rw [List.getLast?_append_cons, List.getLast?_cons_of_ne_nil h'.toList_ne_nil,
      List.getLast?_concat] at hlast'
    exact h'.last_ne_open hlast'

end IsNameOf

/-! ### Plain paths -/

/-- Whether a path has no doubled underscore and no brackets, is not empty and does not end in an
underscore. -/
structure IsPlainPath (field : String) : Prop where
  /-- The path is not empty. -/
  ne_empty : field ≠ ""
  /-- The path has no doubled underscore. -/
  no_mark : ¬['_', '_'] <:+: field.toList
  /-- The path does not end in an underscore. -/
  last_ne : field.toList.getLast? ≠ some '_'
  /-- The path has no opening bracket. -/
  no_open : '[' ∉ field.toList
  /-- The path has no closing bracket. -/
  no_close : ']' ∉ field.toList

/-- A plain path is a name of itself. -/
theorem IsPlainPath.isNameOf {field : String} (h : IsPlainPath field) : IsNameOf field field where
  fieldPath_eq := fieldPath_eq_self h.no_open h.no_close
  ne_empty := h.ne_empty
  no_mark := h.no_mark
  last_ne := h.last_ne
  last_ne_open hlast := h.no_open (List.mem_of_getLast? hlast)
  ne_brackets r hr := h.no_close (by simp [hr])

end DocQuery
