import DocQuery.Proofs.Parameter.Destination
import DocQuery.SortKey

/-!
# Parameters that are read alike

Of a list of parameters only this is ever looked at: the fields for which something is filed, in
order, the groups of each field, the texts of the directives, and the operators outside the
vocabulary. Lists that agree in the fields and their groups have the same conditions.

## Main definitions

* `ReadAlike`: lists of parameters with the same groups and directives.

## Main results

* `Filed.groups_congr`: what the groups of a field depend on.
* `ReadAlike.conditions_eq`: lists that are read alike have the same conditions.
-/

namespace DocQuery

/-- Whether two lists of parameters are read alike: something is filed for the same fields, in the
same order, with the same groups, and the directives have the same texts. -/
structure ReadAlike (ps qs : List Parameter) : Prop where
  /-- The fields are the same, in order. -/
  fields : filedFields ps = filedFields qs
  /-- The groups of every field are the same, in order. -/
  groups : ∀ field, Filed.groups (filedFor ps field) = Filed.groups (filedFor qs field)
  /-- The texts given to the directives are the same, in order. -/
  directives : ∀ name ∈ [limitName, skipName, sortName],
    directiveTexts ps name = directiveTexts qs name

namespace Filed

variable {l l' : List (Operator × String)}

/-- The groups of a field depend on its spellings and on the texts under each of them. -/
theorem groups_congr (hspellings : spellings l = spellings l')
    (htexts : ∀ op, textsUnder l op = textsUnder l' op) : groups l = groups l' := by
  have hpieces : piecesUnder l = piecesUnder l' := by
    funext op
    rw [piecesUnder, piecesUnder, htexts]
  rw [groups, groups, hspellings, hpieces]

/-- How a field is settled depends on its groups only. -/
theorem settle_congr (h : groups l = groups l') :
    FieldConditions.settle (Table.group l) = FieldConditions.settle (Table.group l') := by
  have hjoin : FieldConditions.join (Table.group l) = FieldConditions.join (Table.group l') := by
    ext1
    rw [entries_join, entries_join, h]
  rw [FieldConditions.settle, FieldConditions.settle, hjoin]

end Filed

/-- Lists that are read alike have the same conditions. -/
theorem ReadAlike.conditions_eq {ps qs : List Parameter} (h : ReadAlike ps qs) :
    (Gathered.ofParameters ps).conditions = (Gathered.ofParameters qs).conditions := by
  rw [Gathered.conditions, Gathered.conditions, entries_fields_ofParameters,
    entries_fields_ofParameters, h.fields]
  simp only [Filed.settle_congr (h.groups _)]

end DocQuery
