import DocQuery.Proofs.Parameter.Destination

/-!
# The parameters of one field or directive

What is filed for a field comes from the parameters that name it, and so do the conditions of the
field and its operators outside the vocabulary. Directives and the parameters of other fields may
stand between them in any way. The texts of a directive are the values of its own parameters.

## Main definitions

* `Names`, `parametersOf`: the parameters that name a field.
* `directivePairs`, `withoutDirective`: the parameters of a directive, and all others.

## Main results

* `filedFor_parametersOf`: what is filed for a field.
* `unknownOperators_parametersOf`: the operators outside the vocabulary.
* `Gathered.conditions_parametersOf`: the conditions.
* `ofParameters_withoutDirective`: a directive has no part in what is gathered.
-/

namespace DocQuery

/-- Whether a parameter names a field: its key is no directive and has the path of the field. -/
def Names (field : String) (p : Parameter) : Prop :=
  ¬IsDirectiveKey p.1 ∧ (Key.ofString p.1).field = field

instance (field : String) (p : Parameter) : Decidable (Names field p) :=
  inferInstanceAs (Decidable (_ ∧ _))

/-- The parameters that name a field, in order. -/
def parametersOf (field : String) (ps : List Parameter) : List Parameter :=
  ps.filter fun p => Names field p

/-- The parameters of a directive, in order. -/
def directivePairs (ps : List Parameter) (name : String) : List Parameter :=
  ps.filter fun p => p.1 = directiveKey name

theorem directiveTexts_eq (ps : List Parameter) (name : String) :
    directiveTexts ps name = (directivePairs ps name).map Prod.snd := by
  rw [directiveTexts, directivePairs, ← List.filterMap_eq_map, List.filterMap_filter]
  simp

variable {field : String} {ps : List Parameter}

theorem not_isDirectiveKey_of_mem_parametersOf {p : Parameter} (hp : p ∈ parametersOf field ps) :
    ¬IsDirectiveKey p.1 := by
  have hnames : Names field p := by simpa using (List.mem_filter.1 hp).2
  exact hnames.1

/-- What parameters give to a field is given by those that name it. -/
theorem filterMap_parametersOf {α : Type} {g : Parameter → Option (String × α)}
    (hg : ∀ {p x}, g p = some x → (Names field p ↔ x.1 = field)) :
    (parametersOf field ps).filterMap g = (ps.filterMap g).filter fun x => x.1 = field := by
  rw [parametersOf, List.filterMap_filter, List.filter_filterMap]
  refine List.filterMap_congr fun p _ => ?_
  cases hx : g p with
  | none => simp
  | some x => simp [Option.filter, hg hx]

theorem names_iff_of_filing? {p : Parameter} {f : String × Operator × String}
    (hf : filing? p = some f) : Names field p ↔ f.1 = field := by
  obtain ⟨hkey, hname, -⟩ := filing?_eq_some_iff.1 hf
  rw [Names, hname]
  exact and_iff_right hkey

theorem names_iff_of_unknownOperator? {p : Parameter} {u : String × String}
    (hu : unknownOperator? p = some u) : Names field p ↔ u.1 = field := by
  unfold unknownOperator? at hu
  split at hu
  · next h =>
    obtain rfl := Option.some.inj hu
    exact and_iff_right h.1
  · cases hu

theorem filings_parametersOf (field : String) (ps : List Parameter) :
    filings (parametersOf field ps) = (filings ps).filter fun f => f.1 = field :=
  filterMap_parametersOf names_iff_of_filing?

theorem filedFor_parametersOf (field : String) (ps : List Parameter) :
    filedFor (parametersOf field ps) field = filedFor ps field := by
  rw [filedFor, filings_parametersOf, List.filter_filter]
  simp only [Bool.and_self]
  rfl

theorem eq_of_mem_filedFields_parametersOf {field' : String}
    (h : field' ∈ filedFields (parametersOf field ps)) : field' = field := by
  rw [filedFields, List.mem_eraseDups, filings_parametersOf] at h
  obtain ⟨f, hf, rfl⟩ := List.mem_map.1 h
  exact of_decide_eq_true (List.mem_filter.1 hf).2

/-- The operators outside the vocabulary that are named with a field. -/
theorem unknownOperators_parametersOf (field : String) (ps : List Parameter) :
    Gathered.unknownOperators (parametersOf field ps) =
      (Gathered.unknownOperators ps).filter fun u => u.1 = field := by
  rw [unknownOperators_eq, unknownOperators_eq, ← eraseDups_filter,
    filterMap_parametersOf names_iff_of_unknownOperator?]

/-- The conditions of a field. -/
theorem Gathered.conditions_parametersOf (field : String) (ps : List Parameter) :
    (ofParameters (parametersOf field ps)).conditions =
      (ofParameters ps).conditions.filter fun cond => cond.field = field := by
  have hall : ((ofParameters (parametersOf field ps)).conditions.filter fun cond =>
      cond.field = field) = (ofParameters (parametersOf field ps)).conditions :=
    List.filter_eq_self.2 fun cond hcond =>
      decide_eq_true (eq_of_mem_filedFields_parametersOf (mem_conditions_iff.1 hcond).1)
  rw [← hall, filter_conditions, filter_conditions, entries_get?_fields_ofParameters,
    entries_get?_fields_ofParameters, filedFor_parametersOf]

/-! ### All parameters but those of a directive -/

/-- The parameters that do not belong to a directive, in order. -/
def withoutDirective (ps : List Parameter) (name : String) : List Parameter :=
  ps.filter fun p => p.1 ≠ directiveKey name

variable {name name' : String}

/-- What directives do not give is given by the parameters of all others. -/
theorem filterMap_withoutDirective {α : Type} {g : Parameter → Option α}
    (hg : ∀ p, IsDirectiveKey p.1 → g p = none) :
    (withoutDirective ps name).filterMap g = ps.filterMap g := by
  rw [withoutDirective, List.filterMap_filter]
  refine List.filterMap_congr fun p _ => ?_
  by_cases hp : p.1 = directiveKey name
  · rw [hg p (hp ▸ isDirectiveKey_directiveKey name), ite_self]
  · rw [if_pos (decide_eq_true hp)]

/-- A directive has no part in what is gathered. -/
theorem ofParameters_withoutDirective (ps : List Parameter) (name : String) :
    Gathered.ofParameters (withoutDirective ps name) = Gathered.ofParameters ps := by
  have hcollect : Gathered.collect (withoutDirective ps name) = Gathered.collect ps := by
    rw [Gathered.collect, Gathered.collect, filterMap_withoutDirective]
    intro p hp
    rw [condition?_ofParameter]
    exact if_pos hp
  have hunknown : Gathered.unknownOperators (withoutDirective ps name) =
      Gathered.unknownOperators ps := by
    rw [unknownOperators_eq, unknownOperators_eq, filterMap_withoutDirective]
    exact fun p hp => if_neg fun hunknown => hunknown.1 hp
  rw [Gathered.ofParameters, Gathered.ofParameters, hcollect, hunknown]

theorem directiveTexts_withoutDirective_self (ps : List Parameter) (name : String) :
    directiveTexts (withoutDirective ps name) name = [] := by
  refine List.filterMap_eq_nil_iff.2 fun p hp => if_neg ?_
  simpa using (List.mem_filter.1 hp).2

/-- A directive has no effect on the texts of another. -/
theorem directiveTexts_withoutDirective_of_ne (h : directiveKey name' ≠ directiveKey name)
    (ps : List Parameter) :
    directiveTexts (withoutDirective ps name) name' = directiveTexts ps name' := by
  rw [directiveTexts, directiveTexts, withoutDirective, List.filterMap_filter]
  refine List.filterMap_congr fun p _ => ?_
  by_cases hp : p.1 = directiveKey name
  · rw [if_neg (by simpa using hp), if_neg (hp ▸ Ne.symm h)]
  · rw [if_pos (decide_eq_true hp)]

end DocQuery
