import DocQuery.Proofs.Compiler.Contribution
import DocQuery.Proofs.Compiler.Stages
import DocQuery.Proofs.Criteria.Content

/-!
# What a compilation reports

Every condition either contributes to the criteria or is reported, and never both. The errors of a
compilation are those about unknown operators, those of the conditions, those about required fields
that the criteria do not ask about, those of the limit and of the skip, and those of the order, in
this sequence and each of them in the order of what they are about.

## Main definitions

* `Compiler.Contributes`: what a condition that is not reported adds to the criteria.
* `Compiler.IsReport`: how the query and the errors of a compilation come about.

## Main results

* `Compiler.exists_isReport`: every compilation has a report.
-/

namespace DocQuery

/-- The errors about operators outside the vocabulary, each field and text once. -/
def unknownErrors (ps : List Parameter) : List RequestError :=
  (ps.filterMap unknownOperator?).eraseDups.map fun u =>
    { kind := .unknownOperator, field := some u.1, operator := some u.2 }

theorem errors_ofParameters (ps : List Parameter) :
    (Gathered.ofParameters ps).errors = unknownErrors ps := by
  rw [unknownErrors, ← unknownOperators_eq]
  rfl

namespace Compiler

/-- What a condition adds to the criteria. -/
inductive Contributes (c : Compiler) (cond : Condition) : String × Addition → Prop
  | value {v : Value} (h : c.Yields cond v) : Contributes c cond (cond.field, cond.operator, v)

variable {c : Compiler} {cond : Condition}

theorem contribution_of_contributes {a : String × Addition} (h : c.Contributes cond a) :
    c.contribution cond = .ok a := by
  obtain ⟨h⟩ := h
  rw [contribution, convert_of_yields h]
  rfl

theorem contribution_of_reported {e : RequestError} (h : c.Reported cond e) :
    c.contribution cond = .error e := by
  rw [contribution, convert_of_reported h]
  rfl

/-- A condition with a text contributes or is reported. -/
theorem contributes_or_reported (htexts : cond.texts ≠ []) :
    (∃ a, c.Contributes cond a) ∨ ∃ e, c.Reported cond e :=
  (yields_or_reported c htexts).imp_left fun ⟨_, hv⟩ => ⟨_, .value hv⟩

variable (c) (ps : List Parameter)

theorem successes_contribution (conds : List Condition) :
    successes (conds.map c.contribution) = conds.filterMap c.addition? :=
  List.filterMap_map

theorem failures_contribution (conds : List Condition) :
    failures (conds.map c.contribution) = failures (conds.map c.convert) := by
  rw [failures, failures, List.filterMap_map, List.filterMap_map]
  refine List.filterMap_congr fun cond _ => ?_
  rw [Function.comp_apply, Function.comp_apply, contribution]
  cases c.convert cond <;> rfl

/-- The conditions of a list of parameters contribute or are reported. -/
theorem divides_conditions :
    Divides c.Contributes c.Reported (Gathered.ofParameters ps).conditions
      (c.contributions ps) (failures ((c.outcomes ps).map Prod.snd)) := by
  have hmap : (c.outcomes ps).map Prod.snd =
      (Gathered.ofParameters ps).conditions.map c.convert := by
    rw [outcomes, List.map_map]
    rfl
  rw [hmap, ← failures_contribution, contributions, ← successes_contribution]
  exact divides_map (fun _ _ => contribution_of_contributes) (fun _ _ => contribution_of_reported)
    fun _ hcond => contributes_or_reported (Gathered.texts_ne_nil hcond)

/-- The errors about required fields of which nothing is asked. -/
def missingErrors (filter : Criteria) : List RequestError :=
  (c.declared.entries.filter fun f => f.2.required = true ∧ f.1 ∉ filter.keys).map fun f =>
    { kind := .missingField, field := some f.1 }

theorem missingFields_eq (filter : Criteria) : c.missingFields filter = c.missingErrors filter := by
  rw [missingFields, missingErrors]
  congr 1
  refine List.filter_congr fun f _ => ?_
  simp [Table.contains, Bool.decide_and]

/-- How the query and the errors of a compilation come about. -/
structure IsReport (r : Compilation)
    (conditionErrors limitErrors skipErrors orderErrors : List RequestError) : Prop where
  /-- The criteria consist of what the conditions add that are not reported. -/
  conditions : ∃ additions, r.query.filter.ConsistsOf additions ∧
    Divides c.Contributes c.Reported (Gathered.ofParameters ps).conditions additions
      conditionErrors
  /-- The limit is set or its value is refused. -/
  limit : DirectiveSets limitName (directiveText ps limitName) (r.query.limit, limitErrors)
  /-- The skip is set or its value is refused. -/
  skip : DirectiveSets skipName (directiveText ps skipName) (r.query.skip, skipErrors)
  /-- The sort tokens become elements of the order or are reported. -/
  order : c.OrdersAll (orderTokens ps) r.query.sort orderErrors
  /-- The errors stand in a fixed order. -/
  errors_eq : r.errors = unknownErrors ps ++ conditionErrors ++ c.missingErrors r.query.filter ++
    limitErrors ++ skipErrors ++ orderErrors

variable {c ps}

/-- Every compilation has a report. -/
theorem exists_isReport {r : Compilation} (h : c.compile ps = .ok r) :
    ∃ conditionErrors limitErrors skipErrors orderErrors,
      c.IsReport ps r conditionErrors limitErrors skipErrors orderErrors := by
  obtain ⟨limitErrors, skipErrors, sorted, hlimit, hskip, hsorted, hfilter, hsort, herrors⟩ :=
    exists_stages_of_compile h
  refine ⟨_, limitErrors, skipErrors, failures sorted, ⟨c.contributions ps, ?_,
    c.divides_conditions ps⟩, directive_eq_ok_iff.1 hlimit, directive_eq_ok_iff.1 hskip, ?_, ?_⟩
  · rw [hfilter, criteriaOf_outcomes]
    exact Criteria.consistsOf_addAll (c.nodup_additions (Gathered.nodup_conditions _))
  · rw [hsort]
    exact ordersAll_of_sortOutcomes hsorted
  · rw [herrors, errors_ofParameters, missingFields_eq]

end Compiler

end DocQuery
