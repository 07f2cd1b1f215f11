import DocQuery.Proofs.Compiler.Fault
import DocQuery.Proofs.Parameter.Locality

/-!
# What the parts of a compilation depend on

The parameters of all fields and directives go through one compilation, in any interleaving, and yet
none of them has an effect on the outcome of another. What is asked of a field, and which of its
operators and conditions are reported, depends only on the parameters that name the field; the limit
and the skip depend only on the parameters of their directives; and so does the order.

## Main definitions

* `ErrorParts`, `Compiler.errorParts`: the errors of a compilation, apart by what they are about.
* `Compiler.IsLocal`: how a compilation is put together from independent parts.

## Main results

* `Compiler.errors_eq_of_compile`: the errors of a compilation are those of its parts.
* `Compiler.isLocal_compile`: every compilation is put together from independent parts.
-/

namespace DocQuery

/-- The errors of a compilation, apart by what they are about. -/
structure ErrorParts where
  /-- The errors about operators outside the vocabulary, each with the field that is named. -/
  unknown : List (String × RequestError)
  /-- The errors of conditions, each with the field of the condition. -/
  conditions : List (String × RequestError)
  /-- The errors about required fields of which nothing is asked. -/
  missing : List RequestError
  /-- The errors about the limit. -/
  limit : List RequestError
  /-- The errors about the skip. -/
  skip : List RequestError
  /-- The errors about sort tokens. -/
  order : List RequestError

/-- All errors in their order. -/
def ErrorParts.all (e : ErrorParts) : List RequestError :=
  e.unknown.map Prod.snd ++ e.conditions.map Prod.snd ++ e.missing ++ e.limit ++ e.skip ++ e.order

namespace Compiler

variable (c : Compiler) (ps : List Parameter)

/-- The errors about the value of a directive. -/
def directiveErrors (name : String) : List RequestError :=
  match directive ps name with
  | .ok r => r.2
  | .error _ => []

/-- The errors about sort tokens. -/
def orderErrors : List RequestError :=
  match c.sortOutcomes (orderTokens ps) with
  | .ok outcomes => failures outcomes
  | .error _ => []

/-- The errors of a compilation, apart by what they are about. -/
def errorParts : ErrorParts where
  unknown := (Gathered.unknownOperators ps).map fun u => (u.1, Gathered.unknownOperator u.1 u.2)
  conditions := (c.outcomes ps).filterMap fun o => (failure? o.2).map fun e => (o.1.field, e)
  missing := c.missingFields (criteriaOf (c.outcomes ps))
  limit := directiveErrors ps limitName
  skip := directiveErrors ps skipName
  order := c.orderErrors ps

/-- How a compilation is put together from parts that do not depend on one another. -/
structure IsLocal (r : Compilation) : Prop where
  /-- The errors are those of the parts. -/
  errors_eq : r.errors = (c.errorParts ps).all
  /-- The parameters that name a field have the same outcome by themselves: the same is asked of the
  field, and the same errors are reported. -/
  field : ∀ field, ∃ r', c.compile (parametersOf field ps) = .ok r' ∧
    r'.query.filter.get? field = r.query.filter.get? field ∧
    r'.errors = (c.errorParts (parametersOf field ps)).all ∧
    (c.errorParts (parametersOf field ps)).unknown =
      (c.errorParts ps).unknown.filter (fun e => e.1 = field) ∧
    (c.errorParts (parametersOf field ps)).conditions =
      (c.errorParts ps).conditions.filter fun e => e.1 = field
  /-- The limit depends on its own parameters only. -/
  limit : ∀ qs r', c.compile qs = .ok r' →
    directivePairs qs limitName = directivePairs ps limitName →
      r'.query.limit = r.query.limit ∧ (c.errorParts qs).limit = (c.errorParts ps).limit
  /-- The skip depends on its own parameters only. -/
  skip : ∀ qs r', c.compile qs = .ok r' →
    directivePairs qs skipName = directivePairs ps skipName →
      r'.query.skip = r.query.skip ∧ (c.errorParts qs).skip = (c.errorParts ps).skip
  /-- The order depends on its own parameters only. -/
  order : ∀ qs r', c.compile qs = .ok r' →
    directivePairs qs sortName = directivePairs ps sortName →
      r'.query.sort = r.query.sort ∧ (c.errorParts qs).order = (c.errorParts ps).order

variable {c} {ps} {qs : List Parameter}

/-! ### Errors -/

theorem map_snd_unknown (c : Compiler) (ps : List Parameter) :
    (c.errorParts ps).unknown.map Prod.snd = (Gathered.ofParameters ps).errors := by
  rw [errorParts, List.map_map]
  rfl

theorem map_snd_conditions (c : Compiler) (ps : List Parameter) :
    (c.errorParts ps).conditions.map Prod.snd = failures ((c.outcomes ps).map Prod.snd) := by
  rw [errorParts, List.map_filterMap, failures, List.filterMap_map]
  simp only [Option.map_map, Function.comp_def, Option.map_id']

/-- The errors of a compilation are those of its parts. -/
theorem errors_eq_of_compile {r : Compilation} (h : c.compile ps = .ok r) :
    r.errors = (c.errorParts ps).all := by
  obtain ⟨limitErrors, skipErrors, sorted, hlimit, hskip, hsorted, hfilter, -, herrors⟩ :=
    exists_stages_of_compile h
  have hlimit' : (c.errorParts ps).limit = limitErrors := by
    simp only [errorParts, directiveErrors, hlimit]
  have hskip' : (c.errorParts ps).skip = skipErrors := by
    simp only [errorParts, directiveErrors, hskip]
  have horder : (c.errorParts ps).order = failures sorted := by
    simp only [errorParts, orderErrors, hsorted]
  rw [herrors, hfilter, ErrorParts.all, map_snd_unknown, map_snd_conditions, hlimit', hskip',
    horder]
  rfl

/-! ### One field -/

/-- The parameters that name a field have the same outcomes by themselves. -/
theorem outcomes_parametersOf (field : String) :
    c.outcomes (parametersOf field ps) = (c.outcomes ps).filter fun o => o.1.field = field := by
  rw [outcomes, outcomes, Gathered.conditions_parametersOf, List.filter_map]
  rfl

theorem converted_parametersOf (field : String) :
    c.converted (parametersOf field ps) field = c.converted ps field := by
  rw [converted, converted, entries_get?_fields_ofParameters, entries_get?_fields_ofParameters,
    filedFor_parametersOf]

theorem unknown_parametersOf (field : String) :
    (c.errorParts (parametersOf field ps)).unknown =
      (c.errorParts ps).unknown.filter fun e => e.1 = field := by
  simp only [errorParts, unknownOperators_parametersOf, List.filter_map]
  rfl

theorem conditions_parametersOf (field : String) :
    (c.errorParts (parametersOf field ps)).conditions =
      (c.errorParts ps).conditions.filter fun e => e.1 = field := by
  simp only [errorParts, outcomes_parametersOf, List.filterMap_filter, List.filter_filterMap]
  refine List.filterMap_congr fun o _ => ?_
  cases failure? o.2 <;> simp [Option.filter]

/-! ### Directives -/

theorem directive_congr {name : String} (h : directivePairs qs name = directivePairs ps name) :
    directive qs name = directive ps name := by
  simp only [directive, readCount, directiveTexts_eq, h]

theorem orderTokens_congr (h : directivePairs qs sortName = directivePairs ps sortName) :
    orderTokens qs = orderTokens ps := by
  simp only [orderTokens, directiveTexts_eq, h]

/-- Every compilation is put together from parts that do not depend on one another. -/
theorem isLocal_compile {r : Compilation} (h : c.compile ps = .ok r) : c.IsLocal ps r := by
  obtain ⟨_, _, sorted, hlimit, hskip, hsorted, hfilter, hsort, -⟩ := exists_stages_of_compile h
  refine ⟨errors_eq_of_compile h, fun field => ?_, fun qs r' h' hpairs => ?_,
    fun qs r' h' hpairs => ?_, fun qs r' h' hpairs => ?_⟩
  · have hnone : ∀ p ∈ parametersOf field ps, ¬IsDirectiveKey p.1 := fun _ =>
      not_isDirectiveKey_of_mem_parametersOf
    obtain ⟨r', h'⟩ := c.exists_compile_of_not_directive hnone
    obtain ⟨-, -, -, -, -, -, hfilter', -, -⟩ := exists_stages_of_compile h'
    refine ⟨r', h', ?_, errors_eq_of_compile h', unknown_parametersOf field,
      conditions_parametersOf field⟩
    rw [hfilter, hfilter', get?_criteriaOf_outcomes, get?_criteriaOf_outcomes,
      converted_parametersOf]
  · obtain ⟨_, _, _, hlimit', -⟩ := exists_stages_of_compile h'
    have hsame := directive_congr hpairs
    refine ⟨?_, by simp only [errorParts, directiveErrors, hsame]⟩
    rw [hlimit, hlimit'] at hsame
    exact (Prod.mk.inj (Except.ok.inj hsame)).1
  · obtain ⟨_, _, _, -, hskip', -⟩ := exists_stages_of_compile h'
    have hsame := directive_congr hpairs
    refine ⟨?_, by simp only [errorParts, directiveErrors, hsame]⟩
    rw [hskip, hskip'] at hsame
    exact (Prod.mk.inj (Except.ok.inj hsame)).1
  · obtain ⟨_, _, sorted', -, -, hsorted', -, hsort', -⟩ := exists_stages_of_compile h'
    have hsame := orderTokens_congr hpairs
    refine ⟨?_, by simp only [errorParts, orderErrors, hsame]⟩
    rw [hsame, hsorted] at hsorted'
    rw [hsort, hsort', Except.ok.inj hsorted']

/-- Two fields with an unknown operator each, of which one has a condition that fails, between all
directives. -/
theorem isLocal_compile_ofSettings :
    ∃ r, (ofSettings (some (.extendedJson [])) .empty {}).compile
        [("__sort", "-a,+"), ("a__xx", "1"), ("b__in", "1,2"), ("__limit", "5"), ("a__sw", "x"),
          ("b__yy", "1"), ("a__exists", "2"), ("__skip", "z"), ("a", "3")] = .ok r ∧
      r.query.filter.keys = ["b", "a"] ∧
      (ofSettings (some (.extendedJson [])) .empty {}).IsLocal
        [("__sort", "-a,+"), ("a__xx", "1"), ("b__in", "1,2"), ("__limit", "5"), ("a__sw", "x"),
          ("b__yy", "1"), ("a__exists", "2"), ("__skip", "z"), ("a", "3")] r :=
  ⟨_, rfl, rfl, isLocal_compile rfl⟩

end Compiler

end DocQuery
