import DocQuery.Proofs.Compiler.Report
import DocQuery.Proofs.RequestError
import DocQuery.Service.Settings

/-!
# How parameters are accounted for

Nothing that a request says is passed over or counted twice. Every parameter is a directive, names
an operator outside the vocabulary, or goes to exactly one condition; every condition contributes to
the criteria, which consist of these contributions, or is reported with its field and its operator;
and the errors of all kinds stand in a fixed order. The strict compilation rejects a request with
one error that takes exactly these together, and with the same query.

## Main definitions

* `Compiler.Accounts`: how the parameters of a list are accounted for in a compilation.

## Main results

* `Compiler.accounts_of_compile`: every compilation accounts for its parameters.
-/

namespace DocQuery

theorem DirectiveSets.length_le_one {name text : String} {r : Nat × List RequestError}
    (h : DirectiveSets name text r) : r.2.length ≤ 1 := by
  cases h <;> simp

namespace Compiler

variable {c : Compiler} {ps : List Parameter}

/-- How the parameters of a list are accounted for in a compilation. -/
structure Accounts (c : Compiler) (ps : List Parameter) (r : Compilation) : Prop where
  /-- A parameter is a directive, names an operator outside the vocabulary, or adds texts to exactly
  one condition. -/
  parameter : ∀ p ∈ ps,
    (IsDirectiveKey p.1 ∧ unknownOperator? p = none ∧ destination? ps p = none) ∨
      (¬IsDirectiveKey p.1 ∧ (unknownOperator? p).isSome ∧ destination? ps p = none) ∨
      (¬IsDirectiveKey p.1 ∧ unknownOperator? p = none ∧ shareOf ps p ≠ [] ∧
        (Gathered.ofParameters ps).conditions.countP
          (fun cond => destination? ps p = some (cond.field, cond.operator)) = 1)
  /-- The texts of a condition are what the parameters that go to it add. -/
  texts : ∀ cond ∈ (Gathered.ofParameters ps).conditions, cond.texts.Perm
    ((ps.filter fun p => destination? ps p = some (cond.field, cond.operator)).flatMap (shareOf ps))
  /-- A condition contributes to the criteria or is reported, and never both. -/
  either : ∀ cond ∈ (Gathered.ofParameters ps).conditions,
    (∃ a, c.Contributes cond a) ↔ ¬∃ e, c.Reported cond e
  /-- An error about a condition names its field and its operator, unless what was raised for the
  condition names others. -/
  named : ∀ cond ∈ (Gathered.ofParameters ps).conditions, ∀ e, c.Reported cond e →
    ∃ failure, c.Raises cond failure ∧ e.field = some (failure.field?.getD cond.field) ∧
      e.operator = some (failure.operator?.getD cond.operator.text)
  /-- The errors stand in a fixed order, with at most one for the limit and one for the skip. -/
  report : ∃ conditionErrors limitErrors skipErrors orderErrors,
    c.IsReport ps r conditionErrors limitErrors skipErrors orderErrors ∧
      limitErrors.length ≤ 1 ∧ skipErrors.length ≤ 1
  /-- Without errors the strict compilation gives the query. -/
  accepted : r.errors = [] → ∀ source : Source String, source.pairs = ps →
    c.compileStrictly source = .ok (.ok r.query)
  /-- Where there are errors, the strict compilation rejects with one error that takes them together
  and with the same query. -/
  rejected : r.errors ≠ [] → ∀ source : Source String, source.pairs = ps →
    ∃ rejection, c.compileStrictly source = .ok (.error rejection) ∧
      rejection.error.TakesTogether r.errors ∧ rejection.query = r.query

theorem contributes_iff_not_reported {cond : Condition} (htexts : cond.texts ≠ []) :
    (∃ a, c.Contributes cond a) ↔ ¬∃ e, c.Reported cond e := by
  constructor
  · rintro ⟨a, ha⟩ ⟨e, he⟩
    cases (contribution_of_contributes ha).symm.trans (contribution_of_reported he)
  · exact (contributes_or_reported htexts).resolve_right

theorem compileStrictly_of_compile {source : Source String} {r : Compilation}
    (h : c.compile source.pairs = .ok r) : c.compileStrictly source =
      .ok (if r.errors = [] then .ok r.query else .error ⟨.combine r.errors, r.query⟩) := by
  rw [compileStrictly, compileSource, h]
  change Except.ok (if r.errors.isEmpty = true then _ else _) = _
  simp only [List.isEmpty_iff]

/-- Every compilation accounts for its parameters. -/
theorem accounts_of_compile {r : Compilation} (h : c.compile ps = .ok r) : c.Accounts ps r := by
  refine ⟨fun p hp => ?_, fun cond => perm_texts_of_mem_conditions, fun cond hcond => ?_,
    fun cond _ e he => he.exists_raises, ?_, fun herrors source hsource => ?_,
    fun herrors source hsource => ?_⟩
  · rcases directive_or_unknown_or_filed p with h | h | ⟨hkey, hunknown, hfiled⟩
    · exact Or.inl ⟨h.1, h.2.1, destination?_eq_none h.2.2⟩
    · exact Or.inr (Or.inl ⟨h.1, h.2.1, destination?_eq_none h.2.2⟩)
    · exact Or.inr (Or.inr ⟨hkey, hunknown, shareOf_ne_nil hfiled, countP_destination? hp hfiled⟩)
  · exact contributes_iff_not_reported (Gathered.texts_ne_nil hcond)
  · obtain ⟨conditionErrors, limitErrors, skipErrors, orderErrors, hreport⟩ := exists_isReport h
    exact ⟨_, _, _, _, hreport, hreport.limit.length_le_one, hreport.skip.length_le_one⟩
  · subst hsource
    rw [compileStrictly_of_compile h, if_pos herrors]
  · subst hsource
    rw [compileStrictly_of_compile h, if_neg herrors]
    exact ⟨_, rfl, RequestError.takesTogether_combine herrors, rfl⟩

/-- Errors of every kind in one request. -/
theorem accounts_of_compile_ofSettings :
    ∃ r, (ofSettings (some (.extendedJson [])) (.ofList [("d", { required := true })]) {}).compile
        [("__sort", "+,a"), ("__limit", "x"), ("c__exists", "2"), ("a__in", "x,y"), ("b__xx", "1"),
          ("a", "1"), ("b__xx", "2")] = .ok r ∧
      r.query.filter.toValue =
        .object [("a", .object [("$in", .list [.text "x", .text "y"]), ("$eq", .int 1)])] ∧
      r.errors.map (fun e => (e.kind, e.field, e.operator)) =
        [(.unknownOperator, some "b", some "xx"), (.mismatch, some "c", some "exists"),
          (.missingField, some "d", none), (.directiveRefused, some "__limit", none),
          (.sortRefused, none, none)] ∧
      (ofSettings (some (.extendedJson [])) (.ofList [("d", { required := true })]) {}).Accounts
        [("__sort", "+,a"), ("__limit", "x"), ("c__exists", "2"), ("a__in", "x,y"), ("b__xx", "1"),
          ("a", "1"), ("b__xx", "2")] r :=
  ⟨_, rfl, rfl, rfl, accounts_of_compile rfl⟩

end Compiler

end DocQuery
