import DocQuery.Proofs.Compiler.Kind

/-!
# Fields that are not declared

A compiler that asks for declarations keeps to them wherever a request names a field. A condition on
a field that is not declared adds nothing to the criteria, whatever its operator, and is reported by
one error, which says so; a sort token that names such a field is refused by one error, and the
factory of the dialect is not asked. No condition on a declared field is reported in this way, and
every sort token that names a declared field is left to the factory.

That the factory is not asked about a field means that it makes no difference what it does there:
with any other factory that agrees on the declared fields the compilation is the same.

## Main definitions

* `Compiler.withSortElement`: a compiler with another factory for the elements of the order.
* `Compiler.KeepsToDeclared`: how a compilation keeps to the declared fields.

## Main results

* `Compiler.compile_withSortElement`: the factory is asked about the fields that are admitted only.
* `Compiler.keepsToDeclared_compile`: every compilation by a compiler that asks for declarations
  keeps to the declared fields.
-/

namespace DocQuery

/-! ### Another factory -/

/-- The dialect with another factory for the elements of an order. -/
def Dialect.withSortElement (d : Dialect)
    (factory : String → Direction → Except Failure Value) : Dialect :=
  { d with sortElement := factory }

/-- The conversion with another factory for the elements of an order in its dialect. -/
def Conversion.withSortElement (factory : String → Direction → Except Failure Value) :
    Conversion → Conversion
  | .chain c => .chain { c with dialect := c.dialect.map fun d => d.withSortElement factory }
  | .single f => .single f

namespace Compiler

/-- The compiler with another factory for the elements of the order. -/
def withSortElement (c : Compiler) (factory : String → Direction → Except Failure Value) :
    Compiler :=
  { c with conversion := c.conversion.map (Conversion.withSortElement factory) }

variable {c : Compiler} {factory : String → Direction → Except Failure Value}

theorem convert_withSortElement (conversion : Conversion) :
    (conversion.withSortElement factory).convert = conversion.convert := by
  cases conversion with
  | single f => rfl
  | chain chain =>
    obtain ⟨boolean, dialect, rest⟩ := chain
    cases dialect <;> rfl

theorem dialect_withSortElement : (c.withSortElement factory).dialect =
    c.dialect.map fun d => d.map fun d => d.withSortElement factory := by
  unfold dialect withSortElement
  cases c.conversion with
  | none => rfl
  | some conversion => cases conversion <;> rfl

theorem booleanConverter_withSortElement :
    (c.withSortElement factory).booleanConverter = c.booleanConverter := by
  unfold booleanConverter withSortElement
  cases c.conversion with
  | none => rfl
  | some conversion => cases conversion <;> rfl

theorem fieldConverter_withSortElement (field : String) :
    (c.withSortElement factory).fieldConverter field = c.fieldConverter field := by
  unfold fieldConverter withSortElement
  rw [Option.map_map]
  simp only [Function.comp_def, convert_withSortElement]

/-- No converter depends on the factory for the elements of the order. -/
theorem converter?_withSortElement (field : String) (op : Operator) :
    (c.withSortElement factory).converter? field op = c.converter? field op := by
  unfold converter?
  split
  · rw [dialect_withSortElement]
    cases c.dialect with
    | error f => rfl
    | ok d => cases d <;> rfl
  · exact booleanConverter_withSortElement
  · rw [fieldConverter_withSortElement]

theorem outcomes_withSortElement (ps : List Parameter) :
    (c.withSortElement factory).outcomes ps = c.outcomes ps := by
  have hresolve (field : String) (op : Operator) :
      (c.withSortElement factory).resolve field op = c.resolve field op := by
    rw [resolve, resolve, converter?_withSortElement]
    rfl
  unfold outcomes convert
  simp only [hresolve]

theorem sortElement_congr {key : SortKey} {factory' : String → Direction → Except Failure Value}
    (h : factory key.field key.direction = factory' key.field key.direction) :
    sortElement factory key = sortElement factory' key := by
  rw [sortElement_eq_mapError, sortElement_eq_mapError, h]

theorem sortToken_withSortElement {d : Dialect} {token : String}
    (h : ∀ key, SortKey.ofToken token = .ok key → c.accepts key.field = true →
      factory key.field key.direction = d.sortElement key.field key.direction) :
    (c.withSortElement factory).sortToken (d.withSortElement factory) token =
      c.sortToken d token := by
  unfold sortToken
  cases hkey : SortKey.ofToken token with
  | error e => rfl
  | ok key =>
    by_cases haccepts : c.accepts key.field = true
    · have haccepts' : (c.withSortElement factory).accepts key.field = true := haccepts
      simp only [bind, Except.bind, haccepts, haccepts', if_true]
      exact sortElement_congr (h key hkey haccepts)
    · have haccepts' : ¬(c.withSortElement factory).accepts key.field = true := haccepts
      simp only [bind, Except.bind, if_neg haccepts, if_neg haccepts']

/-- The factory is asked about the fields that are admitted only: with another one that agrees there
the compilation is the same. -/
theorem compile_withSortElement {d : Dialect} (hd : c.dialect = .ok (some d)) {ps : List Parameter}
    (h : ∀ token ∈ orderTokens ps, ∀ key, SortKey.ofToken token = .ok key →
      c.accepts key.field = true →
      factory key.field key.direction = d.sortElement key.field key.direction) :
    (c.withSortElement factory).compile ps = c.compile ps := by
  have hsorted : (c.withSortElement factory).sortOutcomes (orderTokens ps) =
      c.sortOutcomes (orderTokens ps) := by
    rw [sortOutcomes, sortOutcomes, dialect_withSortElement, hd]
    simp only [Except.map, Option.map_some]
    rw [List.map_congr_left fun token htoken => sortToken_withSortElement (h token htoken)]
  unfold compile
  rw [outcomes_withSortElement, hsorted]
  rfl

/-! ### Declared fields only -/

variable {d : Dialect} {ps : List Parameter} {r : Compilation} {cond : Condition}

/-- How a compilation keeps to the declared fields. -/
structure KeepsToDeclared (c : Compiler) (ps : List Parameter) (r : Compilation) : Prop where
  /-- Only declared fields are asked about. -/
  mem_of_mem_filter : ∀ field ∈ r.query.filter.keys, field ∈ c.declared.keys
  /-- A condition on a field that is not declared contributes nothing, and the one error about it
  says so. -/
  undeclared : ∀ cond ∈ (Gathered.ofParameters ps).conditions, cond.field ∉ c.declared.keys →
    (∀ a, ¬c.Contributes cond a) ∧ ∀ e, c.Reported cond e ↔ e = undeclaredField cond
  /-- No error about a condition on a declared field says so. -/
  declared : ∀ cond ∈ (Gathered.ofParameters ps).conditions, cond.field ∈ c.declared.keys →
    ∀ e, c.Reported cond e → e.kind ≠ .undeclaredField
  /-- The errors that say so are those about the conditions on fields that are not declared, in
  order. -/
  errors_eq : ofKind .undeclaredField r.errors = ((Gathered.ofParameters ps).conditions.filter
    fun cond => cond.field ∉ c.declared.keys).map undeclaredField
  /-- There is exactly one such error for the field and the operator of each of these conditions. -/
  count_eq_one : ∀ cond ∈ (Gathered.ofParameters ps).conditions, cond.field ∉ c.declared.keys →
    (r.errors.countP fun e => e.kind = .undeclaredField ∧ e.field = some cond.field ∧
      e.operator = some cond.operator.text) = 1
  /-- A sort token that names a field that is not declared adds nothing to the order, and the one
  error about it says that the field is refused. -/
  undeclaredToken : ∀ d token key, SortKey.ofToken token = .ok key →
    key.field ∉ c.declared.keys → (∀ v, ¬c.Orders d token v) ∧
      ∀ e, c.Disorders d token e ↔ e = { kind := .sortRefused, field := some key.field }
  /-- What becomes of a sort token that names a declared field is what the factory does for this
  field and the direction. -/
  declaredToken : ∀ d token key, SortKey.ofToken token = .ok key →
    key.field ∈ c.declared.keys →
      (∀ v, c.Orders d token v ↔ d.sortElement key.field key.direction = .ok v) ∧
      ∀ e, c.Disorders d token e ↔ ∃ failure,
        d.sortElement key.field key.direction = .error failure ∧ e = failure.inOrder key
  /-- The sort tokens are divided into the elements of the order and one error each for the others,
  behind the errors of the parameters that are no sort parameters. -/
  order : ∀ d, c.dialect = .ok (some d) → ∃ r₀ errors,
    c.compile (withoutDirective ps sortName) = .ok r₀ ∧ r.errors = r₀.errors ++ errors ∧
      Divides (c.Orders d) (c.Disorders d) (orderTokens ps) r.query.sort errors
  /-- Every element of the order is made for a declared field. -/
  mem_of_mem_sort : ∀ v ∈ r.query.sort, ∃ d, c.dialect = .ok (some d) ∧
    ∃ token ∈ orderTokens ps, ∃ key, SortKey.ofToken token = .ok key ∧
      key.field ∈ c.declared.keys ∧ d.sortElement key.field key.direction = .ok v
  /-- The factory is not asked about any other field: it makes no difference what it does there. -/
  unasked : ∀ d, c.dialect = .ok (some d) → ∀ factory : String → Direction → Except Failure Value,
    (∀ token ∈ orderTokens ps, ∀ key, SortKey.ofToken token = .ok key →
      key.field ∈ c.declared.keys →
      factory key.field key.direction = d.sortElement key.field key.direction) →
    (c.withSortElement factory).compile ps = .ok r

section Validate

variable (hvalidate : c.validate = true)

include hvalidate

theorem accepts_iff {field : String} : c.accepts field = true ↔ field ∈ c.declared.keys := by
  simp [accepts, hvalidate, Table.contains]

theorem accepts_eq_false {field : String} (h : field ∉ c.declared.keys) :
    c.accepts field = false := by
  rwa [← accepts_iff hvalidate, Bool.not_eq_true] at h

theorem Contributes.mem_declared {a : String × Addition} (h : c.Contributes cond a) :
    cond.field ∈ c.declared.keys := by
  obtain ⟨h⟩ := h
  cases h with
  | one haccepts => exact (accepts_iff hvalidate).1 haccepts
  | list haccepts => exact (accepts_iff hvalidate).1 haccepts

/-- The one error about a condition on a field that is not declared. -/
theorem reported_iff_of_undeclared (h : cond.field ∉ c.declared.keys) {e : RequestError} :
    c.Reported cond e ↔ e = undeclaredField cond := by
  constructor
  · intro he
    rcases he.eq_or_kind with ⟨-, rfl⟩ | ⟨haccepts, -⟩
    · rfl
    · exact absurd ((accepts_iff hvalidate).1 haccepts) h
  · rintro rfl
    exact .failure (.refused (accepts_eq_false hvalidate h))

theorem orders_iff_of_declared {token : String} {key : SortKey}
    (hkey : SortKey.ofToken token = .ok key) (h : key.field ∈ c.declared.keys) {v : Value} :
    c.Orders d token v ↔ d.sortElement key.field key.direction = .ok v := by
  constructor
  · rintro ⟨hkey', -, hv⟩
    obtain rfl := Except.ok.inj (hkey.symm.trans hkey')
    exact hv
  · exact .element hkey ((accepts_iff hvalidate).2 h)

theorem disorders_iff_of_declared {token : String} {key : SortKey}
    (hkey : SortKey.ofToken token = .ok key) (h : key.field ∈ c.declared.keys)
    {e : RequestError} : c.Disorders d token e ↔ ∃ failure,
      d.sortElement key.field key.direction = .error failure ∧ e = failure.inOrder key := by
  have haccepts := (accepts_iff hvalidate).2 h
  constructor
  · intro he
    cases he with
    | noField hkey' => cases hkey.symm.trans hkey'
    | refused hkey' haccepts' =>
      obtain rfl := Except.ok.inj (hkey.symm.trans hkey')
      cases haccepts.symm.trans haccepts'
    | factory hkey' haccepts' hfailure =>
      obtain rfl := Except.ok.inj (hkey.symm.trans hkey')
      exact ⟨_, hfailure, rfl⟩
  · rintro ⟨failure, hfailure, rfl⟩
    exact .factory hkey haccepts hfailure

theorem disorders_iff_of_undeclared {token : String} {key : SortKey}
    (hkey : SortKey.ofToken token = .ok key) (h : key.field ∉ c.declared.keys)
    {e : RequestError} :
    c.Disorders d token e ↔ e = { kind := .sortRefused, field := some key.field } := by
  have haccepts := accepts_eq_false hvalidate h
  constructor
  · intro he
    cases he with
    | noField hkey' => cases hkey.symm.trans hkey'
    | refused hkey' haccepts' =>
      obtain rfl := Except.ok.inj (hkey.symm.trans hkey')
      rfl
    | factory hkey' haccepts' hfailure =>
      obtain rfl := Except.ok.inj (hkey.symm.trans hkey')
      cases haccepts.symm.trans haccepts'
  · rintro rfl
    exact .refused hkey haccepts

/-- The errors about fields that are not declared, one for each condition on such a field. -/
theorem ofKind_undeclaredField (hc : c.NeverRaises .undeclaredField) (h : c.compile ps = .ok r) :
    ofKind .undeclaredField r.errors = ((Gathered.ofParameters ps).conditions.filter
      fun cond => cond.field ∉ c.declared.keys).map undeclaredField := by
  obtain ⟨conditionErrors, _, _, _, hreport⟩ := exists_isReport h
  obtain ⟨additions, -, hdivides⟩ := hreport.conditions
  have hconditions : ofKind .undeclaredField r.errors =
      ofKind .undeclaredField conditionErrors := by
    simpa using hreport.ofKind_errors .undeclaredField
  rw [hconditions]
  refine hdivides.filter_errors (fun cond _ a ha => ?_) fun cond _ e he => ?_
  · exact decide_eq_false (not_not_intro (ha.mem_declared hvalidate))
  · by_cases hmem : cond.field ∈ c.declared.keys
    · rw [if_neg (by simpa using hmem)]
      refine decide_eq_false (hc.kind_ne (by decide) ?_ he)
      exact (accepts_iff hvalidate).2 hmem
    · rw [if_pos (decide_eq_true hmem), (reported_iff_of_undeclared hvalidate hmem).1 he]
      exact ⟨rfl, rfl⟩

/-- There is one error for each condition on a field that is not declared. -/
theorem countP_undeclaredField (hc : c.NeverRaises .undeclaredField) (h : c.compile ps = .ok r)
    (hcond : cond ∈ (Gathered.ofParameters ps).conditions) (hmem : cond.field ∉ c.declared.keys) :
    (r.errors.countP fun e => e.kind = .undeclaredField ∧ e.field = some cond.field ∧
      e.operator = some cond.operator.text) = 1 := by
  -- no two conditions agree in field and operator, so that one of them is this one
  have hone := List.count_eq_one_of_mem (Gathered.nodup_conditions (Gathered.ofParameters ps))
    (List.mem_map.2 ⟨cond, hcond, rfl⟩)
  rw [List.count, List.countP_map] at hone
  rw [countP_kind_and, ofKind_undeclaredField hvalidate hc h, List.countP_map, List.countP_filter,
    ← hone]
  refine List.countP_congr fun cond' _ => ?_
  simp only [Function.comp_apply, undeclaredField, Option.some.injEq, Operator.text_inj,
    Bool.and_eq_true, decide_eq_true_eq, beq_iff_eq, Prod.mk.injEq]
  exact and_iff_left_of_imp fun hsame => hsame.1 ▸ hmem

end Validate

/-- A compilation by a compiler that asks for declarations keeps to the declared fields. -/
theorem keepsToDeclared_compile (hvalidate : c.validate = true)
    (hc : c.NeverRaises .undeclaredField) (h : c.compile ps = .ok r) :
    c.KeepsToDeclared ps r := by
  obtain ⟨conditionErrors, _, _, _, hreport⟩ := exists_isReport h
  obtain ⟨additions, hfilter, hdivides⟩ := hreport.conditions
  obtain ⟨r₀, errors, h₀, -, herrors, horders⟩ := exists_compile_withoutOrder h
  refine ⟨fun field hfield => ?_, fun cond _ hmem => ⟨fun a ha => ?_, fun e => ?_⟩,
    fun cond _ hmem e he => ?_, ofKind_undeclaredField hvalidate hc h,
    fun cond => countP_undeclaredField hvalidate hc h,
    fun d token key hkey hmem => ⟨fun v hv => ?_, fun e => ?_⟩,
    fun d token key hkey hmem => ⟨fun v => ?_, fun e => ?_⟩,
    fun d hd => ⟨r₀, errors, h₀, herrors, horders.divides hd⟩, fun v hv => ?_,
    fun d hd factory hfactory => ?_⟩
  · rw [hfilter.keys_eq, List.mem_eraseDups, List.mem_map] at hfield
    obtain ⟨a, ha, rfl⟩ := hfield
    obtain ⟨cond, -, hcontributes⟩ := hdivides.exists_of_mem_values ha
    obtain ⟨hyields⟩ := hcontributes
    exact Contributes.mem_declared hvalidate (.value hyields)
  · exact hmem (ha.mem_declared hvalidate)
  · exact reported_iff_of_undeclared hvalidate hmem
  · exact hc.kind_ne (by decide) ((accepts_iff hvalidate).2 hmem) he
  · obtain ⟨hkey', haccepts, -⟩ := hv
    obtain rfl := Except.ok.inj (hkey.symm.trans hkey')
    exact hmem ((accepts_iff hvalidate).1 haccepts)
  · exact disorders_iff_of_undeclared hvalidate hkey hmem
  · exact orders_iff_of_declared hvalidate hkey hmem
  · exact disorders_iff_of_declared hvalidate hkey hmem
  · obtain ⟨d, hd, token, htoken, hkey, haccepts, hv⟩ := horders.exists_of_mem hv
    exact ⟨d, hd, token, htoken, _, hkey, (accepts_iff hvalidate).1 haccepts, hv⟩
  · rw [compile_withSortElement hd, h]
    intro token htoken key hkey haccepts
    exact hfactory token htoken key hkey ((accepts_iff hvalidate).1 haccepts)

/-- A pattern, a test for existence and a list on fields that are not declared, under a nested path
and next to a declared one, and sort tokens with either kind of field. -/
theorem keepsToDeclared_compile_ofSettings :
    let c := ofSettings (some (.extendedJson ["a"])) (.ofList [("a", {}), ("b", {})])
      { validateFields := true }
    c.validate = true ∧ c.NeverRaises .undeclaredField ∧
      ∃ r, c.compile [("a[x]__sw", "1"), ("__sort", "-a[x],+-a,b"), ("a__in", "1,2"),
          ("x__exists", "2"), ("x[]", "1"), ("b__exists", "3")] = .ok r ∧
        r.query.filter.keys = ["a"] ∧ r.query.sort = [.list [.text "a", .int (-1)]] ∧
        r.errors.map RequestError.kind = [.undeclaredField, .undeclaredField, .undeclaredField,
          .mismatch, .sortRefused, .sortRefused] ∧
        c.KeepsToDeclared [("a[x]__sw", "1"), ("__sort", "-a[x],+-a,b"), ("a__in", "1,2"),
          ("x__exists", "2"), ("x[]", "1"), ("b__exists", "3")] r := by
  intro c
  have hc : c.NeverRaises .undeclaredField := by
    refine neverRaises_ofSettings (by decide) (fun field d f hd hf => ?_)
      (Dialect.neverRaises_extendedJson ["a"]) _
    have hentry : (field, d) ∈ [("a", ({} : FieldDeclaration)), ("b", {})] :=
      Table.get?_eq_some_iff.1 hd
    rcases List.mem_pair.1 hentry with hentry | hentry <;> cases hentry <;> cases hf
  exact ⟨rfl, hc, _, rfl, rfl, rfl, rfl, keepsToDeclared_compile rfl hc rfl⟩

end Compiler

end DocQuery
