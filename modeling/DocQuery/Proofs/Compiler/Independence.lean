import DocQuery.Operator.Subsumption
import DocQuery.Proofs.Compiler.Contribution
import DocQuery.Proofs.Compiler.Report
import DocQuery.Service.Settings

/-!
# Conditions that do not depend on the typing of texts

The converters of a compiler find out the types of texts. Patterns and the test for existence never
come to them: a pattern is made by the dialect from the text as it is written, and the test for
existence takes a truth value. So two compilers that differ only in their converters, for all fields
or for single ones, give such conditions the same values and the same errors.

This holds for every spelling. Joining spellings and giving way to an operator for one value change
neither the family of patterns to which an operator belongs, nor whether it ignores case.

## Main definitions

* `Operator.isTypeless`: the operators in whose texts no types are looked for.
* `Compiler.DiffersInTyping`: compilers that differ in their converters only.
* `Dialect.MakesPattern`, `Dialect.MakesPatterns`: the patterns of a text and of a condition.
* `Compiler.AgreesOnTypeless`: how the compilations of such compilers agree.

## Main results

* `Compiler.converter?_eq_of_family?`: the converter for an operator.
* `Compiler.DiffersInTyping.convert_eq`: the result of a condition whose texts are not typed.
* `Compiler.convert_eq_ok_iff_of_isPattern`: the value of a pattern.
* `Compiler.agreesOnTypeless_compile`: the compilations agree wherever texts are not typed.
-/

namespace DocQuery

/-! ### Operators -/

namespace Operator

/-- Whether no types are looked for in the texts of the operator: it matches patterns or tests for
existence. -/
def isTypeless (op : Operator) : Bool := op.isPattern || op = .present

@[simp] theorem family?_canonical (op : Operator) : op.canonical.family? = op.family? := by
  cases op with
  | pattern family ignoreCase form => cases form <;> rfl
  | _ => rfl

@[simp] theorem ignoresCase_canonical (op : Operator) :
    op.canonical.ignoresCase = op.ignoresCase := by
  cases op with
  | pattern family ignoreCase form => cases form <;> rfl
  | _ => rfl

@[simp] theorem canonical_eq_present_iff {op : Operator} :
    op.canonical = .present ↔ op = .present := by
  cases op with
  | pattern family ignoreCase form => cases form <;> simp [canonical]
  | _ => simp [canonical]

@[simp] theorem family?_forOneValue (op : Operator) : op.forOneValue.family? = op.family? := by
  cases op <;> rfl

@[simp] theorem ignoresCase_forOneValue (op : Operator) :
    op.forOneValue.ignoresCase = op.ignoresCase := by
  cases op <;> rfl

@[simp] theorem forOneValue_eq_present_iff {op : Operator} :
    op.forOneValue = .present ↔ op = .present := by
  cases op <;> simp [forOneValue]

end Operator

/-- Whether an operator asks for the same as another one, apart from how many values it takes: it
matches the same family of patterns, ignores case if the other one does, and tests for existence if
the other one does. -/
structure Operator.AsksLike (op op' : Operator) : Prop where
  /-- The family of patterns is the same. -/
  family?_eq : op.family? = op'.family?
  /-- Case is ignored by both or by none. -/
  ignoresCase_eq : op.ignoresCase = op'.ignoresCase
  /-- Both test for existence or none does. -/
  present_iff : op = .present ↔ op' = .present

theorem Filed.asksLike_settledOperator (l : List (Operator × String)) (op : Operator) :
    (settledOperator l op).AsksLike op := by
  unfold settledOperator
  split <;> exact ⟨by simp, by simp, by simp⟩

/-- A parameter goes to a condition that asks for what the parameter spells. -/
theorem exists_condition_of_filing? {ps : List Parameter} {p : Parameter} (hp : p ∈ ps)
    {field text : String} {op : Operator} (hfiling : filing? p = some (field, op, text)) :
    ∃ cond ∈ (Gathered.ofParameters ps).conditions,
      destination? ps p = some (cond.field, cond.operator) ∧ cond.operator.AsksLike op := by
  have hcount := countP_destination? hp (by rw [hfiling]; rfl)
  obtain ⟨cond, hcond, hdestination⟩ := List.countP_pos_iff.1 (hcount ▸ Nat.one_pos)
  have hdestination := of_decide_eq_true hdestination
  refine ⟨cond, hcond, hdestination, ?_⟩
  rw [destination?, hfiling] at hdestination
  obtain ⟨-, hoperator⟩ := Prod.mk.inj (Option.some.inj hdestination)
  exact hoperator ▸ Filed.asksLike_settledOperator _ op

/-! ### Patterns -/

namespace Dialect

/-- The pattern that a dialect makes of a text for an operator. A regular expression is taken as it
is, and for containment and beginnings the text is escaped. -/
inductive MakesPattern (d : Dialect) (op : Operator) (text : String) : Value → Prop
  | regex {v : Value} (hop : op.family? = some .regex)
      (hv : d.regex text (if op.ignoresCase then "i" else "") = .ok v) : MakesPattern d op text v
  | contains {v : Value} (hop : op.family? = some .contains)
      (hv : d.regex (Pattern.escape text) (if op.ignoresCase then "i" else "") = .ok v) :
      MakesPattern d op text v
  | startsWith {v : Value} (hop : op.family? = some .startsWith)
      (hv : d.regex ("^" ++ Pattern.escape text) (if op.ignoresCase then "i" else "") = .ok v) :
      MakesPattern d op text v

/-- The value that a dialect makes of a condition on patterns: the pattern of its text, or the
patterns of its texts in order. -/
inductive MakesPatterns (d : Dialect) (cond : Condition) : Value → Prop
  | one {text : String} {v : Value} (hlist : cond.operator.takesList = false)
      (htexts : cond.texts = [text]) (hv : d.MakesPattern cond.operator text v) :
      MakesPatterns d cond v
  | list {vs : List Value} (hlist : cond.operator.takesList = true)
      (hvs : List.Forall₂ (d.MakesPattern cond.operator) cond.texts vs) :
      MakesPatterns d cond (.list vs)

end Dialect

namespace Compiler

variable {c c' : Compiler} {cond : Condition} {ps : List Parameter}

/-- The converter for a family of patterns is made by the dialect. An operator under the test for
existence has the converter of truth values, and any other operator that of the field. -/
theorem converter?_eq_of_family? (c : Compiler) (field : String) (op : Operator) :
    c.converter? field op =
      match op.family? with
      | some family =>
        c.dialect.map fun d => d.map fun d => patternConverter d family op.patternOptions
      | none =>
        if op.isUnder .present then c.booleanConverter else .ok (c.fieldConverter field) := by
  rw [Operator.isUnder_present]
  cases op <;> rfl

theorem patternConverter_eq_ok_iff {d : Dialect} {family : PatternFamily} {ignoreCase : Bool}
    {form : PatternForm} {text : String} {v : Value} :
    patternConverter d family (Operator.caseOptions ignoreCase) text = .ok v ↔
      d.MakesPattern (.pattern family ignoreCase form) text v := by
  constructor
  · intro hv
    cases family with
    | regex => exact .regex rfl hv
    | contains => exact .contains rfl hv
    | startsWith => exact .startsWith rfl hv
  · rintro (⟨hop, hv⟩ | ⟨hop, hv⟩ | ⟨hop, hv⟩) <;> obtain rfl := Option.some.inj hop <;> exact hv

/-- For an operator that matches patterns, a dialect gives the converter that makes its patterns. -/
theorem exists_converter?_of_dialect {op : Operator} (hop : op.isPattern = true) (field : String)
    {d : Dialect} (hd : c.dialect = .ok (some d)) :
    ∃ f, c.converter? field op = .ok (some f) ∧
      ∀ text v, f text = .ok v ↔ d.MakesPattern op text v := by
  cases op with
  | pattern family ignoreCase form =>
    refine ⟨_, ?_, fun text v => patternConverter_eq_ok_iff⟩
    rw [converter?, hd]
    rfl
  | _ => cases hop

/-- Such an operator has no converter without a dialect. -/
theorem exists_dialect_of_converter? {op : Operator} (hop : op.isPattern = true) {field : String}
    {f : Converter} (hf : c.converter? field op = .ok (some f)) :
    ∃ d, c.dialect = .ok (some d) := by
  cases op with
  | pattern family ignoreCase form =>
    rw [converter?] at hf
    match hd : c.dialect with
    | .error _ | .ok none =>
      rw [hd] at hf
      cases hf
    | .ok (some d) => exact ⟨d, rfl⟩
  | _ => cases hop

/-- A condition on patterns has a value exactly if its field is admitted and the dialect makes the
pattern of each of its texts; no other converter has a part in it. -/
theorem convert_eq_ok_iff_of_isPattern (htexts : cond.texts ≠ [])
    (hop : cond.operator.isPattern = true) {v : Value} :
    c.convert cond = .ok v ↔ c.accepts cond.field = true ∧
      ∃ d, c.dialect = .ok (some d) ∧ d.MakesPatterns cond v := by
  rw [convert_eq_ok_iff htexts]
  constructor
  · intro h
    obtain ⟨haccepts, -, f, hf, -⟩ := h.exists_converter
    obtain ⟨d, hd⟩ := exists_dialect_of_converter? hop hf
    obtain ⟨g, hg, hmakes⟩ := exists_converter?_of_dialect hop cond.field hd
    refine ⟨haccepts, d, hd, ?_⟩
    cases h with
    | one _ hf hlist htexts hv =>
      obtain rfl := Option.some.inj (Except.ok.inj (hg.symm.trans hf))
      exact .one hlist htexts ((hmakes _ _).1 hv)
    | list _ hf hlist hvs =>
      obtain rfl := Option.some.inj (Except.ok.inj (hg.symm.trans hf))
      exact .list hlist (hvs.imp fun text v => (hmakes text v).1)
  · rintro ⟨haccepts, d, hd, hmade⟩
    obtain ⟨f, hf, hmakes⟩ := exists_converter?_of_dialect hop cond.field hd
    cases hmade with
    | one hlist htexts hv => exact .one haccepts hf hlist htexts ((hmakes _ _).2 hv)
    | list hlist hvs =>
      exact .list haccepts hf hlist (hvs.imp fun text v => (hmakes text v).2)

/-! ### Compilers that differ in typing -/

/-- Whether two compilers differ only in how texts get their types. Both convert by chains that have
the same converter of truth values and the same dialect, they declare the same fields and require
the same of them, and both ask for declarations or none does. The other converters of the chains and
the converters of single fields may be any. -/
structure DiffersInTyping (c c' : Compiler) : Prop where
  /-- The chains have the same converter of truth values and the same dialect. -/
  chains : ∃ chain chain', c.conversion = some (.chain chain) ∧
    c'.conversion = some (.chain chain') ∧
    chain.boolean = chain'.boolean ∧ chain.dialect = chain'.dialect
  /-- The declared fields are the same, and so are those that are required. -/
  required_eq : ∀ field, (c.declared.get? field).map FieldDeclaration.required =
    (c'.declared.get? field).map FieldDeclaration.required
  /-- Both ask for declarations or none does. -/
  validate_eq : c.validate = c'.validate

namespace DiffersInTyping

variable (h : c.DiffersInTyping c')

include h

theorem accepts_eq (field : String) : c.accepts field = c'.accepts field := by
  have hdeclared : field ∈ c.declared.keys ↔ field ∈ c'.declared.keys := by
    rw [← not_iff_not, ← Table.get?_eq_none_iff, ← Table.get?_eq_none_iff,
      ← Option.map_eq_none_iff, h.required_eq, Option.map_eq_none_iff]
  simp only [accepts, h.validate_eq, Table.contains, List.contains_eq_mem, hdeclared]

theorem dialect_eq : c.dialect = c'.dialect := by
  obtain ⟨chain, chain', hconversion, hconversion', -, hdialect⟩ := h.chains
  rw [dialect, dialect, hconversion, hconversion']
  exact congrArg Except.ok hdialect

theorem booleanConverter_eq : c.booleanConverter = c'.booleanConverter := by
  obtain ⟨chain, chain', hconversion, hconversion', hboolean, -⟩ := h.chains
  rw [booleanConverter, booleanConverter, hconversion, hconversion']
  exact congrArg Except.ok hboolean

theorem converter?_eq {op : Operator} (hop : op.isTypeless = true) (field : String) :
    c.converter? field op = c'.converter? field op := by
  rw [converter?_eq_of_family?, converter?_eq_of_family?, h.dialect_eq, h.booleanConverter_eq]
  cases hfamily : op.family? with
  | some family => rfl
  | none =>
    have hpresent : op.isUnder .present = true := by
      simpa [Operator.isTypeless, Operator.isPattern, hfamily] using hop
    rw [if_pos hpresent, if_pos hpresent]

/-- A condition whose texts are not typed has the same value or the same error in both. -/
theorem convert_eq (hop : cond.operator.isTypeless = true) : c.convert cond = c'.convert cond :=
  convert_of_converter? (h.accepts_eq cond.field) (h.converter?_eq hop cond.field)

end DiffersInTyping

/-! ### Compilations -/

/-- The conditions whose texts are not typed, each with its value or its error. -/
def typelessOutcomes (c : Compiler) (ps : List Parameter) :
    List (Condition × Except RequestError Value) :=
  (c.outcomes ps).filter fun o => o.1.operator.isTypeless

/-- How the compilations of compilers that differ in typing agree. -/
structure AgreesOnTypeless (c c' : Compiler) (ps : List Parameter) (r r' : Compilation) :
    Prop where
  /-- A parameter goes to a condition that asks for what the parameter spells. -/
  spelling : ∀ p ∈ ps, ∀ field op text, filing? p = some (field, op, text) →
    ∃ cond ∈ (Gathered.ofParameters ps).conditions,
      destination? ps p = some (cond.field, cond.operator) ∧ cond.operator.AsksLike op
  /-- The criteria are those of the conditions with their values. -/
  filter_eq : r.query.filter = criteriaOf (c.outcomes ps) ∧
    r'.query.filter = criteriaOf (c'.outcomes ps)
  /-- The conditions whose texts are not typed have the same values and the same errors. -/
  outcomes_eq : c.typelessOutcomes ps = c'.typelessOutcomes ps
  /-- Their errors stand in both compilations, in the same order. -/
  errors_sublist : (failures ((c.typelessOutcomes ps).map Prod.snd)).Sublist r.errors ∧
    (failures ((c'.typelessOutcomes ps).map Prod.snd)).Sublist r'.errors
  /-- What is asked of a field is the same if none of its conditions has typed texts. -/
  get?_eq : ∀ field, (∀ cond ∈ (Gathered.ofParameters ps).conditions,
      cond.field = field → cond.operator.isTypeless = true) →
    r.query.filter.get? field = r'.query.filter.get? field
  /-- A condition on patterns has a value exactly if its field is admitted and the common dialect
  makes the patterns of its texts, and this is the value. -/
  pattern : ∀ cond ∈ (Gathered.ofParameters ps).conditions,
    cond.operator.isPattern = true → ∀ v, c.convert cond = .ok v ↔ c.accepts cond.field = true ∧
      ∃ d, c.dialect = .ok (some d) ∧ c'.dialect = .ok (some d) ∧ d.MakesPatterns cond v

theorem failures_typelessOutcomes_sublist {r : Compilation} (hr : c.compile ps = .ok r) :
    (failures ((c.typelessOutcomes ps).map Prod.snd)).Sublist r.errors := by
  obtain ⟨limitErrors, skipErrors, sorted, -, -, -, -, -, herrors⟩ := exists_stages_of_compile hr
  have hconditions : (failures ((c.typelessOutcomes ps).map Prod.snd)).Sublist
      (failures ((c.outcomes ps).map Prod.snd)) :=
    (List.filter_sublist.map Prod.snd).filterMap failure?
  rw [herrors]
  simp only [List.append_assoc]
  exact (hconditions.trans (List.sublist_append_left _ _)).trans (List.sublist_append_right _ _)

namespace DiffersInTyping

variable (h : c.DiffersInTyping c')

include h

theorem typelessOutcomes_eq (ps : List Parameter) :
    c.typelessOutcomes ps = c'.typelessOutcomes ps := by
  simp only [typelessOutcomes, outcomes, List.filter_map]
  refine List.map_congr_left fun cond hcond => ?_
  rw [h.convert_eq (List.mem_filter.1 hcond).2]

theorem converted_eq {field : String}
    (hfield : ∀ cond ∈ (Gathered.ofParameters ps).conditions,
      cond.field = field → cond.operator.isTypeless = true) :
    c.converted ps field = c'.converted ps field := by
  refine List.filterMap_congr fun e he => ?_
  have hcond : (⟨field, e.1, e.2⟩ : Condition) ∈
      (Gathered.ofParameters ps).conditions.filter fun cond => cond.field = field := by
    rw [Gathered.filter_conditions]
    exact List.mem_map.2 ⟨e, he, rfl⟩
  rw [h.convert_eq (hfield _ (List.mem_filter.1 hcond).1 rfl)]

end DiffersInTyping

/-- Compilers that differ only in how texts get their types agree wherever texts are not typed: no
converter of a field or of a chain, the one of truth values apart, ever sees a pattern or a test for
existence, in whatever spelling. -/
theorem agreesOnTypeless_compile (h : c.DiffersInTyping c') {r r' : Compilation}
    (hr : c.compile ps = .ok r) (hr' : c'.compile ps = .ok r') :
    c.AgreesOnTypeless c' ps r r' := by
  obtain ⟨-, -, -, -, -, -, hfilter, -, -⟩ := exists_stages_of_compile hr
  obtain ⟨-, -, -, -, -, -, hfilter', -, -⟩ := exists_stages_of_compile hr'
  refine ⟨fun p hp field op text => exists_condition_of_filing? hp, ⟨hfilter, hfilter'⟩,
    h.typelessOutcomes_eq ps,
    ⟨failures_typelessOutcomes_sublist hr, failures_typelessOutcomes_sublist hr'⟩,
    fun field hfield => ?_, fun cond hcond hop v => ?_⟩
  · rw [hfilter, hfilter', get?_criteriaOf_outcomes, get?_criteriaOf_outcomes,
      h.converted_eq hfield]
  · rw [convert_eq_ok_iff_of_isPattern (Gathered.texts_ne_nil hcond) hop, ← h.dialect_eq]
    simp only [and_self_left]

/-- A field with a converter of its own and two patterns, of which one is spelled as a list of one
text, two tests for existence, and a comparison on which the compilers do not agree. -/
theorem agreesOnTypeless_compile_extendedJson :
    ∃ c c' ps r r',
      c = ofSettings (some (.extendedJson []))
        (.ofList [("a", { converter := some Converter.integer })]) {} ∧
      c' = { conversion := some (.chain { dialect := some (.extendedJson []) })
             declared := .ofList [("a", {})] } ∧
      ps = [("a__ico[]", "x.y"), ("a__swin", "p,q"), ("b__exists", "yes"), ("c__exists", "5"),
        ("a__gt", "5")] ∧
      c.DiffersInTyping c' ∧ c.compile ps = .ok r ∧ c'.compile ps = .ok r' ∧
      r.errors.length = 1 ∧ r'.errors.length = 2 ∧ c.AgreesOnTypeless c' ps r r' := by
  have hdiffers : (ofSettings (some (.extendedJson []))
      (.ofList [("a", { converter := some Converter.integer })]) {}).DiffersInTyping
        { conversion := some (.chain { dialect := some (.extendedJson []) })
          declared := .ofList [("a", {})] } := by
    refine ⟨⟨_, _, rfl, rfl, rfl, rfl⟩, fun field => ?_, rfl⟩
    by_cases hfield : field = "a"
    · subst hfield
      rfl
    · have hnone (declaration : FieldDeclaration) :
          (Table.ofList [("a", declaration)]).get? field = none :=
        Table.get?_put_of_ne _ hfield _
      exact (congrArg _ (hnone _)).trans (congrArg _ (hnone _)).symm
  exact ⟨_, _, _, _, _, rfl, rfl, rfl, hdiffers, rfl, rfl, by decide +kernel, by decide +kernel,
    agreesOnTypeless_compile hdiffers rfl rfl⟩

end Compiler

end DocQuery
