import DocQuery.Proofs.Compiler.Accounting
import DocQuery.Proofs.Compiler.Kind

/-!
# Required fields

A required field counts as given if one of its conditions has reached the criteria. It is not
enough that a parameter names the field, that its operator is in the vocabulary, or that one of
several conditions was meant to be converted: for a required field of which no condition has a value
there is exactly one error, and there is none for any other field. These errors stand in the order
of the declarations. So the query of a strict compilation asks something of every required field.

## Main definitions

* `Compiler.AsksNothing`: whether none of the conditions of a field has a value.
* `Compiler.ReportsMissing`: how a compilation reports required fields.

## Main results

* `Compiler.mem_keys_filter_iff`: the fields that the criteria ask about.
* `Compiler.reportsMissing_compile`: the report on required fields of every compilation.
-/

namespace DocQuery

/-- The entries of a table under a key. -/
theorem Table.filter_entries {κ ν : Type} [DecidableEq κ] (t : Table κ ν) (k : κ) :
    (t.entries.filter fun e => e.1 = k) = (t.get? k).elim [] fun v => [(k, v)] := by
  have h := t.filter_flatMap_entries Prod.fst (fun k v => [(k, v)])
    (fun k v e he => by rw [List.mem_singleton.1 he]) k
  rwa [← List.map_eq_flatMap, List.map_id'] at h

namespace Compiler

variable {c : Compiler} {ps : List Parameter} {r : Compilation}

/-- Whether a field is declared as required. -/
def requires (c : Compiler) (field : String) : Bool :=
  (c.declared.get? field).any FieldDeclaration.required

/-- Whether nothing is asked of a field: none of its conditions has a value. -/
def AsksNothing (c : Compiler) (ps : List Parameter) (field : String) : Prop :=
  ∀ cond ∈ (Gathered.ofParameters ps).conditions, cond.field = field → ∀ v, ¬c.Yields cond v

theorem asksNothing_iff {field : String} :
    c.AsksNothing ps field ↔ c.converted ps field = [] := by
  rw [← additionsFor_contributions, Criteria.additionsFor, List.map_eq_nil_iff,
    List.filter_eq_nil_iff]
  constructor
  · intro h a ha
    obtain ⟨cond, hcond, hadd⟩ := List.mem_filterMap.1 ha
    obtain ⟨hfield, -, hv⟩ := c.mem_addition? hadd
    rw [decide_eq_true_eq, hfield]
    intro hsame
    exact h cond hcond hsame _ ((convert_eq_ok_iff (Gathered.texts_ne_nil hcond)).1 hv)
  · intro h cond hcond hfield v hv
    have hadd : c.addition? cond = some (cond.field, cond.operator, v) := by
      rw [addition?, contribution_of_contributes (.value hv)]
      rfl
    exact h _ (List.mem_filterMap.2 ⟨cond, hcond, hadd⟩) (decide_eq_true hfield)

instance (c : Compiler) (ps : List Parameter) (field : String) :
    Decidable (c.AsksNothing ps field) :=
  decidable_of_iff _ asksNothing_iff.symm

/-- The criteria of a compilation ask about the fields of which something is asked. -/
theorem mem_keys_filter_iff (h : c.compile ps = .ok r) {field : String} :
    field ∈ r.query.filter.keys ↔ ¬c.AsksNothing ps field := by
  obtain ⟨-, -, -, -, -, -, hfilter, -, -⟩ := exists_stages_of_compile h
  rw [← not_iff_not, not_not, ← Table.get?_eq_none_iff, hfilter, get?_criteriaOf_outcomes,
    Entry.afterAll_eq_none_iff, asksNothing_iff]

/-- How a compilation reports the required fields of which nothing is asked. -/
structure ReportsMissing (c : Compiler) (ps : List Parameter) (r : Compilation) : Prop where
  /-- The errors about missing fields are those about the required fields of which nothing is asked,
  in the order of the declarations. -/
  errors_eq : ofKind .missingField r.errors = (c.declared.entries.filter
    fun f => f.2.required = true ∧ c.AsksNothing ps f.1).map fun f => missingField f.1
  /-- There is exactly one error for each of these fields, and none for any other. -/
  count_eq : ∀ field, (r.errors.countP fun e => e.kind = .missingField ∧ e.field = some field) =
    if c.requires field = true ∧ c.AsksNothing ps field then 1 else 0
  /-- The query of a strict compilation asks something of every required field. -/
  strict : ∀ source : Source String, source.pairs = ps → ∀ q,
    c.compileStrictly source = .ok (.ok q) → ∀ field, c.requires field = true →
      ∃ entry, q.filter.get? field = some entry

/-- The errors about missing fields are those about the required fields of which nothing is
asked. -/
theorem ofKind_missingField (hc : c.NeverRaises .missingField) (h : c.compile ps = .ok r) :
    ofKind .missingField r.errors = (c.declared.entries.filter
      fun f => f.2.required = true ∧ c.AsksNothing ps f.1).map fun f => missingField f.1 := by
  obtain ⟨_, _, _, _, hreport⟩ := exists_isReport h
  have hmissing : ofKind .missingField r.errors = c.missingErrors r.query.filter := by
    simpa [hreport.ofKind_conditionErrors hc (by decide)] using hreport.ofKind_errors .missingField
  rw [hmissing, missingErrors]
  congr 1
  refine List.filter_congr fun f _ => ?_
  rw [decide_eq_decide, mem_keys_filter_iff h, not_not]

theorem countP_missingField (hc : c.NeverRaises .missingField) (h : c.compile ps = .ok r)
    (field : String) :
    (r.errors.countP fun e => e.kind = .missingField ∧ e.field = some field) =
      if c.requires field = true ∧ c.AsksNothing ps field then 1 else 0 := by
  have hsplit :
      (c.declared.entries.filter fun f => f.2.required = true ∧ c.AsksNothing ps f.1).countP
        (fun f => (missingField f.1).field = some field) =
      (c.declared.entries.filter fun f => f.1 = field).countP
        fun f => f.2.required = true ∧ c.AsksNothing ps field := by
    rw [List.countP_filter, List.countP_filter]
    refine List.countP_congr fun f _ => ?_
    simp only [missingField, Option.some.injEq, Bool.and_eq_true, decide_eq_true_eq]
    constructor
    · rintro ⟨rfl, hf⟩
      exact ⟨hf, rfl⟩
    · rintro ⟨hf, rfl⟩
      exact ⟨rfl, hf⟩
  rw [countP_kind_and, ofKind_missingField hc h, List.countP_map]
  refine hsplit.trans ?_
  rw [Table.filter_entries, requires]
  cases c.declared.get? field with
  | none => simp
  | some d => simp [List.countP_cons]

/-- Every compilation reports the required fields of which nothing is asked, and no others. -/
theorem reportsMissing_compile (hc : c.NeverRaises .missingField) (h : c.compile ps = .ok r) :
    c.ReportsMissing ps r := by
  refine ⟨ofKind_missingField hc h, countP_missingField hc h, ?_⟩
  rintro source rfl q hq field hrequired
  rw [compileStrictly_of_compile h] at hq
  have herrors : r.errors = [] := by
    by_contra hne
    rw [if_neg hne] at hq
    cases hq
  rw [if_pos herrors] at hq
  obtain rfl := Except.ok.inj (Except.ok.inj hq)
  have hcount := countP_missingField hc h field
  rw [herrors, List.countP_nil] at hcount
  have hasked : ¬c.AsksNothing source.pairs field := by
    intro hnothing
    rw [if_pos ⟨hrequired, hnothing⟩] at hcount
    cases hcount
  rw [← mem_keys_filter_iff h, ← not_not (a := field ∈ _), ← Table.get?_eq_none_iff] at hasked
  exact Option.ne_none_iff_exists'.1 hasked

/-- A required field with a condition that has a value next to one that has none, one whose
conditions all have none and one without conditions, around a field that is not required. -/
theorem reportsMissing_compile_ofSettings :
    let declared : Table String FieldDeclaration := .ofList [("a", { required := true }),
      ("b", { required := true }), ("c", {}), ("d", { required := true })]
    (ofSettings (some (.extendedJson [])) declared {}).NeverRaises .missingField ∧
      ∃ r, (ofSettings (some (.extendedJson [])) declared {}).compile [("b__exists", "2"),
          ("a__exists", "3"), ("a", "yes"), ("b__between", "1"), ("c__exists", "4")] = .ok r ∧
        r.query.filter.keys = ["a"] ∧
        r.errors.map (fun e => (e.kind, e.field)) = [(.unknownOperator, some "b"),
          (.mismatch, some "b"), (.mismatch, some "a"), (.mismatch, some "c"),
          (.missingField, some "b"), (.missingField, some "d")] ∧
        (ofSettings (some (.extendedJson [])) declared {}).ReportsMissing [("b__exists", "2"),
          ("a__exists", "3"), ("a", "yes"), ("b__between", "1"), ("c__exists", "4")] r := by
  intro declared
  have hc : (ofSettings (some (.extendedJson [])) declared {}).NeverRaises .missingField := by
    refine neverRaises_ofSettings (by decide) (fun field d f hd hf => ?_)
      (Dialect.neverRaises_extendedJson []) _
    have hentry : (field, d) ∈ [("a", ({ required := true } : FieldDeclaration)),
        ("b", { required := true }), ("c", {}), ("d", { required := true })] :=
      Table.get?_eq_some_iff.1 hd
    simp only [List.mem_cons, List.not_mem_nil, or_false] at hentry
    rcases hentry with hentry | hentry | hentry | hentry <;> cases hentry <;> cases hf
  exact ⟨hc, _, rfl, rfl, rfl, reportsMissing_compile hc rfl⟩

end Compiler

end DocQuery
