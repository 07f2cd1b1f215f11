import DocQuery.Proofs.Compiler.Shape
import DocQuery.Proofs.Converter.Timestamp

/-!
# Compiled criteria and the texts of instants

A standard compiler makes an instant of every text in which an instant is written. So the criteria
of a compilation never hold such a text, and a text in them cannot be taken for an instant.

## Main definitions

* `Entry.IsTimeless`, `Criteria.IsTimeless`: what holds no text of an instant.

## Main results

* `Compiler.IsStandard.isTimeless_compile`: no compilation holds the text of an instant.
-/

namespace DocQuery

/-- Whether no value that is held for a field is the text of an instant. -/
def Entry.IsTimeless (e : Entry) : Prop :=
  ∀ s v, e.get? s = some v → ∀ w ∈ v.items, w.IsTimeless

/-- Whether no value that is held for any field is the text of an instant. -/
def Criteria.IsTimeless (c : Criteria) : Prop := ∀ field e, c.get? field = some e → e.IsTimeless

theorem Criteria.isTimeless_of_held {c : Criteria}
    (h : ∀ field s, ∀ w ∈ c.held field s, w.IsTimeless) : c.IsTimeless := by
  intro field e he s v hv w hw
  refine h field s w ?_
  rw [held, he, Option.bind_some, hv]
  exact hw

namespace Value

variable {v : Value}

theorem IsRegex.isTimeless (h : v.IsRegex) : v.IsTimeless := by
  obtain ⟨pattern, options⟩ := h
  exact fun _ => nofun

theorem isTimeless_bool (b : Bool) : (Value.bool b).IsTimeless := fun _ => nofun

end Value

namespace Compiler.IsStandard

variable {c : Compiler} (hc : c.IsStandard)

include hc

/-- No operator makes the text of an instant. -/
theorem isTimeless_of_converter? {field text : String} {op : Operator} {f : Converter} {v : Value}
    (hf : c.converter? field op = .ok (some f)) (hv : f text = .ok v) : v.IsTimeless := by
  have hreads := hc.reads_of_converter? hf hv
  obtain ⟨allowed, allowText, hconversion⟩ := hc.conversion
  cases op with
  | pattern => exact hreads.isTimeless
  | present =>
    obtain ⟨b, rfl⟩ := hreads
    exact Value.isTimeless_bool b
  | _ =>
    have hown : (c.declared.get? field).bind FieldDeclaration.converter = none :=
      Option.bind_eq_none_iff.2 (hc.declared field)
    replace hf := Except.ok.inj hf
    rw [fieldConverter, hown, hconversion] at hf
    obtain rfl := Option.some.inj hf
    exact Chain.isTimeless_of_standard hv

/-- No condition has the text of an instant as its value or in its list. -/
theorem isTimeless_of_yields {cond : Condition} {v : Value} (h : c.Yields cond v) :
    ∀ w ∈ v.items, w.IsTimeless := by
  cases h with
  | one _ hf _ _ hv =>
    have helement := Operator.isElement_of_reads (hc.reads_of_converter? hf hv)
    rw [helement.items_eq, List.forall_mem_singleton]
    exact hc.isTimeless_of_converter? hf hv
  | @list f vs _ hf _ hvs =>
    intro w hw
    obtain ⟨i, hi, rfl⟩ := List.getElem_of_mem hw
    exact hc.isTimeless_of_converter? hf (hvs.get (hvs.length_eq ▸ hi) hi)

/-- The criteria of a compilation hold no text of an instant. -/
theorem isTimeless_compile {ps : List Parameter} {r : Compilation} (h : c.compile ps = .ok r) :
    r.query.filter.IsTimeless := by
  obtain ⟨-, -, -, -, -, -, hfilter, -, -⟩ := exists_stages_of_compile h
  refine Criteria.isTimeless_of_held fun field s w hw => ?_
  have hnodup : ((c.contributions ps).map fun a => (a.1, a.2.1)).Nodup :=
    c.nodup_additions (Gathered.nodup_conditions _)
  rw [hfilter, criteriaOf_outcomes, Criteria.held_addAll hnodup] at hw
  obtain ⟨a, ha, hw⟩ := List.mem_flatMap.1 hw
  obtain ⟨cond, hcond, hadd⟩ := List.mem_filterMap.1 (List.mem_filter.1 ha).1
  obtain ⟨-, -, hv⟩ := c.mem_addition? hadd
  exact hc.isTimeless_of_yields ((convert_eq_ok_iff (Gathered.texts_ne_nil hcond)).1 hv) w hw

end Compiler.IsStandard

end DocQuery
