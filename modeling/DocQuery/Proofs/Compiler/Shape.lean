import DocQuery.Proofs.Compiler.Contribution
import DocQuery.Proofs.Compiler.Stages
import DocQuery.Proofs.Criteria.PlainDocument
import DocQuery.Service.Settings

/-!
# The shape of compiled criteria

A compiler that converts by the standard chain with the dialect of extended JSON makes criteria of
the standard shape from every list of parameters. The texts of a request become leaves and patterns
of regular expressions; they never become a key, a mapping or a list of their own, and the criteria
can be told from the plain document that is sent to the database.

## Main definitions

* `Compiler.IsStandard`: compilers that convert by the standard chain only.
* `Criteria.IsSafe`: what the shape of criteria means for their plain document.

## Main results

* `Compiler.IsStandard.reads_of_converter?`: what an operator makes from one text.
* `Compiler.IsStandard.isShaped_of_yields`: the value of a condition has the shape of its operator.
* `Compiler.isSafe_compile`: the criteria of every compilation are safe.
-/

namespace DocQuery

/-- Whether a compiler converts by the standard chain with the dialect of extended JSON, and no
declared field has a converter of its own. -/
structure Compiler.IsStandard (c : Compiler) : Prop where
  conversion : ∃ allowed allowText,
    c.conversion = some (.chain (.standard (some (.extendedJson allowed)) allowText))
  declared : ∀ field d, c.declared.get? field = some d → d.converter = none

namespace Compiler

/-- The compiler that settings ask for is standard if no declared field has a converter. -/
theorem isStandard_ofSettings (allowed : List String) {declared : Table String FieldDeclaration}
    (hdeclared : ∀ field d, declared.get? field = some d → d.converter = none) (s : Settings) :
    (ofSettings (some (.extendedJson allowed)) declared s).IsStandard :=
  ⟨⟨allowed, s.textFallback, rfl⟩, hdeclared⟩

namespace IsStandard

variable {c : Compiler} (hc : c.IsStandard)

include hc

/-- Comparisons have leaves for values. -/
theorem isLeaf_of_fieldConverter {field text : String} {f : Converter} {v : Value}
    (hf : c.fieldConverter field = some f) (hv : f text = .ok v) : v.IsLeaf := by
  obtain ⟨allowed, allowText, hconversion⟩ := hc.conversion
  have hown : (c.declared.get? field).bind FieldDeclaration.converter = none :=
    Option.bind_eq_none_iff.2 (hc.declared field)
  rw [fieldConverter, hown, hconversion] at hf
  obtain rfl := Option.some.inj hf
  exact Chain.isLeaf_of_standard hv

/-- What the converter for an operator makes from one text. -/
theorem reads_of_converter? {field text : String} {op : Operator} {f : Converter} {v : Value}
    (hf : c.converter? field op = .ok (some f)) (hv : f text = .ok v) : op.Reads v := by
  obtain ⟨allowed, allowText, hconversion⟩ := hc.conversion
  cases op with
  | pattern family ignoreCase form =>
    rw [converter?, dialect, hconversion] at hf
    obtain rfl := Option.some.inj (Except.ok.inj hf)
    exact Dialect.isRegex_of_extendedJson hv
  | present =>
    rw [converter?, booleanConverter, hconversion] at hf
    obtain rfl := Option.some.inj (Except.ok.inj hf)
    exact Converter.exists_of_boolean hv
  | _ => exact hc.isLeaf_of_fieldConverter (Except.ok.inj hf) hv

/-- The value of a condition has the shape that its operator asks for. -/
theorem isShaped_of_yields {cond : Condition} (htexts : cond.texts ≠ []) {v : Value}
    (h : c.Yields cond v) : Addition.IsShaped (cond.operator, v) := by
  cases h with
  | one _ hf hlist _ hv =>
    rw [Addition.IsShaped, if_neg (by simp [hlist])]
    exact hc.reads_of_converter? hf hv
  | @list f vs _ hf hlist hvs =>
    rw [Addition.IsShaped, if_pos hlist]
    have hne : vs ≠ [] := by
      rintro rfl
      exact htexts (List.forall₂_nil_right_iff.1 hvs)
    have hreads : List.Forall₂ (fun v _ => cond.operator.Reads v ∧ True) vs cond.texts :=
      hvs.flip.imp fun v text hv => ⟨hc.reads_of_converter? hf hv, trivial⟩
    exact ⟨hne, ((List.forall₂_and_left _ _).1 hreads).1⟩

/-- Every addition that a compilation makes has the shape of its operator. -/
theorem isShaped_of_mem_contributions {ps : List Parameter} {a : String × Addition}
    (ha : a ∈ c.contributions ps) : a.2.IsShaped := by
  obtain ⟨cond, hcond, hadd⟩ := List.mem_filterMap.1 ha
  obtain ⟨-, hop, hv⟩ := c.mem_addition? hadd
  have htexts := Gathered.texts_ne_nil hcond
  have h := hc.isShaped_of_yields htexts ((convert_eq_ok_iff htexts).1 hv)
  rwa [← hop] at h

end IsStandard

end Compiler

/-- What the shape of criteria means for their plain document. -/
structure Criteria.IsSafe (c : Criteria) : Prop where
  /-- What is asked of every field is a leaf, or there are conditions with the values that may stand
  under their symbols. -/
  shaped : c.IsShaped
  /-- No key below a field comes from a request. -/
  keys_subset : ∀ field e, c.get? field = some e → e.toValue.keys ⊆ documentKeys
  /-- No list below a field stands in a list. -/
  nesting_le : ∀ field e, c.get? field = some e → e.toValue.nesting ≤ 1
  /-- No other criteria of the shape have the same plain document. -/
  eq_of_toValue_eq : ∀ d : Criteria, d.IsShaped → d.toValue = c.toValue → d = c
  /-- The order of the entries of the plain document does not matter for this. -/
  agree_of_sameDocument : ∀ d : Criteria, d.IsShaped → d.SameDocument c → d.Agree Eq c

/-- Criteria of the shape are safe. -/
theorem Criteria.IsShaped.isSafe {c : Criteria} (hc : c.IsShaped) : c.IsSafe where
  shaped := hc
  keys_subset field e he := (hc field e he).keys_subset
  nesting_le field e he := (hc field e he).nesting_le
  eq_of_toValue_eq _ hd := hd.eq_of_toValue_eq hc
  agree_of_sameDocument _ hd := hd.agree_of_sameDocument hc

namespace Compiler

/-- The criteria of every compilation by a standard compiler are safe. -/
theorem isSafe_compile {c : Compiler} (hc : c.IsStandard) {ps : List Parameter} {r : Compilation}
    (h : c.compile ps = .ok r) : r.query.filter.IsSafe := by
  obtain ⟨-, -, -, -, -, -, hfilter, -, -⟩ := exists_stages_of_compile h
  refine Criteria.IsShaped.isSafe ?_
  rw [hfilter, criteriaOf_outcomes]
  exact Criteria.isShaped_addAll fun a ha => hc.isShaped_of_mem_contributions ha

/-- A list of object identifiers and patterns under one symbol, an equality that moves under its
symbol, and a text that is spelled like a symbol. -/
theorem isSafe_compile_ofSettings :
    (ofSettings (some (.extendedJson [])) .empty {}).IsStandard ∧
      ∃ r, (ofSettings (some (.extendedJson [])) .empty {}).compile
          [("a__in", "0123456789abcdef01234567,$gt"), ("a__swin", "x,y"), ("b", "$ne"),
            ("b__all", "[1],2"), ("c", "1"), ("c__re", "z"), ("c__exists", "yes")] = .ok r ∧
        r.query.filter.IsSafe := by
  have hstandard : (ofSettings (some (.extendedJson [])) .empty {}).IsStandard := by
    refine isStandard_ofSettings [] (fun field d hd => ?_) {}
    cases hd
  exact ⟨hstandard, Exists.imp (fun r hr => ⟨hr, isSafe_compile hstandard hr⟩) ⟨_, rfl⟩⟩

end Compiler

end DocQuery
