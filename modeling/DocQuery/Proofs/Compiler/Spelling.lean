import DocQuery.Proofs.Compiler.Alike
import DocQuery.Proofs.Parameter.Spelling
import DocQuery.Service.Settings

/-!
# Compilations of a list in its spellings

A list of texts compiles to the same result in each of its spellings, whatever else is asked: joined
by commas in one parameter, as one parameter for each text, or with brackets. This holds for a list
of a single text too, which is cut and gives way to the operator for one value in every spelling.
Other parameters of the field may stand in front and behind, as long as their operators differ from
that of the list.

## Main results

* `Compiler.compile_eq_of_spellsList`: the spellings of a list have the same compilation.
-/

namespace DocQuery

namespace Compiler

variable {before after qs qs' : List Parameter} {field : String} {op : Operator}
  {texts : List String}

theorem unknownErrors_of_givesTexts (h : GivesTexts field op texts qs) :
    unknownErrors (before ++ qs ++ after) = unknownErrors (before ++ after) := by
  simp [unknownErrors, h.filterMap_unknownOperator?_eq_nil]

/-- A list of texts without commas compiles to the same result in each of its spellings. -/
theorem compile_eq_of_spellsList (c : Compiler) (hfield : IsPlainPath field)
    (hop : op.splitsCommas = true) (hne : texts ≠ []) (htexts : ∀ t ∈ texts, ',' ∉ t.toList)
    (hfree : ∀ f ∈ filings (before ++ after), f.1 = field → f.2.1.canonical ≠ op)
    (h : SpellsList field op texts qs) (h' : SpellsList field op texts qs') :
    c.compile (before ++ qs ++ after) = c.compile (before ++ qs' ++ after) := by
  have hgives := h.givesTexts hfield hop hne htexts
  have hgives' := h'.givesTexts hfield hop hne htexts
  refine compile_congr (readAlike_of_givesTexts hfree hgives hgives') ?_
  rw [unknownErrors_of_givesTexts hgives, unknownErrors_of_givesTexts hgives']

/-- A list joined by commas against the same list with brackets, between other conditions of the
field, one of which is a list that gives way. -/
theorem compile_eq_of_spellsList_ofSettings :
    ∃ r, (ofSettings (some (.extendedJson [])) .empty {}).compile
        ([("a.b__exists", "1")] ++ [("a.b__in", "x,y")] ++
          [("a.b__all", "z"), ("c", "1")]) = .ok r ∧
      (ofSettings (some (.extendedJson [])) .empty {}).compile
        ([("a.b__exists", "1")] ++ [("a.b[]", "x"), ("a.b[]", "y")] ++
          [("a.b__all", "z"), ("c", "1")]) = .ok r ∧
      r.query.filter.keys = ["a.b", "c"] := by
  obtain ⟨r, hr, hkeys⟩ : ∃ r, (ofSettings (some (.extendedJson [])) .empty {}).compile
      ([("a.b__exists", "1")] ++ [("a.b__in", "x,y")] ++ [("a.b__all", "z"), ("c", "1")]) = .ok r ∧
        r.query.filter.keys = ["a.b", "c"] := ⟨_, rfl, rfl⟩
  have hfield : IsPlainPath "a.b" := ⟨by decide, by decide, by decide, by decide, by decide⟩
  have hjoined : SpellsList "a.b" (.within false) ["x", "y"] [("a.b__in", "x,y")] := .joined
  have hsuffix : SpellsList "a.b" (.within false) ["x", "y"] [("a.b[]", "x"), ("a.b[]", "y")] :=
    .suffix rfl
  refine ⟨r, hr, hr ▸ ?_, hkeys⟩
  exact compile_eq_of_spellsList _ hfield (by decide) (by decide) (by decide) (by decide) hsuffix
    hjoined

end Compiler

end DocQuery
