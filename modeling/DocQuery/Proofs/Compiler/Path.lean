import DocQuery.Proofs.Compiler.Alike
import DocQuery.Proofs.Parameter.Path
import DocQuery.Service.Settings

/-!
# Compilations of a path in its spellings

A parameter for a nested field compiles to the same result in each of the spellings of the path,
whatever its operator is, known or unknown, and whatever else is asked.

## Main results

* `Compiler.compile_eq_of_spellsKey`: the spellings of a path have the same compilation.
-/

namespace DocQuery

namespace Compiler

/-- A key names the path in which the segments are joined by dots, and its operator, in every
spelling of the path, and a parameter compiles to the same result under each of these keys. -/
theorem compile_eq_of_spellsKey {segments : List String} (hne : segments ≠ [])
    (hsegments : ∀ s ∈ segments, IsPlainPath s) (operator : String) :
    (∀ key, SpellsKey segments operator key →
      Key.ofString key = ⟨".".intercalate segments, operator⟩) ∧
    ∀ (c : Compiler) (before after : List Parameter) (text key key' : String),
      SpellsKey segments operator key → SpellsKey segments operator key' →
        c.compile (before ++ (key, text) :: after) =
          c.compile (before ++ (key', text) :: after) := by
  refine ⟨fun key h => h.ofString_eq hne hsegments, fun c before after text key key' h h' => ?_⟩
  have hkey := h.not_isDirectiveKey hne hsegments
  have hkey' := h'.not_isDirectiveKey hne hsegments
  have hsame : Key.ofString key = Key.ofString key' :=
    (h.ofString_eq hne hsegments).trans (h'.ofString_eq hne hsegments).symm
  refine compile_congr (readAlike_of_ofString_eq hkey hkey' hsame) ?_
  simp only [unknownErrors, List.filterMap_append, List.filterMap_cons,
    unknownOperator?_congr hkey hkey' hsame]

/-- Three segments, the second of which begins with an underscore, with brackets inside one another
against brackets behind one another, between other parameters for the same path. -/
theorem compile_eq_of_spellsKey_ofSettings :
    ["map", "_id", "x_y"] ≠ [] ∧ (∀ s ∈ ["map", "_id", "x_y"], IsPlainPath s) ∧
      ∃ r, (ofSettings (some (.extendedJson [])) .empty {}).compile
          ([("map._id.x_y__exists", "2")] ++ ("map[_id[x_y]]__in", "u,v") ::
            [("map[_id][x_y][]", "w")]) = .ok r ∧
        (ofSettings (some (.extendedJson [])) .empty {}).compile
          ([("map._id.x_y__exists", "2")] ++ ("map[_id][x_y]__in", "u,v") ::
            [("map[_id][x_y][]", "w")]) = .ok r ∧
        r.query.filter.keys = ["map._id.x_y"] := by
  have hne : ["map", "_id", "x_y"] ≠ [] := List.cons_ne_nil _ _
  have hsegments : ∀ s ∈ ["map", "_id", "x_y"], IsPlainPath s := by
    simp only [List.forall_mem_cons, List.not_mem_nil, false_implies, implies_true, and_true]
    exact ⟨⟨by decide, by decide, by decide, by decide, by decide⟩,
      ⟨by decide, by decide, by decide, by decide, by decide⟩,
      ⟨by decide, by decide, by decide, by decide, by decide⟩⟩
  have hnested : SpellsKey ["map", "_id", "x_y"] "in" "map[_id[x_y]]__in" := .mark .nested
  have hflat : SpellsKey ["map", "_id", "x_y"] "in" "map[_id][x_y]__in" := .mark .flat
  obtain ⟨r, hr, hkeys⟩ : ∃ r, (ofSettings (some (.extendedJson [])) .empty {}).compile
      ([("map._id.x_y__exists", "2")] ++ ("map[_id[x_y]]__in", "u,v") ::
        [("map[_id][x_y][]", "w")]) = .ok r ∧ r.query.filter.keys = ["map._id.x_y"] :=
    ⟨_, rfl, rfl⟩
  refine ⟨hne, hsegments, r, hr, hr ▸ ?_, hkeys⟩
  exact (compile_eq_of_spellsKey hne hsegments "in").2 _ _ _ _ _ _ hflat hnested

end Compiler

end DocQuery
