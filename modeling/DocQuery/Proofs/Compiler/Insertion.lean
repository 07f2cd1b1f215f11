import DocQuery.Proofs.Compiler.Alike
import DocQuery.Service.Settings

/-!
# Parameters that are not understood

A directive other than the limit, the skip and the order says nothing to a compilation, and neither
does a parameter whose operator is outside the vocabulary. Wherever such a parameter is inserted,
the query stays the same: no field gets a place by it, no single text becomes one of several, no
required field counts as given, and no list is kept from giving way to its operator for one value.
A directive leaves the errors as they are too. An operator outside the vocabulary is reported once
for each field, so that one error may be new; it stands among those about unknown operators.

## Main definitions

* `NotUnderstood`: parameters of which nothing is understood.
* `Compiler.PassesOver`: how little such a parameter changes.

## Main results

* `readAlike_insert`: lists are read alike with and without the parameter.
* `Compiler.passesOver_compile`: the compilation with the parameter.
-/

namespace DocQuery

/-- Whether nothing is understood of a parameter: it is a directive other than the limit, the skip
and the order, or its operator is outside the vocabulary. -/
inductive NotUnderstood (p : Parameter) : Prop
  | directive (hkey : IsDirectiveKey p.1)
      (hname : ∀ name ∈ [limitName, skipName, sortName], p.1 ≠ directiveKey name) : NotUnderstood p
  | operator (hkey : ¬IsDirectiveKey p.1)
      (hop : Operator.ofText? (Key.ofString p.1).operator = none) : NotUnderstood p

namespace NotUnderstood

variable {p : Parameter}

theorem filing?_eq_none (hp : NotUnderstood p) : filing? p = none := by
  cases hp with
  | directive hkey hname => exact if_pos hkey
  | operator hkey hop => rw [filing?, if_neg hkey, hop, Option.map_none]

theorem ne_directiveKey (hp : NotUnderstood p) :
    ∀ name ∈ [limitName, skipName, sortName], p.1 ≠ directiveKey name := by
  cases hp with
  | directive hkey hname => exact hname
  | operator hkey hop => exact fun name _ h => hkey (h ▸ isDirectiveKey_directiveKey name)

end NotUnderstood

variable {before after : List Parameter} {p : Parameter}

/-- Lists are read alike with and without a parameter of which nothing is understood. -/
theorem readAlike_insert (hp : NotUnderstood p) :
    ReadAlike (before ++ after) (before ++ p :: after) := by
  have hfilings : filings (before ++ p :: after) = filings (before ++ after) := by
    simp [filings, hp.filing?_eq_none]
  refine ⟨?_, fun field => ?_, fun name hname => ?_⟩
  · rw [filedFields, filedFields, hfilings]
  · rw [filedFor, filedFor, hfilings]
  · simp [directiveTexts, hp.ne_directiveKey name hname]

theorem unknownOperator?_eq_none (hkey : IsDirectiveKey p.1) : unknownOperator? p = none :=
  if_neg fun hunknown => hunknown.1 hkey

theorem unknownErrors_insert_directive (hkey : IsDirectiveKey p.1) :
    unknownErrors (before ++ p :: after) = unknownErrors (before ++ after) := by
  simp [unknownErrors, unknownOperator?_eq_none hkey]

variable {u : String × String}

/-- An unknown operator that is met once more is reported once, as before, though perhaps earlier
among the unknown operators. -/
theorem exists_unknownErrors_insert_of_known (hp : unknownOperator? p = some u)
    (hu : ∃ q ∈ before ++ after, unknownOperator? q = some u) :
    ∃ earlier later earlier' later',
      unknownErrors (before ++ after) =
        earlier ++ Gathered.unknownOperator u.1 u.2 :: later ∧
      unknownErrors (before ++ p :: after) =
        earlier' ++ Gathered.unknownOperator u.1 u.2 :: later' ∧
      earlier' ++ later' = earlier ++ later := by
  have hmem : u ∈ before.filterMap unknownOperator? ++ after.filterMap unknownOperator? := by
    rw [← List.filterMap_append]
    exact List.mem_filterMap.2 hu
  obtain ⟨earlier, later, earlier', later', hsplit, hsplit', hrest⟩ :=
    exists_eraseDups_append_cons_of_mem hmem
  rw [unknownErrors, unknownErrors, List.filterMap_append, List.filterMap_append,
    List.filterMap_cons_some hp, hsplit, hsplit', List.map_append, List.map_append]
  refine ⟨_, _, _, _, rfl, rfl, ?_⟩
  rw [← List.map_append, hrest, List.map_append]

/-- A new unknown operator is reported between those before and those after it. -/
theorem exists_unknownErrors_insert_of_new (hp : unknownOperator? p = some u)
    (hu : ∀ q ∈ before ++ after, unknownOperator? q ≠ some u) :
    ∃ earlier later, unknownErrors (before ++ after) = earlier ++ later ∧
      unknownErrors (before ++ p :: after) =
        earlier ++ Gathered.unknownOperator u.1 u.2 :: later := by
  have hnotMem : u ∉ before.filterMap unknownOperator? ++ after.filterMap unknownOperator? := by
    rw [← List.filterMap_append, List.mem_filterMap]
    rintro ⟨q, hq, hqu⟩
    exact hu q hq hqu
  rw [unknownErrors, unknownErrors, List.filterMap_append, List.filterMap_append,
    List.filterMap_cons_some hp, eraseDups_append_cons_of_notMem hnotMem, List.eraseDups_append,
    List.map_append, List.map_append, List.map_cons]
  exact ⟨_, _, rfl, rfl⟩

namespace Compiler

/-- How little an inserted parameter changes in a compilation. -/
structure PassesOver (before after : List Parameter) (p : Parameter) (r r' : Compilation) :
    Prop where
  /-- The query stays the same. -/
  query_eq : r'.query = r.query
  /-- If the parameter is a directive, the errors stay the same. -/
  errors_of_directive : IsDirectiveKey p.1 → r'.errors = r.errors
  /-- If the operator of the parameter is outside the vocabulary, all errors but those about unknown
  operators stay the same. If the same operator of the same field stands elsewhere in the list,
  these stay the same too, but for the place of one; otherwise exactly one is inserted among
  them. -/
  errors_of_unknown : ∀ u, unknownOperator? p = some u → ∃ rest,
    r.errors = unknownErrors (before ++ after) ++ rest ∧
    r'.errors = unknownErrors (before ++ p :: after) ++ rest ∧
    ((∃ q ∈ before ++ after, unknownOperator? q = some u) →
      ∃ earlier later earlier' later',
        unknownErrors (before ++ after) =
          earlier ++ Gathered.unknownOperator u.1 u.2 :: later ∧
        unknownErrors (before ++ p :: after) =
          earlier' ++ Gathered.unknownOperator u.1 u.2 :: later' ∧
        earlier' ++ later' = earlier ++ later) ∧
    ((∀ q ∈ before ++ after, unknownOperator? q ≠ some u) →
      ∃ earlier later, unknownErrors (before ++ after) = earlier ++ later ∧
        unknownErrors (before ++ p :: after) =
          earlier ++ Gathered.unknownOperator u.1 u.2 :: later)

/-- A compilation passes over a parameter of which nothing is understood, wherever it stands. -/
theorem passesOver_compile (c : Compiler) (hp : NotUnderstood p) {r : Compilation}
    (h : c.compile (before ++ after) = .ok r) :
    ∃ r', c.compile (before ++ p :: after) = .ok r' ∧ PassesOver before after p r r' := by
  obtain ⟨r', rest, h', hquery, herrors, herrors'⟩ :=
    exists_compile_of_readAlike (readAlike_insert hp) h
  refine ⟨r', h', hquery, fun hkey => ?_, fun u hu => ⟨rest, herrors, herrors', ?_, ?_⟩⟩
  · rw [herrors, herrors', unknownErrors_insert_directive hkey]
  · exact exists_unknownErrors_insert_of_known hu
  · exact exists_unknownErrors_insert_of_new hu

/-- An unknown operator in front of its field, of which a single text is cut at commas, and behind
an error about another field. -/
theorem passesOver_compile_ofSettings :
    NotUnderstood ("a__xx", "1,2") ∧ ∃ r r',
      (ofSettings (some (.extendedJson [])) .empty {}).compile
          ([("b__zz", "0")] ++ [("b", "1"), ("a__in", "x,y"), ("a__exists", "2")]) = .ok r ∧
      r.query.filter.keys = ["b", "a"] ∧
      (ofSettings (some (.extendedJson [])) .empty {}).compile
          ([("b__zz", "0")] ++ ("a__xx", "1,2") ::
            [("b", "1"), ("a__in", "x,y"), ("a__exists", "2")]) = .ok r' ∧
      PassesOver [("b__zz", "0")] [("b", "1"), ("a__in", "x,y"), ("a__exists", "2")]
        ("a__xx", "1,2") r r' := by
  have hp : NotUnderstood ("a__xx", "1,2") := .operator (by decide) (by decide)
  obtain ⟨r, hr, hkeys⟩ : ∃ r, (ofSettings (some (.extendedJson [])) .empty {}).compile
      ([("b__zz", "0")] ++ [("b", "1"), ("a__in", "x,y"), ("a__exists", "2")]) = .ok r ∧
        r.query.filter.keys = ["b", "a"] := ⟨_, rfl, rfl⟩
  obtain ⟨r', hr', hpasses⟩ := passesOver_compile _ hp hr
  exact ⟨hp, r, r', hr, hkeys, hr', hpasses⟩

end Compiler

end DocQuery
