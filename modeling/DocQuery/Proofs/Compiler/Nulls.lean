import DocQuery.Proofs.Compiler.Stages
import DocQuery.Proofs.Compiler.Contribution
import DocQuery.Proofs.Criteria.Nulls

/-!
# Converters that make nothing of a text

A converter of a declared field may make nothing of a text. The criteria of a compilation keep what
it makes as they keep any other value, with one exception: where a field has several conditions
under the symbol of equality, those that ask for nothing are lost. This does not depend on the order
of the conditions.

## Main results

* `Compiler.isFormed_of_mem_converted`: list operators have lists of values.
* `Compiler.nulls_compile`: what a compilation keeps and what it loses.
-/

namespace DocQuery.Compiler

variable {c : Compiler} {ps : List Parameter} {field : String}

/-- The value of a condition with a list operator is a list. -/
theorem Yields.isFormed {cond : Condition} {v : Value} (h : c.Yields cond v) :
    Addition.IsFormed (cond.operator, v) := by
  intro hlist
  cases h with
  | one _ _ hone _ _ => cases hone.symm.trans hlist
  | list _ _ _ _ => exact ⟨_, rfl⟩

theorem isFormed_of_mem_converted {g : Addition} (hg : g ∈ c.converted ps field) :
    g.IsFormed := by
  rw [← additionsFor_contributions, Criteria.additionsFor, List.mem_map] at hg
  obtain ⟨a, ha, rfl⟩ := hg
  obtain ⟨cond, hcond, hadd⟩ := List.mem_filterMap.1 (List.mem_filter.1 ha).1
  obtain ⟨-, hop, hv⟩ := c.mem_addition? hadd
  have hformed := ((convert_eq_ok_iff (Gathered.texts_ne_nil hcond)).1 hv).isFormed
  rwa [← hop] at hformed

/-- What a compilation keeps of the values that are nothing, and what it loses: of the conditions
under the symbol of equality, if there are several, those that ask for nothing. So nothing is lost
exactly if every condition that asks for nothing under that symbol is the only one there. -/
theorem nulls_compile {r : Compilation} (h : c.compile ps = .ok r) (field : String) :
    (r.query.filter.get? field).elim 0 Entry.nulls +
        Entry.lostNulls ((c.converted ps field).filter fun g => g.1.symbol = .eq) =
      ((c.converted ps field).map fun g => g.2.nulls).sum ∧
    ((r.query.filter.get? field).elim 0 Entry.nulls =
        ((c.converted ps field).map fun g => g.2.nulls).sum ↔
      ∀ g ∈ c.converted ps field, g.1.symbol = .eq → g.2 = .null →
        ((c.converted ps field).filter fun g => g.1.symbol = .eq) = [g]) := by
  obtain ⟨-, -, -, -, -, -, hfilter, -, -⟩ := exists_stages_of_compile h
  have hsum := Entry.nulls_afterAll (c.nodup_converted ps field)
    fun g hg => isFormed_of_mem_converted hg
  rw [← get?_criteriaOf_outcomes, ← hfilter] at hsum
  refine ⟨hsum, ?_⟩
  rw [← hsum, left_eq_add, Entry.lostNulls_eq_zero_iff]
  simp only [List.mem_filter, decide_eq_true_eq, and_imp]

/-- Makes nothing of one text and a number of every other. -/
def nothingOrOne : Converter := fun s => .ok (if s = "x" then .null else .int 1)

/-- Equality with nothing is lost next to equality with a list. -/
theorem nulls_compile_lost :
    ∃ r : Compilation,
      Compiler.compile { declared := .ofList [("a", { converter := some nothingOrOne })] }
        [("a", "x"), ("a__eqa", "y")] = .ok r ∧
      (r.query.filter.get? "a").elim 0 Entry.nulls = 0 ∧
      (r.query.filter.get? "a").elim 0 Entry.nulls +
        Entry.lostNulls ((Compiler.converted
          { declared := .ofList [("a", { converter := some nothingOrOne })] }
          [("a", "x"), ("a__eqa", "y")] "a").filter fun g => g.1.symbol = .eq) =
        ((Compiler.converted { declared := .ofList [("a", { converter := some nothingOrOne })] }
          [("a", "x"), ("a__eqa", "y")] "a").map fun g => g.2.nulls).sum :=
  ⟨_, rfl, by decide +kernel, (nulls_compile rfl "a").1⟩

end DocQuery.Compiler
