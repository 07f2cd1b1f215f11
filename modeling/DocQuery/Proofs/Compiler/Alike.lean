import DocQuery.Proofs.Compiler.Report
import DocQuery.Proofs.Parameter.Alike

/-!
# Compilations of parameters that are read alike

Two lists of parameters that are read alike have the same query and the same errors, apart from the
errors about unknown operators, which stand in front. If these agree too, nothing tells the two
compilations apart.

## Main results

* `Compiler.compile_congr`: the compilations of lists that agree in everything.
* `Compiler.exists_compile_of_readAlike`: the compilations of lists that are read alike.
-/

namespace DocQuery

variable {c : Compiler} {ps qs : List Parameter}

namespace ReadAlike

theorem outcomes_eq (h : ReadAlike ps qs) (c : Compiler) : c.outcomes ps = c.outcomes qs := by
  rw [Compiler.outcomes, Compiler.outcomes, h.conditions_eq]

theorem directive_eq (h : ReadAlike ps qs) {name : String} (hname : name ∈ [limitName, skipName]) :
    Compiler.directive ps name = Compiler.directive qs name := by
  rw [Compiler.directive, Compiler.directive, readCount, readCount,
    h.directives name (List.mem_append_left [sortName] hname)]

theorem orderTokens_eq (h : ReadAlike ps qs) : orderTokens ps = orderTokens qs := by
  rw [orderTokens, orderTokens, h.directives sortName (by simp)]

end ReadAlike

namespace Compiler

/-- Lists that are read alike and have the same unknown operators compile to the same result, be it
a query or a fault. -/
theorem compile_congr (h : ReadAlike ps qs) (hunknown : unknownErrors ps = unknownErrors qs) :
    c.compile ps = c.compile qs := by
  unfold compile
  rw [h.outcomes_eq c, h.directive_eq (by simp), h.directive_eq (by simp), h.orderTokens_eq,
    errors_ofParameters, errors_ofParameters, hunknown]

/-- Lists that are read alike have the same query, and the same errors behind those about unknown
operators. -/
theorem exists_compile_of_readAlike (h : ReadAlike ps qs) {r : Compilation}
    (hr : c.compile ps = .ok r) : ∃ r' rest, c.compile qs = .ok r' ∧ r'.query = r.query ∧
      r.errors = unknownErrors ps ++ rest ∧ r'.errors = unknownErrors qs ++ rest := by
  obtain ⟨limitErrors, skipErrors, sorted, hlimit, hskip, hsorted, hfilter, hsort, herrors⟩ :=
    exists_stages_of_compile hr
  rw [h.directive_eq (by simp)] at hlimit hskip
  rw [h.orderTokens_eq] at hsorted
  rw [h.outcomes_eq c] at hfilter herrors
  refine ⟨⟨{ filter := criteriaOf (c.outcomes qs), sort := successes sorted,
             limit := r.query.limit, skip := r.query.skip }, _⟩,
    failures ((c.outcomes qs).map Prod.snd) ++ c.missingFields r.query.filter ++ limitErrors ++
      skipErrors ++ failures sorted, ?_, ?_, ?_, rfl⟩
  · unfold compile
    rw [hlimit, hskip, hsorted, errors_ofParameters, hfilter]
    simp only [List.append_assoc]
    rfl
  · rw [← hfilter, ← hsort]
  · rw [herrors, errors_ofParameters]
    simp only [List.append_assoc]

end Compiler

end DocQuery
