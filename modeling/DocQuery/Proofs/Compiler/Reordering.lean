import DocQuery.Proofs.Compiler.Fault
import DocQuery.Proofs.Criteria.Agreement
import DocQuery.Proofs.Parameter.Reordering

/-!
# Criteria of parameters in another order

The criteria of a compilation do not depend on the order of the parameters, apart from the order of
the fields, of the symbols and of the elements of lists, if no field has rivals for equality. This
holds whatever the converters make of the texts: a condition has a value in either order or in none,
and the value is the same, or the same list in another order.

## Main results

* `Compiler.exists_yields_of_perm`: the value of a condition whose texts stand in another order.
* `Compiler.reordered_converted`: the converted conditions of a field.
* `Compiler.agree_compile_of_perm`: the criteria of a compilation.
-/

namespace DocQuery

namespace Compiler

variable {c : Compiler} {ps qs : List Parameter} {field : String}

/-- A condition whose texts stand in another order has the same value up to order. -/
theorem exists_yields_of_perm {op : Operator} {texts texts' : List String} {v : Value}
    (h : texts.Perm texts') (hv : c.Yields ⟨field, op, texts⟩ v) :
    ∃ v', c.Yields ⟨field, op, texts'⟩ v' ∧ Addition.SameUpToOrder (op, v) (op, v') := by
  cases hv with
  | one haccepts hf hlist htexts hv =>
    dsimp only at htexts
    subst htexts
    obtain rfl := List.singleton_perm.1 h
    exact ⟨v, .one haccepts hf hlist rfl hv, rfl, .refl v, fun _ => rfl⟩
  | list haccepts hf hlist hvs =>
    obtain ⟨vs', hvs', hperm⟩ := List.perm_comp_forall₂ h.symm hvs
    exact ⟨.list vs', .list haccepts hf hlist hvs', rfl, .list hperm.symm,
      fun hsingle => by simp [hlist] at hsingle⟩

theorem exists_convert_of_perm {op : Operator} {texts texts' : List String} {v : Value}
    (h : texts.Perm texts') (hv : c.convert ⟨field, op, texts⟩ = .ok v) :
    ∃ v', c.convert ⟨field, op, texts'⟩ = .ok v' ∧ Addition.SameUpToOrder (op, v) (op, v') := by
  by_cases htexts : texts = []
  · subst htexts
    obtain rfl := List.nil_perm.1 h
    exact ⟨v, hv, rfl, .refl v, fun _ => rfl⟩
  · obtain ⟨v', hv', hsame⟩ := exists_yields_of_perm h ((convert_eq_ok_iff htexts).1 hv)
    exact ⟨v', convert_of_yields hv', hsame⟩

/-- The addition that a group of a field makes if it has a value. -/
def additionOf? (c : Compiler) (field : String) (g : Group) : Option Addition :=
  (c.convert ⟨field, g.1, g.2⟩).toOption.map fun v => (g.1, v)

/-- A group in another order makes the same addition up to order, or it makes none either. -/
theorem rel_additionOf? {g g' : Group} (h : g.SameUpToOrder g') :
    Option.Rel Addition.SameUpToOrder (c.additionOf? field g) (c.additionOf? field g') := by
  obtain ⟨op, texts⟩ := g
  obtain ⟨op', texts'⟩ := g'
  obtain ⟨rfl, hperm⟩ := h
  cases hv : c.convert ⟨field, op, texts⟩ with
  | ok v =>
    obtain ⟨v', hv', hsame⟩ := exists_convert_of_perm hperm hv
    simp only [additionOf?, hv, hv']
    exact .some hsame
  | error e =>
    cases hv' : c.convert ⟨field, op, texts'⟩ with
    | ok v' =>
      obtain ⟨w, hw, -⟩ := exists_convert_of_perm hperm.symm hv'
      cases hv.symm.trans hw
    | error e' =>
      simp only [additionOf?, hv, hv']
      exact .none

/-- Without rivals the converted conditions of a field do not depend on the order. -/
theorem reordered_converted (h : ps.Perm qs) (hps : HasNoRivals ps) (field : String) :
    Reordered Addition.SameUpToOrder (c.converted ps field) (c.converted qs field) := by
  have hsettled := Filed.reordered_settle (perm_filedFor h field) (hps.not_hasRivals field)
  rw [← entries_get?_fields_ofParameters, ← entries_get?_fields_ofParameters] at hsettled
  exact hsettled.filterMap fun _ _ => rel_additionOf?

/-- Without rivals the criteria of a compilation do not depend on the order of the parameters. -/
theorem agree_compile_of_perm (c : Compiler) (h : ps.Perm qs) (hps : ∀ p ∈ ps, ¬IsDirectiveKey p.1)
    (hrivals : HasNoRivals ps) : ∃ r r', c.compile ps = .ok r ∧ c.compile qs = .ok r' ∧
      r.query.filter.Agree Value.SameUpToOrder r'.query.filter := by
  obtain ⟨r, hr⟩ := c.exists_compile_of_not_directive hps
  have hqs : ∀ p ∈ qs, ¬IsDirectiveKey p.1 := fun p hp => hps p (h.mem_iff.2 hp)
  obtain ⟨r', hr'⟩ := c.exists_compile_of_not_directive hqs
  obtain ⟨-, -, -, -, -, -, hfilter, -, -⟩ := exists_stages_of_compile hr
  obtain ⟨-, -, -, -, -, -, hfilter', -, -⟩ := exists_stages_of_compile hr'
  refine ⟨r, r', hr, hr', fun field => ?_⟩
  rw [hfilter, hfilter', get?_criteriaOf_outcomes, get?_criteriaOf_outcomes]
  exact Entry.agree_afterAll (reordered_converted h hrivals field) (c.nodup_converted ps field)
    (c.nodup_converted qs field)

/-- A scalar that moves under its symbol or finds the symbol there, and two lists of one text beside
an equality. -/
theorem agree_compile_of_perm_ofSettings :
    (∀ p ∈ [("a", "1"), ("a__in", "x,y"), ("b__in", "u"), ("b__all", "w"), ("b", "2")],
        ¬IsDirectiveKey p.1) ∧
      HasNoRivals [("a", "1"), ("a__in", "x,y"), ("b__in", "u"), ("b__all", "w"), ("b", "2")] ∧
      ∃ r r', (ofSettings (some (.extendedJson [])) .empty {}).compile
          [("a", "1"), ("a__in", "x,y"), ("b__in", "u"), ("b__all", "w"), ("b", "2")] = .ok r ∧
        (ofSettings (some (.extendedJson [])) .empty {}).compile
          [("b", "2"), ("b__all", "w"), ("a__in", "x,y"), ("b__in", "u"), ("a", "1")] = .ok r' ∧
        r.query.filter.Agree Value.SameUpToOrder r'.query.filter := by
  have hdirective : ∀ p ∈ [("a", "1"), ("a__in", "x,y"), ("b__in", "u"), ("b__all", "w"),
      ("b", "2")], ¬IsDirectiveKey p.1 := by decide
  have hrivals : HasNoRivals [("a", "1"), ("a__in", "x,y"), ("b__in", "u"), ("b__all", "w"),
      ("b", "2")] := by decide
  exact ⟨hdirective, hrivals, agree_compile_of_perm _ (by decide) hdirective hrivals⟩

end Compiler

end DocQuery
