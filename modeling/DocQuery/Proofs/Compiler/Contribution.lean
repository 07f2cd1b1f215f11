import DocQuery.Compiler.Compilation
import DocQuery.Proofs.Compiler.Condition
import DocQuery.Proofs.Criteria.Addition
import DocQuery.Proofs.Parameter.Destination

/-!
# What conditions contribute to the criteria

The criteria of a compilation are built from the conditions that have a value, in order. Since no
field has two conditions with one operator, what is asked of a field can be read off its converted
conditions, provided that converters make neither nothing nor lists.

## Main definitions

* `Compiler.contributions`: the additions that compilation makes.
* `Compiler.converted`: the converted conditions of a field.

## Main results

* `Compiler.criteriaOf_outcomes`: the criteria are built from the contributions.
-/

namespace DocQuery

namespace Compiler

variable (c : Compiler) (ps : List Parameter)

/-! ### Additions -/

/-- The addition that a condition makes, or its error. -/
def contribution (cond : Condition) : Except RequestError (String × Addition) :=
  (c.convert cond).map fun v => (cond.field, cond.operator, v)

/-- The addition that a condition makes if it has a value. -/
def addition? (cond : Condition) : Option (String × Addition) := (c.contribution cond).toOption

/-- The additions that the conditions of a list of parameters make. -/
def contributions : List (String × Addition) :=
  (Gathered.ofParameters ps).conditions.filterMap c.addition?

/-- The conditions of a field that have a value, each with its operator and value. -/
def converted (field : String) : List Addition :=
  (((Gathered.ofParameters ps).fields.get? field).elim [] Table.entries).filterMap fun e =>
    (c.convert ⟨field, e.1, e.2⟩).toOption.map fun v => (e.1, v)

/-- Building criteria from results is making the additions of those that are values. -/
theorem criteriaOf_map (conds : List Condition) :
    criteriaOf (conds.map fun cond => (cond, c.convert cond)) =
      Criteria.addAll (conds.filterMap c.addition?) := by
  rw [criteriaOf, Criteria.addAll, List.foldl_map, List.foldl_filterMap]
  congr 1
  funext d cond
  rw [addition?, contribution]
  cases c.convert cond <;> rfl

theorem criteriaOf_outcomes : criteriaOf (c.outcomes ps) = Criteria.addAll (c.contributions ps) :=
  c.criteriaOf_map _

theorem mem_addition? {cond : Condition} {a : String × Addition} (h : c.addition? cond = some a) :
    a.1 = cond.field ∧ a.2.1 = cond.operator ∧ c.convert cond = .ok a.2.2 := by
  rw [addition?, contribution] at h
  cases hv : c.convert cond with
  | error e =>
    rw [hv] at h
    cases h
  | ok v =>
    rw [hv] at h
    obtain rfl := Option.some.inj h
    exact ⟨rfl, rfl, rfl⟩

/-- No two additions are for the same operator of the same field. -/
theorem nodup_additions {conds : List Condition}
    (h : (conds.map fun cond => (cond.field, cond.operator)).Nodup) :
    ((conds.filterMap c.addition?).map fun a => (a.1, a.2.1)).Nodup := by
  induction conds with
  | nil => exact List.nodup_nil
  | cons cond conds ih =>
    rw [List.map_cons, List.nodup_cons] at h
    rw [List.filterMap_cons]
    split
    · exact ih h.2
    · next a ha =>
      obtain ⟨hfield, hop, -⟩ := c.mem_addition? ha
      rw [List.map_cons, List.nodup_cons, hfield, hop]
      refine ⟨fun hmem => h.1 ?_, ih h.2⟩
      obtain ⟨b, hb, hb'⟩ := List.mem_map.1 hmem
      obtain ⟨cond', hcond', hb⟩ := List.mem_filterMap.1 hb
      obtain ⟨hfield', hop', -⟩ := c.mem_addition? hb
      exact List.mem_map.2 ⟨cond', hcond', by rw [← hfield', ← hop', hb']⟩

/-- The contributions to one field are its converted conditions. -/
theorem additionsFor_contributions (field : String) :
    Criteria.additionsFor (c.contributions ps) field = c.converted ps field := by
  have hfilter : ((c.contributions ps).filter fun a => a.1 = field) =
      ((Gathered.ofParameters ps).conditions.filter fun cond => cond.field = field).filterMap
        c.addition? := by
    rw [contributions, List.filter_filterMap, List.filterMap_filter]
    refine List.filterMap_congr fun cond _ => ?_
    cases ha : c.addition? cond with
    | none => simp
    | some a => simp [Option.filter, (c.mem_addition? ha).1]
  rw [Criteria.additionsFor, hfilter, Gathered.filter_conditions, List.filterMap_map, List.map_filterMap, converted]
  refine List.filterMap_congr fun e _ => ?_
  rw [Function.comp_apply, addition?, contribution]
  cases c.convert ⟨field, e.1, e.2⟩ <;> rfl

theorem get?_criteriaOf_outcomes (field : String) :
    (criteriaOf (c.outcomes ps)).get? field = Entry.afterAll (c.converted ps field) := by
  rw [criteriaOf_outcomes, Criteria.get?_addAll, additionsFor_contributions]

/-- The converted conditions of a field have different operators. -/
theorem nodup_converted (field : String) : ((c.converted ps field).map Prod.fst).Nodup := by
  rw [← additionsFor_contributions]
  exact Criteria.nodup_additionsFor (c.nodup_additions (Gathered.nodup_conditions _)) field

end Compiler

end DocQuery
