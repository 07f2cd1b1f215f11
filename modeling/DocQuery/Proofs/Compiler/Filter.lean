import DocQuery.Proofs.Compiler.Contribution
import DocQuery.Proofs.Compiler.Plain
import DocQuery.Proofs.Compiler.Stages

/-!
# The criteria of a compilation

The criteria of a compilation hold every condition that has a value, once, and nothing else. A field
is asked about if it has such a condition. It has a scalar if that is a single condition of
equality. Otherwise the symbols of its conditions stand in order of first occurrence, and under each
symbol stands the bare value of a condition that has the symbol for itself and takes no list, or the
list of the values of all conditions with that symbol. Every addition on the way leaves what is held
already in its place, so that no value replaces another one.

## Main definitions

* `Addition.values`, `standing`: the values of a condition, and what stands under a symbol.
* `Compiler.IsFilterOf`: what the criteria of a list of parameters hold.

## Main results

* `Compiler.held_criteriaOf_append`: an addition is appended to what is held.
* `Compiler.isFilterOf_compile`: the criteria of a compilation hold what they should.
-/

namespace DocQuery

/-- The values of a converted condition: the elements of the list for a list operator, and the value
itself for any other. -/
def Addition.values (g : Addition) : List Value := if g.1.takesList then g.2.items else [g.2]

/-- What stands under a symbol to which the converted conditions `gs` contribute. -/
def standing (gs : List Addition) : Option Value :=
  match gs with
  | [] => none
  | [g] => some (if g.1.takesList then .list g.values else g.2)
  | gs => some (.list (gs.flatMap Addition.values))

/-- Where bare values are plain, the values that are joined are those that stand there. -/
theorem Entry.joint_eq_standing {s : Symbol} {gs : List Addition}
    (hs : 2 ≤ gs.length → s.collects = true) (hgs : ∀ g ∈ gs, g.2.items = g.values) :
    joint s gs = standing gs := by
  match gs with
  | [] => rfl
  | [g] => rw [joint, standing, ← hgs g List.mem_cons_self]
  | g :: g' :: gs =>
    rw [joint_of_two_le (by simp), if_pos (hs (by simp)), List.flatMap_congr hgs]
    rfl

namespace Compiler

/-- The values that a result adds under a symbol of a field. -/
def addedUnder (o : Condition × Except RequestError Value) (field : String) (s : Symbol) :
    List Value :=
  match o.2 with
  | .ok v =>
    if o.1.field = field ∧ o.1.operator.symbol = s then Addition.values (o.1.operator, v) else []
  | .error _ => []

/-- What the criteria of a list of parameters hold. -/
structure IsFilterOf (c : Compiler) (ps : List Parameter) (filter : Criteria) : Prop where
  /-- A field is asked about exactly if one of its conditions has a value. -/
  mem_keys_iff : ∀ field, field ∈ filter.keys ↔ c.converted ps field ≠ []
  /-- A field has a scalar exactly if a condition of equality is the only one that has a value. -/
  get?_eq_scalar_iff : ∀ field v,
    filter.get? field = some (.scalar v) ↔ c.converted ps field = [(.eq, v)]
  /-- The symbols are those of the converted conditions in order of first occurrence. -/
  keys_eq : ∀ field t, filter.get? field = some (.conditions t) →
    t.keys = ((c.converted ps field).map fun g => g.1.symbol).eraseDups
  /-- Under a symbol stands what the converted conditions with that symbol contribute. -/
  get?_eq_standing : ∀ field t, filter.get? field = some (.conditions t) →
    ∀ s, t.get? s = standing ((c.converted ps field).filter fun g => g.1.symbol = s)
  /-- The criteria are built by adding the results one after the other. -/
  eq_criteriaOf : filter = criteriaOf (c.outcomes ps)
  /-- Every addition on the way is appended to what is held. -/
  held_append : ∀ before o after, c.outcomes ps = before ++ o :: after → ∀ field s,
    (criteriaOf (before ++ [o])).held field s =
      (criteriaOf before).held field s ++ addedUnder o field s

variable {c : Compiler} {ps : List Parameter}

/-- The value of a condition has the items that count as its values. -/
theorem IsPlain.items_eq_values (hc : c.IsPlain) {cond : Condition} (htexts : cond.texts ≠ [])
    {v : Value} (h : c.convert cond = .ok v) :
    v.items = Addition.values (cond.operator, v) := by
  rw [Addition.values]
  split
  · rfl
  · next hlist =>
    rw [Bool.not_eq_true] at hlist
    exact (hc.of_yields ((convert_eq_ok_iff htexts).1 h) hlist).items_eq

theorem IsPlain.items_of_mem_converted (hc : c.IsPlain) {field : String} {g : Addition}
    (hg : g ∈ c.converted ps field) : g.2.items = g.values := by
  rw [← additionsFor_contributions, Criteria.additionsFor, List.mem_map] at hg
  obtain ⟨a, ha, rfl⟩ := hg
  obtain ⟨cond, hcond, hadd⟩ := List.mem_filterMap.1 (List.mem_filter.1 ha).1
  obtain ⟨-, hop, hv⟩ := c.mem_addition? hadd
  have h := hc.items_eq_values (Gathered.texts_ne_nil hcond) hv
  rwa [← hop] at h

/-- An addition is appended to what is held already. -/
theorem held_criteriaOf_append (hc : c.IsPlain)
    {before after : List (Condition × Except RequestError Value)}
    {o : Condition × Except RequestError Value} (h : c.outcomes ps = before ++ o :: after)
    (field : String) (s : Symbol) :
    (criteriaOf (before ++ [o])).held field s =
      (criteriaOf before).held field s ++ addedUnder o field s := by
  obtain ⟨conds, rest, hconds, rfl, hrest⟩ := List.map_eq_append_iff.1 h
  obtain ⟨cond, conds', rfl, rfl, -⟩ := List.map_eq_cons_iff.1 hrest
  have hmem : cond ∈ (Gathered.ofParameters ps).conditions := by simp [hconds]
  have hnodup := (Gathered.ofParameters ps).nodup_conditions
  rw [hconds, List.append_cons, List.map_append, List.nodup_append] at hnodup
  have hlong := c.nodup_additions hnodup.1
  have hshort := hnodup.1
  rw [List.map_append, List.nodup_append] at hshort
  have hmap : (conds.map fun cond => (cond, c.convert cond)) ++ [(cond, c.convert cond)] =
      (conds ++ [cond]).map fun cond => (cond, c.convert cond) := by simp
  rw [hmap, criteriaOf_map, criteriaOf_map, Criteria.held_addAll hlong,
    Criteria.held_addAll (c.nodup_additions hshort.1), List.filterMap_append, List.filter_append,
    List.flatMap_append]
  congr 1
  -- the last addition alone
  cases hv : c.convert cond with
  | error e => simp [addition?, contribution, addedUnder, hv, Except.map, Except.toOption]
  | ok v =>
    have hitems := hc.items_eq_values (Gathered.texts_ne_nil hmem) hv
    by_cases hat : cond.field = field ∧ cond.operator.symbol = s <;>
      simp [addition?, contribution, addedUnder, hv, Except.map, Except.toOption, hat, hitems]

/-- The criteria of a compilation hold every condition that has a value, and nothing else. -/
theorem isFilterOf_compile (hc : c.IsPlain) {r : Compilation} (h : c.compile ps = .ok r) :
    c.IsFilterOf ps r.query.filter := by
  obtain ⟨-, -, -, -, -, -, hfilter, -, -⟩ := exists_stages_of_compile h
  rw [hfilter]
  have hget := c.get?_criteriaOf_outcomes ps
  refine ⟨fun field => ?_, fun field v => ?_, fun field t ht => ?_, fun field t ht s => ?_, rfl,
    fun _ _ _ h field s => held_criteriaOf_append hc h field s⟩
  · rw [← not_iff_not, not_not, ← Table.get?_eq_none_iff, hget, Entry.afterAll_eq_none_iff]
  · rw [hget]
    exact Entry.afterAll_eq_scalar_iff (c.nodup_converted ps field)
  · rw [hget] at ht
    rw [Entry.eq_conditionsOf_of_afterAll (c.nodup_converted ps field) ht]
    exact Entry.keys_conditionsOf _
  · rw [hget] at ht
    rw [Entry.eq_conditionsOf_of_afterAll (c.nodup_converted ps field) ht,
      Entry.get?_conditionsOf]
    refine Entry.joint_eq_standing (Entry.collects_of_two_le (c.nodup_converted ps field)) ?_
    exact fun g hg => hc.items_of_mem_converted (List.mem_filter.1 hg).1

/-- A field with an equality, a list and a pattern that share symbols, and two further fields, of
which one has a condition that fails. -/
theorem isFilterOf_compile_ofSettings :
    (ofSettings (some (.extendedJson [])) .empty {}).IsPlain ∧
      ∃ r, (ofSettings (some (.extendedJson [])) .empty {}).compile
          [("a", "1"), ("a__in", "x,y"), ("a__sw", "z"), ("b", "yes"), ("c__exists", "2")] = .ok r ∧
        r.query.filter.keys = ["a", "b"] ∧
        (ofSettings (some (.extendedJson [])) .empty {}).IsFilterOf
          [("a", "1"), ("a__in", "x,y"), ("a__sw", "z"), ("b", "yes"), ("c__exists", "2")]
          r.query.filter := by
  have hdialect : ∀ d, some (Dialect.extendedJson []) = some d → d.IsPlain := by
    intro d hd
    exact Option.some.inj hd ▸ Dialect.isPlain_extendedJson []
  have hplain : (ofSettings (some (.extendedJson [])) .empty {}).IsPlain := by
    refine isPlain_ofSettings hdialect (fun field d f hd => ?_) {}
    cases hd
  exact ⟨hplain, _, rfl, rfl, isFilterOf_compile hplain rfl⟩

end Compiler

end DocQuery
