import DocQuery.Proofs.Criteria.Addition

/-!
# What criteria consist of

Criteria that are built from additions for different operators can be read off the additions. The
fields stand in order of first occurrence. A field has a scalar if equality alone was asked of it;
otherwise the symbols of its additions stand in order of first occurrence, and under each symbol
stands the value of an addition that has the symbol for itself and takes no list, or the list of all
that the values of the additions with that symbol stand for. So every addition is found again at its
field and symbol, and nothing else is.

## Main definitions

* `Value.StandsFor`: the elements that a value stands for in a list.
* `Entry.IsJoint`: what additions leave under their common symbol.
* `Criteria.ConsistsOf`: the criteria that consist of a list of additions.

## Main results

* `Criteria.consistsOf_addAll`: adding values one after the other gives criteria that consist of the
  additions.
-/

namespace DocQuery

/-- The elements that a value stands for in a list: none for nothing, its own elements for a list,
and itself for any other value. -/
inductive Value.StandsFor : Value → List Value → Prop
  | nothing : StandsFor .null []
  | elements (vs : List Value) : StandsFor (.list vs) vs
  | itself {v : Value} (hnull : v ≠ .null) (hlist : ∀ vs, v ≠ .list vs) : StandsFor v [v]

/-- The items of a value are the elements that it stands for. -/
theorem Value.standsFor_items (v : Value) : v.StandsFor v.items := by
  cases v with
  | null => exact .nothing
  | list vs => exact .elements vs
  | bool | int | float | instant | text | object =>
    exact .itself nofun fun _ => nofun

namespace Entry

/-- What additions leave under their common symbol: nothing if there are none, the value itself if
there is one and its operator takes no list, and otherwise the list of all elements that the values
stand for. -/
inductive IsJoint : List Addition → Option Value → Prop
  | nothing : IsJoint [] none
  | alone {op : Operator} {v : Value} (hop : op.takesList = false) : IsJoint [(op, v)] (some v)
  | joined {gs : List Addition} {elements : List (List Value)} (hgs : gs ≠ [])
      (hlist : ∀ g, gs = [g] → g.1.takesList = true)
      (helements : List.Forall₂ (fun g vs => g.2.StandsFor vs) gs elements) :
      IsJoint gs (some (.list elements.flatten))

theorem IsJoint.list_items {gs : List Addition} (hgs : gs ≠ [])
    (hlist : ∀ g, gs = [g] → g.1.takesList = true) :
    IsJoint gs (some (.list (gs.flatMap fun g => g.2.items))) := by
  rw [List.flatMap_def]
  refine .joined hgs hlist (List.forall₂_map_right_iff.2 ?_)
  exact List.forall₂_same.2 fun g _ => g.2.standsFor_items

/-- Additions that meet under a symbol which collects values are joined there. -/
theorem isJoint_joint {s : Symbol} {gs : List Addition}
    (hs : 2 ≤ gs.length → s.collects = true) : IsJoint gs (joint s gs) := by
  match gs with
  | [] => exact .nothing
  | [(op, v)] =>
    rw [joint]
    split
    · next hop =>
      simpa using IsJoint.list_items (List.cons_ne_nil (op, v) []) (by simpa using hop)
    · next hop => exact .alone (by simpa using hop)
  | g :: g' :: gs =>
    rw [joint_of_two_le (by simp), if_pos (hs (by simp))]
    exact .list_items (List.cons_ne_nil g _) (by simp)

end Entry

namespace Criteria

/-- The criteria that consist of a list of additions. -/
structure ConsistsOf (c : Criteria) (as : List (String × Addition)) : Prop where
  /-- The fields stand in order of their first addition. -/
  keys_eq : c.keys = (as.map Prod.fst).eraseDups
  /-- A field has a scalar exactly if its only addition is one of equality. -/
  get?_eq_scalar_iff : ∀ field v,
    c.get? field = some (.scalar v) ↔ additionsFor as field = [(.eq, v)]
  /-- The symbols of a field stand in order of their first addition. -/
  symbols_eq : ∀ field t, c.get? field = some (.conditions t) →
    t.keys = ((additionsFor as field).map fun g => g.1.symbol).eraseDups
  /-- Under a symbol stands what the additions for it leave there. -/
  isJoint_get? : ∀ field t, c.get? field = some (.conditions t) →
    ∀ s, Entry.IsJoint ((additionsFor as field).filter fun g => g.1.symbol = s) (t.get? s)

/-- Criteria to which values are added for different operators consist of the additions. -/
theorem consistsOf_addAll {as : List (String × Addition)}
    (has : (as.map fun a => (a.1, a.2.1)).Nodup) : (addAll as).ConsistsOf as := by
  have hfor (field : String) := nodup_additionsFor has field
  refine ⟨keys_addAll as, fun field v => ?_, fun field t ht => ?_, fun field t ht s => ?_⟩
  · rw [get?_addAll]
    exact Entry.afterAll_eq_scalar_iff (hfor field)
  · rw [get?_addAll] at ht
    rw [Entry.eq_conditionsOf_of_afterAll (hfor field) ht, Entry.keys_conditionsOf]
  · rw [get?_addAll] at ht
    rw [Entry.eq_conditionsOf_of_afterAll (hfor field) ht, Entry.get?_conditionsOf]
    exact Entry.isJoint_joint (Entry.collects_of_two_le (hfor field))

end Criteria

end DocQuery
