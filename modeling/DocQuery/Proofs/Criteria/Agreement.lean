import DocQuery.Proofs.Criteria.Addition
import DocQuery.Proofs.Reordering

/-!
# Criteria that agree

Criteria agree if they ask about the same fields in the same way: of each field either both have the
same scalar, or both have conditions under the same symbols with values that are related. Values may
for instance be equal, or they may be lists whose elements stand in another order. Additions for
different operators that are the same up to order lead to what agrees up to order.

## Main definitions

* `Entry.Agree`, `Criteria.Agree`: what is asked of a field, and of all fields, agrees.
* `Value.SameUpToOrder`: values that are equal, or lists up to the order of their elements.
* `Addition.SameUpToOrder`: additions for the same operator.

## Main results

* `Entry.joint_sameUpToOrder`: what additions leave under a symbol.
* `Entry.agree_afterAll`: what additions leave for a field.
-/

namespace DocQuery

/-- Whether what is asked of a field agrees: it is the same scalar, or there are conditions under
the same symbols with related values. -/
def Entry.Agree (R : Value → Value → Prop) : Entry → Entry → Prop
  | .scalar v, .scalar w => v = w
  | .conditions t, .conditions u => ∀ s, Option.Rel R (t.get? s) (u.get? s)
  | _, _ => False

/-- Whether criteria ask about the same fields, and of each field in the same way. -/
def Criteria.Agree (R : Value → Value → Prop) (c d : Criteria) : Prop :=
  ∀ field, Option.Rel (Entry.Agree R) (c.get? field) (d.get? field)

/-- Values that are equal, or lists up to the order of their elements. -/
inductive Value.SameUpToOrder : Value → Value → Prop
  | refl (v : Value) : SameUpToOrder v v
  | list {vs ws : List Value} (h : vs.Perm ws) : SameUpToOrder (.list vs) (.list ws)

theorem Value.SameUpToOrder.perm_items {v w : Value} (h : v.SameUpToOrder w) :
    v.items.Perm w.items := by
  cases h with
  | refl => exact .refl _
  | list h => exact h

/-- Whether additions are for the same operator and bring the same value, or for a list operator
the same list up to order. -/
structure Addition.SameUpToOrder (g g' : Addition) : Prop where
  operator : g.1 = g'.1
  value : g.2.SameUpToOrder g'.2
  eq_of_single : g.1.takesList = false → g.2 = g'.2

namespace Entry

variable {gs gs' : List Addition} {s : Symbol}

/-- What additions leave under a symbol does not depend on their order. -/
theorem joint_sameUpToOrder (h : Reordered Addition.SameUpToOrder gs gs')
    (hs : 2 ≤ gs.length → s.collects = true) :
    Option.Rel Value.SameUpToOrder (joint s gs) (joint s gs') := by
  have hlength := h.length_eq
  have hitems : (gs.flatMap fun g => g.2.items).Perm (gs'.flatMap fun g => g.2.items) :=
    h.perm_flatMap fun _ _ hg => hg.value.perm_items
  match gs, gs', hlength, h, hitems, hs with
  | [], [], _, _, _, _ => exact .none
  | [g], [g'], _, h, _, _ =>
    obtain ⟨hop, hvalue, hsingle⟩ := Reordered.singleton_iff.1 h
    rw [joint, joint, ← hop]
    split
    · exact .some (.list hvalue.perm_items)
    · next hlist =>
      rw [hsingle (by simpa using hlist)]
      exact .some (.refl _)
  | g :: k :: gs, g' :: k' :: gs', _, _, hitems, hs =>
    have htwo : s.collects = true := hs (by simp)
    rw [joint_of_two_le (by simp), joint_of_two_le (by simp), if_pos htwo, if_pos htwo]
    exact .some (.list hitems)

/-- Additions that are a single equality are so in any order. -/
theorem eq_singleton_of_reordered (h : Reordered Addition.SameUpToOrder gs gs') {v : Value} :
    gs = [(.eq, v)] ↔ gs' = [(.eq, v)] := by
  have hlength := h.length_eq
  constructor
  · rintro rfl
    obtain ⟨g', rfl⟩ := List.length_eq_one_iff.1 hlength.symm
    obtain ⟨hop, -, hsingle⟩ := Reordered.singleton_iff.1 h
    rw [Prod.ext hop.symm (hsingle rfl).symm]
  · rintro rfl
    obtain ⟨g, rfl⟩ := List.length_eq_one_iff.1 hlength
    obtain ⟨hop, -, hsingle⟩ := Reordered.singleton_iff.1 h
    rw [Prod.ext hop (hsingle (hop ▸ rfl))]

/-- What additions for different operators leave for a field does not depend on their order. -/
theorem agree_afterAll (h : Reordered Addition.SameUpToOrder gs gs')
    (hgs : (gs.map Prod.fst).Nodup) (hgs' : (gs'.map Prod.fst).Nodup) :
    Option.Rel (Agree Value.SameUpToOrder) (afterAll gs) (afterAll gs') := by
  have hscalar := fun v => eq_singleton_of_reordered h (v := v)
  simp only [← afterAll_eq_scalar_iff hgs, ← afterAll_eq_scalar_iff hgs'] at hscalar
  have hnil := h.eq_nil_iff
  rw [← afterAll_eq_none_iff, ← afterAll_eq_none_iff] at hnil
  have hfilter (s : Symbol) : Reordered Addition.SameUpToOrder
      (gs.filter fun g => g.1.symbol = s) (gs'.filter fun g => g.1.symbol = s) :=
    h.filter fun _ _ hg => by rw [hg.operator]
  match he : afterAll gs, he' : afterAll gs' with
  | none, none => exact .none
  | none, some e' => simp [he, he'] at hnil
  | some e, none => simp [he, he'] at hnil
  | some (.scalar v), some e' =>
    obtain rfl : e' = .scalar v := Option.some.inj (he'.symm.trans ((hscalar v).1 he))
    exact .some rfl
  | some (.conditions t), some (.scalar v) => cases he.symm.trans ((hscalar v).2 he')
  | some (.conditions t), some (.conditions u) =>
    refine .some fun s => ?_
    rw [eq_conditionsOf_of_afterAll hgs he, eq_conditionsOf_of_afterAll hgs' he',
      get?_conditionsOf, get?_conditionsOf]
    exact joint_sameUpToOrder (hfilter s) (collects_of_two_le hgs)

end Entry

end DocQuery
