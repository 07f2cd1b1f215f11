import DocQuery.Proofs.Converter.Leaf
import DocQuery.Proofs.Criteria.Addition

/-!
# The shape of criteria

Where texts become leaves and patterns become regular expressions, criteria have a fixed shape. A
scalar is a leaf. Under the symbols of comparison stands a leaf, under the symbol of existence a
truth value, and under the symbols of lists a list that is not empty and holds no lists. Regular
expressions occur only under the symbols `$eq` and `$in`. One addition keeps the shape, and so does
any number of them.

## Main definitions

* `Value.IsListOf`, `Value.IsElement`: lists of values of one kind, and what may stand in a list.
* `Symbol.Holds`: the values that may stand under a symbol.
* `Entry.IsShaped`, `Criteria.IsShaped`: the shape of what is asked of a field, and of criteria.
* `Operator.Reads`, `Addition.IsShaped`: the values that operators make from texts.

## Main results

* `Addition.IsShaped.holds_merged`: an addition keeps the shape of what stands under a symbol.
* `Entry.isShaped_after`: an addition keeps the shape of what is asked of a field.
* `Criteria.isShaped_addAll`: criteria that are built from shaped additions have the shape.
-/

namespace DocQuery

namespace Value

/-- The lists of values of one kind that are not empty. -/
inductive IsListOf (P : Value → Prop) : Value → Prop
  | mk {vs : List Value} (hne : vs ≠ []) (hvs : ∀ v ∈ vs, P v) : IsListOf P (.list vs)

/-- What may stand in a list: leaves and regular expressions. -/
def IsElement (v : Value) : Prop := v.IsLeaf ∨ v.IsRegex

theorem IsElement.items_eq {v : Value} (h : v.IsElement) : v.items = [v] := by
  rcases h with h | ⟨pattern, options⟩
  · cases h <;> rfl
  · rfl

end Value

/-- What may stand in a list under a symbol. -/
def Symbol.Collects : Symbol → Value → Prop
  | .eq, v | .within, v => v.IsElement
  | _, v => v.IsLeaf

/-- What may stand under a symbol. -/
def Symbol.Holds : Symbol → Value → Prop
  | .eq, v => v.IsElement ∨ v.IsListOf Value.IsElement
  | .within, v => v.IsListOf Value.IsElement
  | .notIn, v | .all, v => v.IsListOf Value.IsLeaf
  | .present, v => ∃ b, v = .bool b
  | _, v => v.IsLeaf

/-- The values that an operator makes from one text. -/
def Operator.Reads : Operator → Value → Prop
  | .pattern _ _ _, v => v.IsRegex
  | .present, v => ∃ b, v = .bool b
  | _, v => v.IsLeaf

/-- Whether the value of an addition is one that its operator makes: a list for a list operator, and
the value of one text for any other. -/
def Addition.IsShaped (g : Addition) : Prop :=
  if g.1.takesList then g.2.IsListOf g.1.Reads else g.1.Reads g.2

/-! ### One symbol -/

namespace Symbol

variable {s : Symbol} {v : Value}

/-- A list may stand under a symbol that collects values if its elements may stand in it. -/
theorem holds_list (hs : s.collects = true) {vs : List Value} (hne : vs ≠ [])
    (hvs : ∀ v ∈ vs, s.Collects v) : s.Holds (.list vs) := by
  cases s with
  | eq => exact Or.inr ⟨hne, hvs⟩
  | within => exact ⟨hne, hvs⟩
  | notIn => exact ⟨hne, hvs⟩
  | all => exact ⟨hne, hvs⟩
  | _ => cases hs

/-- The items of what stands under a symbol that collects values may stand in a list there. -/
theorem Holds.collects (hv : s.Holds v) (hs : s.collects = true) :
    ∀ w ∈ v.items, s.Collects w := by
  cases s with
  | eq =>
    rcases hv with hv | ⟨-, hvs⟩
    · rw [hv.items_eq]
      exact List.forall_mem_singleton.2 hv
    · exact hvs
  | within | notIn | all =>
    obtain ⟨-, hvs⟩ := hv
    exact hvs
  | _ => cases hs

end Symbol

namespace Operator

variable {op : Operator} {v : Value}

theorem isElement_of_reads (hv : op.Reads v) : v.IsElement := by
  cases op with
  | pattern family ignoreCase form => exact Or.inr hv
  | present =>
    obtain ⟨b, rfl⟩ := hv
    exact Or.inl (.bool b)
  | _ => exact Or.inl hv

theorem collects_of_reads (hs : op.symbol.collects = true) (hv : op.Reads v) :
    op.symbol.Collects v := by
  cases op with
  | pattern family ignoreCase form => cases form <;> exact Or.inr hv
  | eq | within | eqList => exact Or.inl hv
  | notIn | all => exact hv
  | _ => cases hs

/-- The value of one text may stand alone under the symbol of an operator that takes no list. -/
theorem holds_of_reads (hlist : op.takesList = false) (hv : op.Reads v) : op.symbol.Holds v := by
  cases op with
  | pattern family ignoreCase form =>
    cases form with
    | single => exact Or.inl (Or.inr hv)
    | _ => cases hlist
  | eq => exact Or.inl (Or.inl hv)
  | within | notIn | all | eqList => cases hlist
  | _ => exact hv

end Operator

namespace Addition

variable {g : Addition}

/-- An addition brings at least one item to a list, and only such as may stand there. -/
theorem IsShaped.items (hg : g.IsShaped) (hs : g.1.symbol.collects = true) :
    g.2.items ≠ [] ∧ ∀ v ∈ g.2.items, g.1.symbol.Collects v := by
  obtain ⟨op, v⟩ := g
  unfold IsShaped at hg
  split at hg
  · obtain ⟨hne, hvs⟩ := hg
    exact ⟨hne, fun w hw => Operator.collects_of_reads hs (hvs w hw)⟩
  · rw [(Operator.isElement_of_reads hg).items_eq]
    exact ⟨List.cons_ne_nil _ _, List.forall_mem_singleton.2 (Operator.collects_of_reads hs hg)⟩

/-- An addition keeps the shape of what stands under its symbol. -/
theorem IsShaped.holds_merged (hg : g.IsShaped) {earlier : Option Value}
    (hearlier : ∀ w, earlier = some w → g.1.symbol.Holds w) :
    g.1.symbol.Holds (Entry.merged g.1 earlier g.2) := by
  have hlist (hs : g.1.symbol.collects = true) :
      g.1.symbol.Holds (.list (Value.appendTo earlier g.2)) := by
    obtain ⟨hne, hitems⟩ := hg.items hs
    refine Symbol.holds_list hs (List.append_ne_nil_of_right_ne_nil _ hne) fun v hv => ?_
    rcases List.mem_append.1 hv with hv | hv
    · cases earlier with
      | none => cases hv
      | some w => exact (hearlier w rfl).collects hs v hv
    · exact hitems v hv
  have hcollects := Operator.collects_symbol_iff g.1
  unfold Entry.merged
  split_ifs with htakes hmeets
  · exact hlist (hcollects.2 (Or.inl htakes))
  · exact hlist (hcollects.2 (Or.inr hmeets.1))
  · rw [Bool.not_eq_true] at htakes
    rw [IsShaped, if_neg (by simp [htakes])] at hg
    exact Operator.holds_of_reads htakes hg

end Addition

/-! ### One field -/

/-- The shape of what is asked of a field. -/
inductive Entry.IsShaped : Entry → Prop
  | scalar {v : Value} (hv : v.IsLeaf) : IsShaped (.scalar v)
  | conditions {t : Table Symbol Value} (hne : t.keys ≠ [])
      (ht : ∀ s v, t.get? s = some v → s.Holds v) : IsShaped (.conditions t)

namespace Entry

variable {g : Addition} {t : Table Symbol Value}

theorem isShaped_extend (hg : g.IsShaped) (ht : ∀ s v, t.get? s = some v → s.Holds v) :
    (conditions (extend t g.1 g.2)).IsShaped := by
  refine .conditions ?_ fun s v hv => ?_
  · rw [extend, Table.put, Table.keys_update]
    split
    · next hmem => exact List.ne_nil_of_mem hmem
    · simp
  · rw [extend] at hv
    by_cases hs : s = g.1.symbol
    · subst hs
      rw [Table.get?_put_self] at hv
      obtain rfl := Option.some.inj hv
      exact hg.holds_merged fun w hw => ht _ w hw
    · rw [Table.get?_put_of_ne _ hs] at hv
      exact ht s v hv

/-- An addition keeps the shape of what is asked of a field. -/
theorem isShaped_after (hg : g.IsShaped) {earlier : Option Entry}
    (hearlier : ∀ e, earlier = some e → e.IsShaped) : (after earlier g.1 g.2).IsShaped := by
  have hscalar (heq : g.1 = .eq) : (Entry.scalar g.2).IsShaped := by
    have hleaf : g.1.Reads g.2 := by simpa [Addition.IsShaped, heq, Operator.takesList] using hg
    rw [heq] at hleaf
    exact .scalar hleaf
  match earlier, hearlier with
  | none, _ =>
    unfold after
    split_ifs with heq
    · exact hscalar heq
    · exact isShaped_extend hg fun s v hv => by cases hv
  | some (.scalar w), hearlier =>
    obtain ⟨hw⟩ | _ := hearlier _ rfl
    dsimp only [after]
    split_ifs with heq
    · exact hscalar heq
    · refine isShaped_extend hg fun s v hv => ?_
      by_cases hs : s = .eq
      · subst hs
        rw [Table.get?_put_self] at hv
        obtain rfl := Option.some.inj hv
        exact Or.inl (Or.inl hw)
      · rw [Table.get?_put_of_ne _ hs] at hv
        cases hv
  | some (.conditions t), hearlier =>
    obtain _ | ⟨-, ht⟩ := hearlier _ rfl
    exact isShaped_extend hg ht

end Entry

/-! ### All fields -/

/-- Whether what is asked of every field has the shape. -/
def Criteria.IsShaped (c : Criteria) : Prop := ∀ field e, c.get? field = some e → e.IsShaped

namespace Criteria

/-- One addition keeps the shape of criteria. -/
theorem IsShaped.add {c : Criteria} (hc : c.IsShaped) (field : String) {g : Addition}
    (hg : g.IsShaped) : (c.add field g.1 g.2).IsShaped := by
  intro field' e he
  rw [Criteria.add] at he
  by_cases hfield : field' = field
  · subst hfield
    rw [Table.get?_put_self] at he
    obtain rfl := Option.some.inj he
    exact Entry.isShaped_after hg fun e he => hc _ e he
  · rw [Table.get?_put_of_ne _ hfield] at he
    exact hc field' e he

/-- Criteria that are built from shaped additions have the shape. -/
theorem isShaped_addAll {as : List (String × Addition)} (has : ∀ a ∈ as, a.2.IsShaped) :
    (addAll as).IsShaped := by
  induction as using List.reverseRecOn with
  | nil => exact fun _ _ he => nomatch he
  | append_singleton as a ih =>
    obtain ⟨hrest, ha⟩ := List.forall_mem_append.1 has
    rw [addAll, List.foldl_append]
    exact (ih hrest).add a.1 (ha a (List.mem_singleton_self a))

end Criteria

end DocQuery
