import DocQuery.Proofs.Criteria.Addition

/-!
# What additions amount to

The criteria that result from any number of additions can be written down at once, symbol by symbol
and field by field, from the list of the additions. A field to which nothing but equality was added
has the last value as its scalar. Otherwise all additions count but those of equality with which the
field begins, of which only the last one does. The symbols of the additions that count stand in
order of first occurrence. Lists, exclusions and inclusions hold the items of all their values; an
equality holds the value itself if it was added alone and not as a list, and else the items of all
values; and a comparison or the test for existence holds the last value.

## Main definitions

* `Table.tabulate`: the table with given keys whose values are computed from the keys.
* `Symbol.amount`, `Entry.amount`, `Criteria.amount`: what additions under a symbol, for a field and
  for all fields amount to.

## Main results

* `Entry.afterAll_eq_amount`: additions for one field.
* `Criteria.addAll_eq_amount`: additions for any fields.
-/

namespace DocQuery

namespace Table

variable {κ ν : Type} [DecidableEq κ]

/-- The table of the keys in a list, in order of first occurrence, with the values that are computed
from them. A key without a value is left out. -/
def tabulate (ks : List κ) (f : κ → Option ν) : Table κ ν where
  entries := ks.eraseDups.filterMap fun k => (f k).map fun v => (k, v)
  nodup_keys := by
    rw [List.map_filterMap]
    refine (nodup_eraseDups ks).filterMap fun k k' l hl hl' => ?_
    simp only [Option.mem_def, Option.map_map, Option.map_eq_some_iff, Function.comp_apply]
      at hl hl'
    obtain ⟨-, -, rfl⟩ := hl
    obtain ⟨-, -, rfl⟩ := hl'
    rfl

/-- A table is told by its keys and the value under each of them. -/
theorem eq_tabulate {t : Table κ ν} {ks : List κ} {f : κ → Option ν} (hkeys : t.keys = ks.eraseDups)
    (hvalues : ∀ k ∈ t.keys, t.get? k = f k) : t = tabulate ks f := by
  ext1
  have hentry : ∀ e ∈ t.entries, ((f e.1).map fun v => (e.1, v)) = some e := by
    intro e he
    rw [← hvalues e.1 (mem_keys_of_mem he), get?_eq_some_iff.2 he]
    rfl
  change t.entries = ks.eraseDups.filterMap fun k => (f k).map fun v => (k, v)
  rw [← hkeys, keys, List.filterMap_map]
  exact (List.filterMap_congr hentry |>.trans List.filterMap_some).symm

end Table

/-- A list operator stands under the symbol of a list, or it is the equality with a list. -/
theorem Operator.takesList_iff (op : Operator) :
    op.takesList = true ↔ op.symbol ∈ [.within, .notIn, .all] ∨ op = .eqList := by
  have h : ∀ op ∈ Operator.vocabulary,
      (op.takesList = true ↔ op.symbol ∈ [.within, .notIn, .all] ∨ op = .eqList) := by
    decide
  exact h op (Operator.mem_vocabulary op)

/-- What additions under a symbol amount to. -/
def Symbol.amount (s : Symbol) (gs : List Addition) : Option Value :=
  match s, gs with
  | .within, gs | .notIn, gs | .all, gs => some (.list (gs.flatMap fun g => g.2.items))
  | .eq, [(op, v)] => some (if op = .eqList then .list v.items else v)
  | .eq, gs => some (.list (gs.flatMap fun g => g.2.items))
  | _, gs => gs.getLast?.map Prod.snd

namespace Entry

/-- Merging the values under a symbol one after the other leaves what they amount to. -/
theorem joint_eq_amount {s : Symbol} {gs : List Addition} (hne : gs ≠ [])
    (hgs : ∀ g ∈ gs, g.1.symbol = s) : joint s gs = s.amount gs := by
  match gs with
  | [] => exact absurd rfl hne
  | [(op, v)] =>
    obtain rfl : op.symbol = s := hgs _ List.mem_cons_self
    by_cases hop : op = .eqList
    · subst hop
      rfl
    · have hlist := op.takesList_iff
      rw [or_iff_left hop] at hlist
      cases hs : op.symbol <;> simp [joint, Symbol.amount, hlist, hs, hop]
  | g :: g' :: gs =>
    rw [joint_of_two_le (by simp)]
    cases s <;> rfl

/-- What additions for a field amount to. -/
def amount (gs : List Addition) : Option Entry :=
  if ∀ g ∈ gs, g.1 = .eq then gs.getLast?.map fun g => .scalar g.2
  else some (.conditions (Table.tabulate ((effective gs).map fun g => g.1.symbol) fun s =>
    s.amount ((effective gs).filter fun g => g.1.symbol = s)))

theorem conditionsOf_eq_tabulate (gs : List Addition) :
    conditionsOf gs = Table.tabulate (gs.map fun g => g.1.symbol) fun s =>
      s.amount (gs.filter fun g => g.1.symbol = s) := by
  refine Table.eq_tabulate (keys_conditionsOf gs) fun s hs => ?_
  rw [keys_conditionsOf, List.mem_eraseDups] at hs
  obtain ⟨g, hg, rfl⟩ := List.mem_map.1 hs
  rw [get?_conditionsOf]
  refine joint_eq_amount ?_ fun g' hg' => by simpa using (List.mem_filter.1 hg').2
  exact List.ne_nil_of_mem (List.mem_filter.2 ⟨hg, decide_eq_true rfl⟩)

/-- Adding values for a field one after the other leaves what they amount to. -/
theorem afterAll_eq_amount (gs : List Addition) : afterAll gs = amount gs := by
  rw [afterAll_eq, amount, conditionsOf_eq_tabulate]

end Entry

namespace Criteria

/-- What additions amount to: every field, in order of first addition, has what its own additions
amount to. -/
def amount (as : List (String × Addition)) : Criteria :=
  Table.tabulate (as.map Prod.fst) fun field =>
    Entry.amount ((as.filter fun a => a.1 = field).map Prod.snd)

/-- Adding values one after the other leaves what they amount to. -/
theorem addAll_eq_amount (as : List (String × Addition)) : addAll as = amount as :=
  Table.eq_tabulate (keys_addAll as) fun field _ => by
    rw [get?_addAll, additionsFor, Entry.afterAll_eq_amount]

/-- Of two equalities in front of an exclusion the second one counts, and an equality that a pattern
joins later keeps its place. -/
example : (amount [("a", .eq, .int 1), ("b", .eq, .null), ("a", .eq, .int 2), ("a", .notIn, .null),
    ("a", .pattern .regex false .single, .list [.int 3, .null])]).toValue =
      .object [("a", .object [("$eq", .list [.int 2, .int 3, .null]), ("$nin", .list [])]),
        ("b", .null)] := rfl

end Criteria

end DocQuery
