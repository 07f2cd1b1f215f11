import DocQuery.Proofs.Criteria.Addition
import DocQuery.Proofs.FirstOccurrence
import Mathlib.Algebra.BigOperators.Group.List.Basic
import Mathlib.Algebra.Ring.Nat

/-!
# Nothing among the values of criteria

A converter may make nothing of a text, and a condition may ask for it. What stands for nothing in a
list is kept as an element of the list. A value that is nothing by itself is kept as a scalar and
wherever it stands alone under a symbol. Where it meets other values under the symbol of equality it
is lost, because joining values takes nothing for the absence of a value.

## Main definitions

* `Value.nulls`, `Entry.nulls`: how often nothing stands in a value and in what is asked of a field.
* `Addition.IsFormed`: additions whose value has the form that the operator gives it.
* `Entry.lostNulls`: how often nothing is lost among values that meet.

## Main results

* `Entry.nulls_joint`: what is kept and what is lost under one symbol.
* `Entry.nulls_afterAll`: what is kept and what is lost of a field.
* `Entry.lostNulls_eq_zero_iff`: when nothing is lost.
-/

namespace DocQuery

namespace Value

/-- Whether a value is nothing. -/
def isNull : Value → Bool
  | .null => true
  | _ => false

/-- How often nothing stands in a value: once if it is nothing itself, and as often as it is an
element of a list. -/
def nulls : Value → Nat
  | .null => 1
  | .list vs => vs.countP isNull
  | _ => 0

theorem isNull_iff {v : Value} : v.isNull = true ↔ v = .null := by
  cases v <;> simp [isNull]

theorem nulls_list (vs : List Value) : (list vs).nulls = vs.countP isNull := rfl

/-- Of a value that is nothing no items are left; otherwise the items keep what stands in it. -/
theorem nulls_eq (v : Value) :
    v.nulls = v.items.countP isNull + if v.isNull then 1 else 0 := by
  cases v <;> simp [nulls, items, isNull]

end Value

/-- Whether the value of an addition has the form that the operator gives it: a list for a list
operator. -/
def Addition.IsFormed (g : Addition) : Prop := g.1.takesList = true → ∃ vs, g.2 = .list vs

/-- The operators of a symbol that collects values take lists, unless the symbol is that of
equality. -/
theorem Operator.takesList_of_collects {op : Operator} {s : Symbol} (hop : op.symbol = s)
    (hs : s.collects = true) (hne : s ≠ .eq) : op.takesList = true := by
  subst hop
  rcases (Operator.collects_symbol_iff op).1 hs with hlist | hpattern | rfl
  · exact hlist
  · cases op with
    | pattern family ignoreCase form =>
      cases form with
      | single => exact absurd rfl hne
      | plain => rfl
      | bracket => rfl
    | _ => cases hpattern
  · exact absurd rfl hne

namespace Entry

/-- How often nothing stands in what is asked of a field. -/
def nulls : Entry → Nat
  | .scalar v => v.nulls
  | .conditions t => (t.entries.map fun e => e.2.nulls).sum

/-- How often nothing is lost among additions that meet under one symbol. -/
def lostNulls (gs : List Addition) : Nat :=
  if gs.length ≤ 1 then 0 else gs.countP fun g => g.2.isNull

theorem lostNulls_eq_zero_iff {gs : List Addition} :
    lostNulls gs = 0 ↔ ∀ g ∈ gs, g.2 = .null → gs = [g] := by
  unfold lostNulls
  split
  · next hlength =>
    match gs, hlength with
    | [], _ => simp
    | [g], _ => simp
  · next hlength =>
    have hne (g : Addition) : gs ≠ [g] := by
      rintro rfl
      exact hlength (Nat.le_refl 1)
    simp [List.countP_eq_zero, Value.isNull_iff, hne]

/-- Nothing stands in values as often as among their items and as they are nothing themselves. -/
theorem countP_items (gs : List Addition) :
    (gs.flatMap fun g => g.2.items).countP Value.isNull + (gs.countP fun g => g.2.isNull) =
      (gs.map fun g => g.2.nulls).sum := by
  induction gs with
  | nil => rfl
  | cons g gs ih =>
    rw [List.flatMap_cons, List.countP_append, List.countP_cons, List.map_cons, List.sum_cons, ← ih,
      Value.nulls_eq g.2]
    omega

/-- What is kept under a symbol and what is lost there. -/
theorem nulls_joint {s : Symbol} {gs : List Addition} (hs : 2 ≤ gs.length → s.collects = true)
    (hgs : ∀ g ∈ gs, g.IsFormed) :
    ((joint s gs).map Value.nulls).getD 0 + lostNulls gs =
      (gs.map fun g => g.2.nulls).sum := by
  match gs with
  | [] => rfl
  | [g] =>
    have hg := hgs g (by simp)
    by_cases hlist : g.1.takesList = true
    · obtain ⟨vs, hvs⟩ := hg hlist
      simp [joint, lostNulls, hlist, hvs, Value.items]
    · simp [joint, lostNulls, hlist]
  | g :: g' :: gs =>
    rw [joint_of_two_le (by simp), if_pos (hs (by simp)), lostNulls, if_neg (by simp),
      Option.map_some, Option.getD_some, Value.nulls_list, countP_items]

/-- Under symbols other than that of equality values meet only in lists. -/
theorem lostNulls_of_ne_eq {gs : List Addition} (hnodup : (gs.map Prod.fst).Nodup)
    (hgs : ∀ g ∈ gs, g.IsFormed) {s : Symbol} (hs : s ≠ .eq) :
    lostNulls (gs.filter fun g => g.1.symbol = s) = 0 := by
  by_cases hlength : (gs.filter fun g => g.1.symbol = s).length ≤ 1
  · rw [lostNulls, if_pos hlength]
  rw [lostNulls, if_neg hlength, List.countP_eq_zero]
  intro g hg hnull
  obtain ⟨hg, hsymbol⟩ := List.mem_filter.1 hg
  have hcollects := collects_of_two_le hnodup (Nat.lt_of_not_le hlength)
  have hlist := Operator.takesList_of_collects (of_decide_eq_true hsymbol) hcollects hs
  obtain ⟨vs, hvs⟩ := hgs g hg hlist
  simp [hvs, Value.isNull] at hnull

/-- How often nothing stands in conditions, symbol by symbol. -/
theorem nulls_conditionsOf (gs : List Addition) :
    (conditions (conditionsOf gs)).nulls = ((gs.map fun g => g.1.symbol).eraseDups.map fun s =>
      ((joint s (gs.filter fun g => g.1.symbol = s)).map Value.nulls).getD 0).sum := by
  have hentries : (conditionsOf gs).entries = (conditionsOf gs).keys.map fun s =>
      (s, (joint s (gs.filter fun g => g.1.symbol = s)).getD .null) := by
    refine Table.entries_eq_map_keys fun s hs => ?_
    obtain ⟨v, hv⟩ := Option.ne_none_iff_exists'.1 (mt Table.get?_eq_none_iff.1 (not_not.2 hs))
    rw [get?_conditionsOf] at hv
    rw [get?_conditionsOf, hv, Option.getD_some]
  rw [nulls, hentries, keys_conditionsOf, List.map_map]
  congr 1
  refine List.map_congr_left fun s hs => ?_
  obtain ⟨g, hg, rfl⟩ := List.mem_map.1 (List.mem_eraseDups.1 hs)
  have hne : (gs.filter fun g' => g'.1.symbol = g.1.symbol) ≠ [] :=
    List.ne_nil_of_mem (List.mem_filter.2 ⟨hg, decide_eq_true rfl⟩)
  obtain ⟨v, hv⟩ := Option.ne_none_iff_exists'.1 (joint_ne_none (s := g.1.symbol) hne)
  simp [hv]

/-- What is lost under all symbols is lost under the symbol of equality. -/
theorem sum_lostNulls {gs : List Addition} (hnodup : (gs.map Prod.fst).Nodup)
    (hgs : ∀ g ∈ gs, g.IsFormed) :
    ((gs.map fun g => g.1.symbol).eraseDups.map fun s =>
      lostNulls (gs.filter fun g => g.1.symbol = s)).sum =
      lostNulls (gs.filter fun g => g.1.symbol = .eq) := by
  rw [List.sum_map_eq_nsmul_single Symbol.eq _ fun s hs _ => lostNulls_of_ne_eq hnodup hgs hs,
    (nodup_eraseDups _).count]
  split
  · exact one_nsmul _
  · next hmem =>
    have hnil : (gs.filter fun g => g.1.symbol = .eq) = [] := by
      refine List.filter_eq_nil_iff.2 fun g hg hsymbol => hmem ?_
      exact List.mem_eraseDups.2 (List.mem_map.2 ⟨g, hg, of_decide_eq_true hsymbol⟩)
    rw [hnil]
    rfl

/-- What is kept of a field and what is lost: nothing is lost only among values that meet under the
symbol of equality. -/
theorem nulls_afterAll {gs : List Addition} (hnodup : (gs.map Prod.fst).Nodup)
    (hgs : ∀ g ∈ gs, g.IsFormed) :
    (afterAll gs).elim 0 nulls + lostNulls (gs.filter fun g => g.1.symbol = .eq) =
      (gs.map fun g => g.2.nulls).sum := by
  cases h : afterAll gs with
  | none =>
    rw [afterAll_eq_none_iff.1 h]
    rfl
  | some e =>
    cases e with
    | scalar v =>
      rw [(afterAll_eq_scalar_iff hnodup).1 h]
      simp [nulls, lostNulls, Operator.symbol]
    | conditions t =>
      have hsymbols : ∀ g ∈ gs, g.1.symbol ∈ (gs.map fun g => g.1.symbol).eraseDups :=
        fun g hg => List.mem_eraseDups.2 (List.mem_map.2 ⟨g, hg, rfl⟩)
      have hperm := perm_flatMap_filter (fun g : Addition => g.1.symbol) (nodup_eraseDups _) gs
        hsymbols
      rw [eq_conditionsOf_of_afterAll hnodup h, Option.elim_some, nulls_conditionsOf,
        ← sum_lostNulls hnodup hgs, ← List.sum_map_add, ← (hperm.map fun g => g.2.nulls).sum_eq,
        List.map_flatMap, List.flatMap_def, List.sum_flatten, List.map_map]
      congr 1
      refine List.map_congr_left fun s _ => ?_
      refine nulls_joint (collects_of_two_le hnodup) fun g hg => ?_
      exact hgs g (List.mem_filter.1 hg).1

end Entry

end DocQuery
