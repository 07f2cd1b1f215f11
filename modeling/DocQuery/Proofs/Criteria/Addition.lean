import DocQuery.Criteria
import DocQuery.Proofs.Table
import Mathlib.Data.List.TakeWhile

/-!
# Values added to criteria

Criteria are built by adding one value after the other, each for an operator of a field. What is
asked of a field in the end depends on the additions for that field alone, and has a closed form. As
long as only equality is asked for, the last value counts. Otherwise the additions of equality with
which the field began count as the last one of them; the symbols stand in order of first occurrence;
and the values under a symbol are joined into a list if the symbol collects values, while the last
one counts if it does not.

## Main definitions

* `Addition`: a value with the operator for which it is added.
* `Entry.afterAll`, `Criteria.addAll`: what is asked of a field, and of all fields, after additions.
* `Entry.effective`, `Entry.conditionsOf`, `Entry.joint`: the parts of the closed form.
* `Criteria.additionsFor`: the additions for one field.

## Main results

* `Entry.afterAll_eq`: what is asked of a field in closed form.
* `Entry.get?_conditionsOf`: the value under a symbol in closed form.
* `Criteria.get?_addAll`: what is asked of a field depends on its own additions.
-/

namespace DocQuery

/-- A value with the operator for which it is added. -/
abbrev Addition := Operator × Value

/-- Whether values that meet under a symbol are joined into a list. -/
def Symbol.collects : Symbol → Bool
  | .eq | .within | .notIn | .all => true
  | _ => false

/-- The operators that add to a list are those whose symbol collects values. -/
theorem Operator.collects_symbol_iff (op : Operator) :
    op.symbol.collects = true ↔ op.takesList = true ∨ op.isPattern ∨ op = .eq := by
  have h : ∀ op ∈ Operator.vocabulary,
      (op.symbol.collects = true ↔ op.takesList = true ∨ op.isPattern ∨ op = .eq) := by
    decide
  exact h op (Operator.mem_vocabulary op)

/-- A symbol that does not collect values belongs to a single operator. -/
theorem Operator.eq_of_symbol_eq {op op' : Operator} (h : op.symbol = op'.symbol)
    (hs : op.symbol.collects = false) : op = op' := by
  have hall : ∀ op ∈ Operator.vocabulary, ∀ op' ∈ Operator.vocabulary,
      op.symbol = op'.symbol → op.symbol.collects = false → op = op' := by
    decide
  exact hall op (Operator.mem_vocabulary op) op' (Operator.mem_vocabulary op') h hs

namespace Entry

/-! ### One symbol -/

/-- The value that additions under the symbol `s` leave there. -/
def joint (s : Symbol) (gs : List Addition) : Option Value :=
  match gs with
  | [] => none
  | [g] => some (if g.1.takesList then .list g.2.items else g.2)
  | _ => if s.collects then some (.list (gs.flatMap fun g => g.2.items))
    else gs.getLast?.map Prod.snd

theorem joint_of_two_le {s : Symbol} {gs : List Addition} (h : 2 ≤ gs.length) :
    joint s gs = if s.collects then some (.list (gs.flatMap fun g => g.2.items))
      else gs.getLast?.map Prod.snd := by
  match gs, h with
  | _ :: _ :: _, _ => rfl

/-- Where the values of more than one addition are joined, the items of all of them are kept. -/
theorem items_joint {s : Symbol} {gs : List Addition} (hs : 2 ≤ gs.length → s.collects = true) :
    ((joint s gs).map Value.items).getD [] = gs.flatMap fun g => g.2.items := by
  match gs with
  | [] => rfl
  | [g] =>
    rw [List.flatMap_singleton, joint]
    split <;> rfl
  | g :: g' :: gs =>
    rw [joint_of_two_le (by simp), if_pos (hs (by simp))]
    rfl

theorem joint_ne_none {s : Symbol} {gs : List Addition} (h : gs ≠ []) : joint s gs ≠ none := by
  match gs with
  | [] => exact absurd rfl h
  | [g] => simp [joint]
  | g :: g' :: gs =>
    rw [joint_of_two_le (by simp)]
    split <;> simp

/-- One more value under the symbol is merged with what stands there. -/
theorem joint_append_singleton {s : Symbol} (gs : List Addition) {g : Addition}
    (hg : g.1.symbol = s) : joint s (gs ++ [g]) = some (merged g.1 (joint s gs) g.2) := by
  by_cases hgs : gs = []
  · subst hgs
    simp only [List.nil_append, joint, merged, Option.isSome_none, Value.appendTo, Option.map_none,
      Option.getD_none]
    split <;> simp
  · have htwo : 2 ≤ (gs ++ [g]).length := by
      have hlength := List.length_pos_iff.2 hgs
      rw [List.length_append, List.length_singleton]
      omega
    obtain ⟨w, hw⟩ := Option.ne_none_iff_exists'.1 (joint_ne_none (s := s) hgs)
    rw [joint_of_two_le htwo, hw]
    simp only [merged, Option.isSome_some, and_true]
    by_cases hs : s.collects = true
    · have hop := (Operator.collects_symbol_iff g.1).1 (hg ▸ hs)
      have hcollects : 2 ≤ gs.length → s.collects = true := fun _ => hs
      have hitems := items_joint hcollects
      rw [hw, Option.map_some, Option.getD_some] at hitems
      rw [if_pos hs, List.flatMap_append, List.flatMap_singleton, ← hitems]
      rcases hop with hlist | hrest
      · rw [if_pos hlist]
        rfl
      · rw [if_pos hrest, ite_self]
        rfl
    · have hop := mt (Operator.collects_symbol_iff g.1).2 (hg ▸ hs)
      rw [not_or] at hop
      rw [if_neg hs, if_neg hop.1, if_neg hop.2, List.getLast?_concat]
      rfl

/-- Adding values one after the other under their common symbol. -/
theorem foldl_merged {s : Symbol} (gs : List Addition) (hgs : ∀ g ∈ gs, g.1.symbol = s) :
    gs.foldl (fun v g => some (merged g.1 v g.2)) none = joint s gs := by
  induction gs using List.reverseRecOn with
  | nil => rfl
  | append_singleton gs g ih =>
    have hg : g.1.symbol = s := hgs g (by simp)
    rw [List.foldl_append, ih fun g' hg' => hgs g' (List.mem_append_left _ hg'),
      joint_append_singleton gs hg]
    rfl

/-! ### One field -/

/-- The value under a symbol; a scalar stands under the symbol of equality. -/
def get? : Entry → Symbol → Option Value
  | .scalar v, s => if s = .eq then some v else none
  | .conditions t, s => t.get? s

/-- What is asked of a field after values have been added one after the other. -/
def afterAll (gs : List Addition) : Option Entry :=
  gs.foldl (fun e g => some (after e g.1 g.2)) none

/-- The additions that count: of the additions of equality at the beginning only the last one. -/
def effective (gs : List Addition) : List Addition :=
  (gs.takeWhile fun g => g.1 = .eq).getLast?.toList ++ gs.dropWhile fun g => g.1 = .eq

/-- The conditions to which additions amount. -/
def conditionsOf (gs : List Addition) : Table Symbol Value :=
  Table.accumulate (fun g => g.1.symbol) (fun g v => merged g.1 v g.2) gs

theorem keys_conditionsOf (gs : List Addition) :
    (conditionsOf gs).keys = (gs.map fun g => g.1.symbol).eraseDups :=
  Table.keys_accumulate _ _ gs

/-- The value under a symbol comes from the additions under that symbol. -/
theorem get?_conditionsOf (gs : List Addition) (s : Symbol) :
    (conditionsOf gs).get? s = joint s (gs.filter fun g => g.1.symbol = s) := by
  rw [conditionsOf, Table.get?_accumulate]
  exact foldl_merged _ fun g hg => by simpa using (List.mem_filter.1 hg).2

theorem conditionsOf_append_singleton (gs : List Addition) (g : Addition) :
    conditionsOf (gs ++ [g]) = extend (conditionsOf gs) g.1 g.2 := by
  rw [conditionsOf, Table.accumulate_append_singleton, extend,
    Table.put_get? _ _ fun v => merged g.1 v g.2]
  rfl

theorem afterAll_append_singleton (gs : List Addition) (g : Addition) :
    afterAll (gs ++ [g]) = some (after (afterAll gs) g.1 g.2) := by
  simp only [afterAll, List.foldl_append, List.foldl_cons, List.foldl_nil]

theorem effective_append_of_forall_eq {gs : List Addition} (h : ∀ g ∈ gs, g.1 = .eq)
    {g : Addition} (hg : g.1 ≠ .eq) : effective (gs ++ [g]) = gs.getLast?.toList ++ [g] := by
  have h' : ∀ g ∈ gs, decide (g.1 = .eq) = true := fun g hg => decide_eq_true (h g hg)
  rw [effective, List.takeWhile_append_of_pos h', List.dropWhile_append_of_pos h']
  simp [hg]

/-- After another condition every addition counts. -/
theorem effective_append_singleton {gs : List Addition} (h : ¬∀ g ∈ gs, g.1 = .eq)
    (g : Addition) : effective (gs ++ [g]) = effective gs ++ [g] := by
  have h' : ¬∀ g ∈ gs, decide (g.1 = .eq) = true := by simpa using h
  have hdrop : gs.dropWhile (fun g => g.1 = .eq) ≠ [] := mt List.dropWhile_eq_nil_iff.1 h'
  have htake : (gs.takeWhile fun g => decide (g.1 = .eq)).length ≠ gs.length := by
    intro e
    refine h' (List.takeWhile_eq_self_iff.1 ?_)
    exact (List.takeWhile_prefix _).eq_of_length e
  rw [effective, List.takeWhile_append, if_neg htake, List.dropWhile_append,
    if_neg (by simpa using hdrop), ← List.append_assoc]
  rfl

/-- A scalar that moves under the symbol of equality stands there as if it had been added. -/
theorem put_eq_conditionsOf (w : Value) : Table.empty.put .eq w = conditionsOf [(.eq, w)] := rfl

/-- What is asked of a field, in closed form. -/
theorem afterAll_eq (gs : List Addition) :
    afterAll gs = if ∀ g ∈ gs, g.1 = .eq then gs.getLast?.map fun g => .scalar g.2
      else some (.conditions (conditionsOf (effective gs))) := by
  induction gs using List.reverseRecOn with
  | nil => rfl
  | append_singleton gs g ih =>
    rw [afterAll_append_singleton, ih]
    by_cases hgs : ∀ g ∈ gs, g.1 = .eq
    · rw [if_pos hgs]
      by_cases hg : g.1 = .eq
      · have hall : ∀ g' ∈ gs ++ [g], g'.1 = .eq := List.forall_mem_append.2 ⟨hgs, by simpa⟩
        rw [if_pos hall, List.getLast?_concat]
        cases gs.getLast? <;> simp [after, hg]
      · have hall : ¬∀ g' ∈ gs ++ [g], g'.1 = .eq := fun h => hg (h g (by simp))
        rw [if_neg hall, effective_append_of_forall_eq hgs hg, conditionsOf_append_singleton]
        cases hlast : gs.getLast? with
        | none => simp only [Option.map_none, after, if_neg hg]; rfl
        | some e =>
          obtain ⟨op, w⟩ := e
          obtain rfl : op = .eq := hgs _ (List.mem_of_getLast? hlast)
          simp only [Option.map_some, after, if_neg hg, put_eq_conditionsOf, Option.toList_some]
    · have hall : ¬∀ g' ∈ gs ++ [g], g'.1 = .eq := fun h =>
        hgs fun g' hg' => h g' (List.mem_append_left _ hg')
      rw [if_neg hgs, if_neg hall, effective_append_singleton hgs, conditionsOf_append_singleton]
      rfl

theorem afterAll_eq_none_iff {gs : List Addition} : afterAll gs = none ↔ gs = [] := by
  rw [afterAll_eq]
  split
  · rw [Option.map_eq_none_iff, List.getLast?_eq_none_iff]
  · next h =>
    refine ⟨fun e => (Option.some_ne_none _ e).elim, ?_⟩
    rintro rfl
    exact absurd (fun _ hg => absurd hg List.not_mem_nil) h

/-! ### Different operators -/

section Nodup

variable {gs : List Addition} (hgs : (gs.map Prod.fst).Nodup)

include hgs

/-- Of additions for different operators every one counts. -/
theorem effective_of_nodup : effective gs = gs := by
  match gs with
  | [] => rfl
  | [g] => by_cases hg : g.1 = .eq <;> simp [effective, hg]
  | g :: g' :: gs =>
    by_cases hg : g.1 = .eq
    · have hg' : g'.1 ≠ .eq := fun e => by simp [hg, e] at hgs
      simp [effective, hg, hg']
    · simp [effective, hg]

theorem forall_eq_iff_of_nodup :
    (∀ g ∈ gs, g.1 = .eq) ↔ gs = [] ∨ ∃ v, gs = [(.eq, v)] := by
  constructor
  · intro h
    match gs with
    | [] => exact Or.inl rfl
    | [(op, v)] => exact Or.inr ⟨v, by rw [show op = .eq from h _ List.mem_cons_self]⟩
    | g :: g' :: gs =>
      have hsame : g.1 = g'.1 := (h g (by simp)).trans (h g' (by simp)).symm
      simp [hsame] at hgs
  · rintro (rfl | ⟨v, rfl⟩) <;> simp

/-- A field has a scalar exactly if equality alone was asked for. -/
theorem afterAll_eq_scalar_iff {v : Value} :
    afterAll gs = some (.scalar v) ↔ gs = [(.eq, v)] := by
  rw [afterAll_eq]
  constructor
  · intro h
    split at h
    · next hall =>
      rcases (forall_eq_iff_of_nodup hgs).1 hall with rfl | ⟨w, rfl⟩
      · cases h
      · simpa using h
    · cases h
  · rintro rfl
    simp

theorem eq_conditionsOf_of_afterAll {t : Table Symbol Value}
    (h : afterAll gs = some (.conditions t)) : t = conditionsOf gs := by
  rw [afterAll_eq, effective_of_nodup hgs] at h
  split at h
  · obtain ⟨g, -, hg⟩ := Option.map_eq_some_iff.1 h
    cases hg
  · simpa using h.symm

/-- Two additions for different operators meet only under a symbol that collects values. -/
theorem collects_of_two_le {s : Symbol}
    (h : 2 ≤ (gs.filter fun g => g.1.symbol = s).length) : s.collects = true := by
  have hnodup : ((gs.filter fun g => g.1.symbol = s).map Prod.fst).Nodup :=
    (List.filter_sublist.map _).nodup hgs
  match hfilter : gs.filter fun g => g.1.symbol = s with
  | [] => simp [hfilter] at h
  | [g] => simp [hfilter] at h
  | g :: g' :: gs' =>
    have hsymbol : ∀ x ∈ g :: g' :: gs', x.1.symbol = s := by
      intro x hx
      rw [← hfilter, List.mem_filter] at hx
      exact of_decide_eq_true hx.2
    have hg := hsymbol g (by simp)
    have hg' := hsymbol g' (by simp)
    by_contra hs
    have hsame := Operator.eq_of_symbol_eq (hg.trans hg'.symm) (by simpa [hg] using hs)
    rw [hfilter] at hnodup
    simp [hsame] at hnodup

/-- The value under a symbol after additions for different operators. -/
theorem get?_afterAll (s : Symbol) :
    ((afterAll gs).bind fun e => e.get? s) = joint s (gs.filter fun g => g.1.symbol = s) := by
  cases h : afterAll gs with
  | none =>
    rw [afterAll_eq_none_iff.1 h]
    rfl
  | some e =>
    cases e with
    | scalar v =>
      rw [(afterAll_eq_scalar_iff hgs).1 h]
      by_cases hs : s = .eq
      · subst hs
        rfl
      · have hs' : ¬Operator.eq.symbol = s := fun e => hs e.symm
        simp [get?, hs, hs', joint]
    | conditions t =>
      rw [Option.bind_some, get?, eq_conditionsOf_of_afterAll hgs h, get?_conditionsOf]

/-- Additions for different operators all leave their items. -/
theorem items_get?_afterAll (s : Symbol) :
    (((afterAll gs).bind fun e => e.get? s).map Value.items).getD [] =
      (gs.filter fun g => g.1.symbol = s).flatMap fun g => g.2.items := by
  rw [get?_afterAll hgs]
  exact items_joint (collects_of_two_le hgs)

end Nodup

end Entry

namespace Criteria

/-! ### All fields -/

/-- What is asked of all fields after values have been added one after the other. -/
def addAll (as : List (String × Addition)) : Criteria :=
  as.foldl (fun c a => c.add a.1 a.2.1 a.2.2) .empty

theorem addAll_eq_accumulate (as : List (String × Addition)) :
    addAll as = Table.accumulate Prod.fst (fun a e => Entry.after e a.2.1 a.2.2) as := by
  unfold addAll Table.accumulate
  congr 1
  funext c a
  exact Table.put_get? c a.1 fun e => Entry.after e a.2.1 a.2.2

/-- The fields stand in order of their first addition. -/
theorem keys_addAll (as : List (String × Addition)) :
    (addAll as).keys = (as.map Prod.fst).eraseDups := by
  rw [addAll_eq_accumulate, Table.keys_accumulate]

/-- The additions for a field. -/
def additionsFor (as : List (String × Addition)) (field : String) : List Addition :=
  (as.filter fun a => a.1 = field).map Prod.snd

/-- What is asked of a field comes from the additions for it, in order. -/
theorem get?_addAll (as : List (String × Addition)) (field : String) :
    (addAll as).get? field = Entry.afterAll (additionsFor as field) := by
  rw [addAll_eq_accumulate, Table.get?_accumulate, Entry.afterAll, additionsFor, List.foldl_map]

/-- The values that are held for a field under a symbol. -/
def held (c : Criteria) (field : String) (s : Symbol) : List Value :=
  (((c.get? field).bind fun e => e.get? s).map Value.items).getD []

section Nodup

variable {as : List (String × Addition)} (has : (as.map fun a => (a.1, a.2.1)).Nodup)

include has

theorem nodup_additionsFor (field : String) :
    ((additionsFor as field).map Prod.fst).Nodup := by
  have hfield := (List.filter_sublist (p := fun a => a.1 = field)).map
    (fun a : String × Addition => (a.1, a.2.1)) |>.nodup has
  rw [additionsFor, List.map_map]
  refine List.Nodup.of_map (fun op => (field, op)) ?_
  rw [List.map_map]
  convert hfield using 1
  refine List.map_congr_left fun a ha => ?_
  have : a.1 = field := by simpa using (List.mem_filter.1 ha).2
  simp [this]

/-- Nothing is lost and nothing is held twice when every field is added to at most once for each
operator. -/
theorem held_addAll (field : String) (s : Symbol) :
    (addAll as).held field s =
      (as.filter fun a => a.1 = field ∧ a.2.1.symbol = s).flatMap fun a => a.2.2.items := by
  rw [held, get?_addAll, Entry.items_get?_afterAll (nodup_additionsFor has field), additionsFor,
    List.filter_map, List.flatMap_map, List.filter_filter]
  congr 1
  refine List.filter_congr fun a _ => ?_
  simp [Bool.and_comm]

end Nodup

end Criteria

end DocQuery
