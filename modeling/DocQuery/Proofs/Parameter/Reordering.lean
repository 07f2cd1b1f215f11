import DocQuery.Proofs.Parameter.Destination
import DocQuery.Proofs.Reordering

/-!
# Parameters in another order

The groups of a field are the same up to order in whatever order its texts are filed: how often a
spelling is used decides on cutting at commas, and a group has the texts of all its spellings. For
settling the groups the order matters in one case only. A list of one text for `in` and another one
for `all` would both give way to equality, and the first of them does so. Where no field has such
rivals, the conditions are the same up to order too.

## Main definitions

* `Group.SameUpToOrder`: groups with the same operator and the same texts up to order.
* `FieldConditions.HasRivals`, `HasNoRivals`: the case in which the order matters.
* `Group.reduced`: what a group is settled into where there are no rivals.

## Main results

* `Filed.reordered_groups`: the groups of a field do not depend on the order.
* `Filed.entries_settle`: without rivals each group is settled by itself.
* `Filed.reordered_settle`: without rivals the conditions of a field do not depend on the order.
-/

namespace DocQuery

/-- Whether groups have the same operator and the same texts up to order. -/
structure Group.SameUpToOrder (g g' : Group) : Prop where
  operator : g.1 = g'.1
  texts : g.2.Perm g'.2

/-- Whether a list of one text for `in` and another one for `all` would both give way to equality,
which is not asked for by itself. -/
def FieldConditions.HasRivals (joined : FieldConditions) : Prop :=
  (joined.get? (.within false)).map List.length = some 1 ∧
    (joined.get? (.all false)).map List.length = some 1 ∧ joined.get? .eq = none

instance (joined : FieldConditions) : Decidable joined.HasRivals :=
  inferInstanceAs (Decidable (_ ∧ _ ∧ _))

/-- Whether there are no rivals for any field of a list of parameters. -/
def HasNoRivals (ps : List Parameter) : Prop :=
  ∀ f ∈ (Gathered.collect ps).entries, ¬f.2.join.HasRivals

instance (ps : List Parameter) : Decidable (HasNoRivals ps) :=
  inferInstanceAs (Decidable (∀ f ∈ (Gathered.collect ps).entries, ¬f.2.join.HasRivals))

namespace Operator

/-- The list operators in their canonical spelling. -/
theorem canonical_list_cases {op : Operator} (hop : op.canonical = op)
    (hlist : op.takesList = true) :
    op = .within false ∨ op = .all false ∨ op = .notIn ∨ op = .eqList ∨
      ∃ family ignoreCase, op = .pattern family ignoreCase .plain := by
  cases op with
  | within bracket => exact Or.inl hop.symm
  | all bracket => exact Or.inr (Or.inl hop.symm)
  | notIn => simp
  | eqList => simp
  | pattern family ignoreCase form =>
    cases form with
    | plain => simp
    | single => cases hlist
    | bracket => cases hop
  | _ => cases hlist

/-- Different list operators have different operators for one value, but for `in` and `all`. -/
theorem eq_or_rivals {op op' : Operator} (hop : op.canonical = op) (hop' : op'.canonical = op')
    (hlist : op.takesList = true) (hlist' : op'.takesList = true)
    (h : op.forOneValue = op'.forOneValue) :
    op = op' ∨ op.forOneValue = .eq ∧
      (op = .within false ∧ op' = .all false ∨ op = .all false ∧ op' = .within false) := by
  rcases canonical_list_cases hop hlist with rfl | rfl | rfl | rfl | ⟨family, ignoreCase, rfl⟩ <;>
    rcases canonical_list_cases hop' hlist' with
      rfl | rfl | rfl | rfl | ⟨family', ignoreCase', rfl⟩ <;>
    simp_all [forOneValue]

end Operator

/-- What a group is settled into by itself, when `ops` are the operators of all groups of the
field. -/
def Group.reduced (ops : List Operator) (g : Group) : Group :=
  if g.1.takesList = true ∧ g.2.length = 1 ∧ g.1.forOneValue ∉ ops then (g.1.forOneValue, g.2)
  else g

namespace Filed

variable {l l' : List (Operator × String)}

/-! ### Groups -/

theorem mem_groups_iff {op : Operator} {texts : List String} :
    (op, texts) ∈ groups l ↔ (FieldConditions.join (Table.group l)).get? op = some texts := by
  rw [Table.get?_eq_some_iff, entries_join]

theorem canonical_of_mem_groups {g : Group} (hg : g ∈ groups l) : g.1.canonical = g.1 := by
  obtain ⟨op, hop, rfl⟩ := List.mem_map.1 hg
  obtain ⟨s, -, rfl⟩ := List.mem_map.1 (List.mem_eraseDups.1 hop)
  exact Operator.canonical_canonical s

theorem share_congr (h : l.Perm l') : share l = share l' := by
  funext e
  have hlength : (textsUnder l e.1).length = (textsUnder l' e.1).length :=
    ((h.filter _).map _).length_eq
  rw [share, share, hlength]

theorem perm_operators (h : l.Perm l') :
    ((spellings l).map Operator.canonical).eraseDups.Perm
      ((spellings l').map Operator.canonical).eraseDups :=
  perm_eraseDups ((perm_eraseDups (h.map _)).map _)

theorem perm_texts_congr (h : l.Perm l') (op : Operator) :
    (((spellings l).filter fun s => s.canonical = op).flatMap (piecesUnder l)).Perm
      (((spellings l').filter fun s => s.canonical = op).flatMap (piecesUnder l')) := by
  refine (perm_texts l op).trans (.trans ?_ (perm_texts l' op).symm)
  rw [share_congr h]
  exact (h.filter _).flatMap_right _

/-- The groups of a field do not depend on the order, up to order. -/
theorem reordered_groups (h : l.Perm l') :
    Reordered Group.SameUpToOrder (groups l) (groups l') := by
  refine ⟨_, (perm_operators h).map _, ?_⟩
  rw [groups, List.forall₂_map_left_iff, List.forall₂_map_right_iff, List.forall₂_same]
  exact fun op _ => ⟨rfl, perm_texts_congr h op⟩

theorem exists_group (h : l.Perm l') {g : Group} (hg : g ∈ groups l) :
    ∃ g' ∈ groups l', g.SameUpToOrder g' := by
  obtain ⟨op, hop, rfl⟩ := List.mem_map.1 hg
  exact ⟨_, List.mem_map.2 ⟨op, (perm_operators h).mem_iff.1 hop, rfl⟩, rfl, perm_texts_congr h op⟩

theorem mem_map_fst_groups_congr (h : l.Perm l') (op : Operator) :
    op ∈ (groups l).map Prod.fst ↔ op ∈ (groups l').map Prod.fst := by
  simp only [groups, List.map_map, Function.comp_def, List.map_id']
  exact (perm_operators h).mem_iff

/-- Rivals remain rivals in any order. -/
theorem hasRivals_congr (h : l.Perm l')
    (hl : (FieldConditions.join (Table.group l)).HasRivals) :
    (FieldConditions.join (Table.group l')).HasRivals := by
  have hone {op : Operator} :
      ((FieldConditions.join (Table.group l)).get? op).map List.length = some 1 →
        ((FieldConditions.join (Table.group l')).get? op).map List.length = some 1 := by
    intro hlength
    obtain ⟨texts, htexts, hlength⟩ := Option.map_eq_some_iff.1 hlength
    obtain ⟨⟨op', texts'⟩, hg', hop, hperm⟩ := exists_group h (mem_groups_iff.2 htexts)
    obtain rfl : op = op' := hop
    rw [mem_groups_iff.1 hg', Option.map_some, ← hperm.length_eq, hlength]
  obtain ⟨hwithin, hall, heq⟩ := hl
  refine ⟨hone hwithin, hone hall, ?_⟩
  rw [Table.get?_eq_none_iff, Table.keys, entries_join] at heq ⊢
  exact mt (mem_map_fst_groups_congr h _).2 heq

/-! ### Settling -/

theorem map_length_get? {g : Group} (hg : g ∈ groups l) :
    ((FieldConditions.join (Table.group l)).get? g.1).map List.length = some g.2.length := by
  rw [mem_groups_iff.1 hg, Option.map_some]

/-- Without rivals no group has to look at what the groups before it have become. -/
theorem givesWay_iff (hl : ¬(FieldConditions.join (Table.group l)).HasRivals)
    {before after : List (Group × Group)} {g s : Group}
    (hsplit : settlements l = before ++ (g, s) :: after) :
    GivesWay ((groups l).map Prod.fst) before g ↔
      g.1.takesList = true ∧ g.2.length = 1 ∧ g.1.forOneValue ∉ (groups l).map Prod.fst := by
  have hgroups {x : Group × Group} (hx : x ∈ settlements l) : x.1 ∈ groups l :=
    map_fst_settlements l ▸ List.mem_map_of_mem hx
  constructor
  · exact fun h => ⟨h.1, h.2.1, h.2.2.1⟩
  · rintro ⟨hlist, hone, hnew⟩
    refine ⟨hlist, hone, hnew, fun e he hmoved hsame => hl ?_⟩
    -- an earlier group that has become the same operator is a rival
    have hg := hgroups (x := (g, s)) (hsplit ▸ List.mem_append_right _ List.mem_cons_self)
    have he' := hgroups (x := e) (hsplit ▸ List.mem_append_left _ he)
    have hne : e.1.1 ≠ g.1 := by
      have hnodup := nodup_map_fst_groups l
      rw [← map_fst_settlements, hsplit, List.map_map, List.map_append, List.nodup_append] at hnodup
      exact hnodup.2.2 _ (List.mem_map_of_mem he) _ List.mem_cons_self
    obtain ⟨first, rest, rfl⟩ := List.append_of_mem he
    rw [List.append_assoc, List.cons_append] at hsplit
    obtain ⟨hway, hop⟩ := ((isSettlement_settle l).operator hsplit).resolve_right
      fun h => hmoved h.2
    have hfor : e.1.1.forOneValue = g.1.forOneValue := hop.symm.trans hsame
    obtain heq | ⟨heq, hrivals⟩ := Operator.eq_or_rivals (canonical_of_mem_groups he')
      (canonical_of_mem_groups hg) hway.1 hlist hfor
    · exact absurd heq hne
    · have hnone : (FieldConditions.join (Table.group l)).get? .eq = none := by
        rw [Table.get?_eq_none_iff, Table.keys, entries_join]
        exact heq ▸ hway.2.2.1
      have hlength := map_length_get? hg
      have hlength' := map_length_get? he'
      rw [hone] at hlength
      rw [hway.2.1] at hlength'
      rcases hrivals with ⟨hwithin, hall⟩ | ⟨hall, hwithin⟩
      · exact ⟨hwithin ▸ hlength', hall ▸ hlength, hnone⟩
      · exact ⟨hwithin ▸ hlength, hall ▸ hlength', hnone⟩

/-- Without rivals each group is settled by itself. -/
theorem entries_settle (hl : ¬(FieldConditions.join (Table.group l)).HasRivals) :
    (FieldConditions.settle (Table.group l)).entries =
      (groups l).map (Group.reduced ((groups l).map Prod.fst)) := by
  have hreduced : ∀ x ∈ settlements l, x.2 = x.1.reduced ((groups l).map Prod.fst) := by
    rintro ⟨g, s⟩ hx
    obtain ⟨before, after, hsplit⟩ := List.append_of_mem hx
    have htexts : s.2 = g.2 := texts_eq hx
    rcases (isSettlement_settle l).operator hsplit with ⟨hway, hop⟩ | ⟨hway, hop⟩
    · rw [givesWay_iff hl hsplit] at hway
      rw [Group.reduced, if_pos hway]
      exact Prod.ext hop htexts
    · rw [givesWay_iff hl hsplit] at hway
      rw [Group.reduced, if_neg hway]
      exact Prod.ext hop htexts
  calc (FieldConditions.settle (Table.group l)).entries
      = (settlements l).map Prod.snd := (map_snd_settlements l).symm
    _ = (settlements l).map fun x => x.1.reduced ((groups l).map Prod.fst) :=
        List.map_congr_left hreduced
    _ = ((settlements l).map Prod.fst).map (Group.reduced ((groups l).map Prod.fst)) := by
        rw [List.map_map]
        rfl
    _ = (groups l).map (Group.reduced ((groups l).map Prod.fst)) := by rw [map_fst_settlements]

theorem sameUpToOrder_reduced {ops ops' : List Operator} (hops : ∀ op, op ∈ ops ↔ op ∈ ops')
    {g g' : Group} (h : g.SameUpToOrder g') :
    (g.reduced ops).SameUpToOrder (g'.reduced ops') := by
  obtain ⟨hop, htexts⟩ := h
  simp only [Group.reduced, hop, htexts.length_eq, hops]
  split
  · exact ⟨rfl, htexts⟩
  · exact ⟨hop, htexts⟩

/-- Without rivals the conditions of a field do not depend on the order, up to order. -/
theorem reordered_settle (h : l.Perm l')
    (hl : ¬(FieldConditions.join (Table.group l)).HasRivals) :
    Reordered Group.SameUpToOrder (FieldConditions.settle (Table.group l)).entries
      (FieldConditions.settle (Table.group l')).entries := by
  rw [entries_settle hl, entries_settle (mt (hasRivals_congr h.symm) hl)]
  exact (reordered_groups h).map fun _ _ =>
    sameUpToOrder_reduced (mem_map_fst_groups_congr h)

end Filed

/-! ### All fields -/

theorem perm_filedFor {ps qs : List Parameter} (h : ps.Perm qs) (field : String) :
    (filedFor ps field).Perm (filedFor qs field) :=
  ((h.filterMap _).filter _).map _

theorem HasNoRivals.not_hasRivals {ps : List Parameter} (hps : HasNoRivals ps) (field : String) :
    ¬(FieldConditions.join (Table.group (filedFor ps field))).HasRivals := by
  by_cases hfield : field ∈ filedFields ps
  · have hentries := entries_collect ps
    have hmem := List.mem_map_of_mem (f := fun field =>
      (field, Table.group (filedFor ps field))) hfield
    exact hps _ (hentries ▸ hmem)
  · rw [filedFor_eq_nil hfield]
    decide

/-- Two lists of one text are rivals, unless equality is asked for beside them. -/
example : ¬HasNoRivals [("a__in", "x"), ("a__all", "y")] ∧
    HasNoRivals [("a__in", "x"), ("a__all", "y"), ("a", "z")] := by
  decide

end DocQuery
