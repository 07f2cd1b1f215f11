import DocQuery.Proofs.Parameter.Filing

/-!
# How the conditions of a field are settled

The groups of a field, which are its texts under canonical operators, become its conditions one
after the other. Each keeps its texts and its place. A group gives way to its operator for one value
if it is a list of a single text, unless that operator is a group of the field itself or an earlier
group has given way to it. So no condition of a field ever takes the place of another one.

## Main definitions

* `GivesWay`: when a group gives way to its operator for one value.
* `IsSettlement`: what the groups of a field become.

## Main results

* `FieldConditions.isSettlement_reduce`: relabelling settles the groups.
* `fields_ofParameters_settled`: the conditions of all fields in closed form.
-/

namespace DocQuery

/-- An operator with the texts given to it. -/
abbrev Group := Operator × List String

/-- Whether a group gives way to its operator for one value. Here `ops` are the operators of all
groups of the field, and `before` pairs the earlier groups with what they have become. -/
def GivesWay (ops : List Operator) (before : List (Group × Group)) (g : Group) : Prop :=
  g.1.takesList = true ∧ g.2.length = 1 ∧ g.1.forOneValue ∉ ops ∧
    ∀ e ∈ before, e.2.1 ≠ e.1.1 → e.2.1 ≠ g.1.forOneValue

/-- What groups become, when `ops` are the operators of all groups of the field. -/
structure IsSettlement (ops : List Operator) (groups settled : List Group) : Prop where
  /-- Every group keeps its texts and its place. -/
  texts : settled.map Prod.snd = groups.map Prod.snd
  /-- A group gives way to its operator for one value exactly if it can. -/
  operator : ∀ {before after : List (Group × Group)} {g s : Group},
    groups.zip settled = before ++ (g, s) :: after →
      (GivesWay ops before g ∧ s.1 = g.1.forOneValue) ∨ (¬GivesWay ops before g ∧ s.1 = g.1)

namespace IsSettlement

variable {ops : List Operator} {groups settled : List Group}

theorem length_eq (h : IsSettlement ops groups settled) : settled.length = groups.length := by
  simpa only [List.length_map] using congrArg List.length h.texts

theorem map_snd_zip (h : IsSettlement ops groups settled) :
    (groups.zip settled).map Prod.snd = settled :=
  List.map_snd_zip (Nat.le_of_eq h.length_eq)

/-- What a group becomes has the operator of the group or one that no group of the field has. -/
theorem operator_eq_or (h : IsSettlement ops groups settled) {g s : Group}
    (hgs : (g, s) ∈ groups.zip settled) :
    s.1 = g.1 ∨ s.1 = g.1.forOneValue ∧ s.1 ∉ ops := by
  obtain ⟨before, after, hsplit⟩ := List.append_of_mem hgs
  rcases h.operator hsplit with ⟨hway, hs⟩ | ⟨-, hs⟩
  · exact Or.inr ⟨hs, hs ▸ hway.2.2.1⟩
  · exact Or.inl hs

theorem exists_of_mem_map_fst (h : IsSettlement ops groups settled) {op : Operator}
    (hop : op ∈ settled.map Prod.fst) : ∃ g s, (g, s) ∈ groups.zip settled ∧ s.1 = op := by
  rw [← h.map_snd_zip, List.map_map] at hop
  obtain ⟨⟨g, s⟩, hgs, rfl⟩ := List.mem_map.1 hop
  exact ⟨g, s, hgs, rfl⟩

end IsSettlement

namespace FieldConditions

/-- The relabelled conditions after some of the joined conditions. -/
def reduceOver (joined : FieldConditions) (es : List Group) : FieldConditions :=
  es.foldl (fun t e => t.put (relabel joined t e.1 e.2) e.2) .empty

theorem reduceOver_append_singleton (joined : FieldConditions) (es : List Group) (e : Group) :
    reduceOver joined (es ++ [e]) =
      (reduceOver joined es).put (relabel joined (reduceOver joined es) e.1 e.2) e.2 := by
  simp only [reduceOver, List.foldl_append, List.foldl_cons, List.foldl_nil]

variable {joined : FieldConditions}

/-- The next joined condition never meets the operator of an earlier one. -/
theorem relabel_notMem_keys {es rest : List Group} {e : Group}
    (hjoined : joined.entries = es ++ e :: rest) {t : FieldConditions}
    (ht : IsSettlement joined.keys es t.entries) : relabel joined t e.1 e.2 ∉ t.keys := by
  unfold relabel
  split
  · next hway => exact hway.2.2.2
  · intro hmem
    have he : e.1 ∈ joined.keys := by simp [Table.keys, hjoined]
    obtain ⟨g, s, hgs, hs⟩ := ht.exists_of_mem_map_fst hmem
    rcases ht.operator_eq_or hgs with hsame | ⟨-, hnew⟩
    · have hnodup := joined.nodup_keys
      rw [hjoined, List.map_append, List.nodup_append] at hnodup
      have hg : g.1 ∈ es.map Prod.fst := List.mem_map.2 ⟨g, (List.of_mem_zip hgs).1, rfl⟩
      exact hnodup.2.2 _ hg _ (List.mem_map.2 ⟨e, List.mem_cons_self, rfl⟩) (hsame.symm.trans hs)
    · exact hnew (hs ▸ he)

/-- The condition for relabelling is that the group gives way. -/
theorem relabel_eq {es : List Group} (hes : ∀ g ∈ es, g.1 ∈ joined.keys) {t : FieldConditions}
    (ht : IsSettlement joined.keys es t.entries) (e : Group) :
    (GivesWay joined.keys (es.zip t.entries) e ∧ relabel joined t e.1 e.2 = e.1.forOneValue) ∨
      (¬GivesWay joined.keys (es.zip t.entries) e ∧ relabel joined t e.1 e.2 = e.1) := by
  have hiff : GivesWay joined.keys (es.zip t.entries) e ↔
      e.2.length = 1 ∧ e.1.takesList = true ∧ e.1.forOneValue ∉ joined.keys ∧
        e.1.forOneValue ∉ t.keys := by
    constructor
    · rintro ⟨hlist, hone, hops, hbefore⟩
      refine ⟨hone, hlist, hops, fun hmem => ?_⟩
      obtain ⟨g, s, hgs, hs⟩ := ht.exists_of_mem_map_fst hmem
      have hg := hes g (List.of_mem_zip hgs).1
      exact hbefore _ hgs (fun hsame => hops (hs ▸ hsame ▸ hg)) hs
    · rintro ⟨hone, hlist, hops, hkeys⟩
      refine ⟨hlist, hone, hops, fun x hx _ hs => hkeys ?_⟩
      exact List.mem_map.2 ⟨x.2, (List.of_mem_zip hx).2, hs⟩
  unfold relabel
  by_cases hway : GivesWay joined.keys (es.zip t.entries) e
  · exact Or.inl ⟨hway, if_pos (hiff.1 hway)⟩
  · exact Or.inr ⟨hway, if_neg (mt hiff.2 hway)⟩

theorem isSettlement_reduceOver (es : List Group) :
    ∀ rest, joined.entries = es ++ rest →
      IsSettlement joined.keys es (reduceOver joined es).entries := by
  induction es using List.reverseRecOn with
  | nil => exact fun _ _ => ⟨rfl, fun h => by simp at h⟩
  | append_singleton es e ih =>
    intro rest hjoined
    rw [List.append_assoc, List.singleton_append] at hjoined
    have ht := ih _ hjoined
    have hes : ∀ g ∈ es, g.1 ∈ joined.keys := fun g hg =>
      List.mem_map.2 ⟨g, hjoined ▸ List.mem_append_left _ hg, rfl⟩
    rw [reduceOver_append_singleton, Table.entries_put_of_notMem (relabel_notMem_keys hjoined ht)]
    refine ⟨by rw [List.map_append, List.map_append, ht.texts]; rfl, fun {before after g s} h => ?_⟩
    rw [List.zip_append ht.length_eq.symm] at h
    -- the pair in question is the new one or stands before it
    rcases List.eq_nil_or_concat after with rfl | ⟨after, x, rfl⟩
    · obtain ⟨rfl, hlast⟩ := List.append_inj' h rfl
      obtain ⟨rfl, rfl⟩ : e = g ∧ _ = s := by simpa using hlast
      exact relabel_eq hes ht e
    · rw [List.concat_eq_append, ← List.cons_append, ← List.append_assoc] at h
      exact ht.operator (List.append_inj' h rfl).1

/-- Relabelling settles the joined conditions. -/
theorem isSettlement_reduce (joined : FieldConditions) :
    IsSettlement joined.keys joined.entries joined.reduce.entries :=
  isSettlement_reduceOver joined.entries [] (List.append_nil _).symm

end FieldConditions

/-- Settling what is filed for a field settles its groups. -/
theorem Filed.isSettlement_settle (l : List (Operator × String)) :
    IsSettlement ((groups l).map Prod.fst) (groups l)
      (FieldConditions.settle (Table.group l)).entries := by
  have h := FieldConditions.isSettlement_reduce (FieldConditions.join (Table.group l))
  rw [Table.keys, entries_join] at h
  exact h

theorem entries_fields_ofParameters (ps : List Parameter) :
    (Gathered.ofParameters ps).fields.entries = (filedFields ps).map fun field =>
      (field, FieldConditions.settle (Table.group (filedFor ps field))) := by
  simp only [Gathered.ofParameters, Table.mapValues, entries_collect, List.map_map]
  rfl

theorem filedFor_eq_nil {ps : List Parameter} {field : String} (h : field ∉ filedFields ps) :
    filedFor ps field = [] := by
  have hnone : ((filings ps).filter fun f => f.1 = field) = [] := by
    refine List.filter_eq_nil_iff.2 fun f hf hfield => h ?_
    exact List.mem_eraseDups.2 (List.mem_map.2 ⟨f, hf, of_decide_eq_true hfield⟩)
  rw [filedFor, hnone, List.map_nil]

/-- The conditions of one field settle what is filed for it. -/
theorem entries_get?_fields_ofParameters (ps : List Parameter) (field : String) :
    ((Gathered.ofParameters ps).fields.get? field).elim [] Table.entries =
      (FieldConditions.settle (Table.group (filedFor ps field))).entries := by
  have hentries := entries_fields_ofParameters ps
  by_cases hfield : field ∈ filedFields ps
  · have hmem := List.mem_map_of_mem (f := fun field =>
      (field, FieldConditions.settle (Table.group (filedFor ps field)))) hfield
    rw [← hentries, ← Table.get?_eq_some_iff] at hmem
    rw [hmem, Option.elim_some]
  · have hkeys : field ∉ (Gathered.ofParameters ps).fields.keys := by
      rw [Table.keys, hentries, List.map_map]
      simpa using hfield
    rw [Table.get?_eq_none_iff.2 hkeys, filedFor_eq_nil hfield]
    rfl

/-- The conditions of all fields in closed form. The fields are those for which something is filed,
in order of first occurrence, and the conditions of a field settle its groups. The texts of a field
are what its parameters have filed, so that none is lost, doubled or moved to another field. -/
theorem fields_ofParameters_settled (ps : List Parameter) :
    List.Forall₂ (fun field e => e.1 = field ∧
        IsSettlement ((Filed.groups (filedFor ps field)).map Prod.fst)
          (Filed.groups (filedFor ps field)) e.2.entries ∧
        (e.2.entries.flatMap Prod.snd).Perm
          ((filedFor ps field).flatMap (Filed.share (filedFor ps field))))
      (filedFields ps) (Gathered.ofParameters ps).fields.entries := by
  rw [entries_fields_ofParameters, List.forall₂_map_right_iff, List.forall₂_same]
  intro field _
  have hsettled := Filed.isSettlement_settle (filedFor ps field)
  refine ⟨rfl, hsettled, ?_⟩
  rw [List.flatMap_def, hsettled.texts]
  exact Filed.perm_flatten_groups _

/-- Of two lists of one text the first gives way to equality, and the second keeps its operator. -/
example : ((Gathered.ofParameters [("a__in", "x"), ("a__all[]", "y,z")]).fields.get? "a").map
    Table.entries = some [(.eq, ["x"]), (.all false, ["y,z"])] := by
  decide

end DocQuery
