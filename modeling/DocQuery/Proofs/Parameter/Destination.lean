import DocQuery.Proofs.Parameter.Settlement

/-!
# Where parameters go

Every parameter that files a text goes to one condition: that of its field with the operator into
which the group of its spelling has been settled. The texts of a condition are the shares of the
parameters that go to it.

## Main definitions

* `destination?`: the field and the operator of the condition to which a parameter goes.
* `shareOf`: what a parameter adds to the texts of that condition.
* `unknownOperator?`: the operator outside the vocabulary that a parameter names.

## Main results

* `Gathered.nodup_conditions`: no field has two conditions with one operator.
* `Gathered.texts_ne_nil`: every condition has a text.
* `countP_destination?`: a parameter that files a text goes to exactly one condition.
* `perm_texts_of_mem_conditions`: the texts of a condition.
-/

namespace DocQuery

/-! ### The conditions of a list of parameters -/

namespace Gathered

theorem nodup_conditions (g : Gathered) :
    (g.conditions.map fun cond => (cond.field, cond.operator)).Nodup := by
  rw [conditions, List.map_flatMap, List.nodup_flatMap]
  constructor
  · intro f _
    rw [List.map_map]
    refine List.Nodup.of_map Prod.snd ?_
    rw [List.map_map]
    exact f.2.nodup_keys
  · have hfields := g.fields.nodup_keys
    rw [List.Nodup, List.pairwise_map] at hfields
    refine hfields.imp fun {a b} hab => ?_
    intro x hx hx'
    simp only [List.map_map, List.mem_map, Function.comp_apply] at hx hx'
    obtain ⟨e, -, rfl⟩ := hx
    obtain ⟨e', -, he'⟩ := hx'
    exact hab (Prod.mk.inj he').1.symm

/-- The conditions of one field. -/
theorem filter_conditions (g : Gathered) (field : String) :
    (g.conditions.filter fun cond => cond.field = field) =
      ((g.fields.get? field).elim [] Table.entries).map fun e => ⟨field, e.1, e.2⟩ := by
  have h := g.fields.filter_flatMap_entries Condition.field
    (fun field c => c.entries.map fun e => ⟨field, e.1, e.2⟩)
    (fun k v cond hcond => by obtain ⟨e, -, rfl⟩ := List.mem_map.1 hcond; rfl) field
  rw [conditions, h]
  cases g.fields.get? field <;> rfl

/-- The conditions are those into which the groups of the fields have been settled. -/
theorem mem_conditions_iff {ps : List Parameter} {cond : Condition} :
    cond ∈ (ofParameters ps).conditions ↔ cond.field ∈ filedFields ps ∧
      (cond.operator, cond.texts) ∈
        (FieldConditions.settle (Table.group (filedFor ps cond.field))).entries := by
  rw [conditions, entries_fields_ofParameters]
  simp only [List.flatMap_map, List.mem_flatMap, List.mem_map]
  constructor
  · rintro ⟨field, hfield, e, he, rfl⟩
    exact ⟨hfield, he⟩
  · rintro ⟨hfield, he⟩
    exact ⟨cond.field, hfield, _, he, rfl⟩

theorem texts_ne_nil {ps : List Parameter} {cond : Condition}
    (h : cond ∈ (ofParameters ps).conditions) : cond.texts ≠ [] := by
  have hsettled := Filed.isSettlement_settle (filedFor ps cond.field)
  have htexts : cond.texts ∈ (Filed.groups (filedFor ps cond.field)).map Prod.snd :=
    hsettled.texts ▸ List.mem_map.2 ⟨_, (mem_conditions_iff.1 h).2, rfl⟩
  obtain ⟨g, hg, hgtexts⟩ := List.mem_map.1 htexts
  exact hgtexts ▸ Filed.texts_ne_nil _ hg

end Gathered

/-! ### The groups of one field -/

namespace Filed

variable (l : List (Operator × String))

/-- The groups of a field, each with what it is settled into. -/
def settlements : List (Group × Group) :=
  (groups l).zip (FieldConditions.settle (Table.group l)).entries

theorem map_fst_settlements : (settlements l).map Prod.fst = groups l :=
  List.map_fst_zip (Nat.le_of_eq (isSettlement_settle l).length_eq.symm)

theorem map_snd_settlements :
    (settlements l).map Prod.snd = (FieldConditions.settle (Table.group l)).entries :=
  (isSettlement_settle l).map_snd_zip

variable {l}

theorem eq_of_fst_eq {x y : Group × Group} (hx : x ∈ settlements l) (hy : y ∈ settlements l)
    (h : x.1.1 = y.1.1) : x = y := by
  have hnodup := nodup_map_fst_groups l
  rw [← map_fst_settlements, List.map_map] at hnodup
  exact List.inj_on_of_nodup_map hnodup hx hy h

theorem eq_of_snd_eq {x y : Group × Group} (hx : x ∈ settlements l) (hy : y ∈ settlements l)
    (h : x.2.1 = y.2.1) : x = y := by
  have hnodup := (FieldConditions.settle (Table.group l)).nodup_keys
  rw [← map_snd_settlements, List.map_map] at hnodup
  exact List.inj_on_of_nodup_map hnodup hx hy h

/-- A group keeps its texts. -/
theorem texts_eq {x : Group × Group} (hx : x ∈ settlements l) : x.2.2 = x.1.2 := by
  have htexts : (settlements l).map (fun y => y.2.2) = (settlements l).map fun y => y.1.2 := by
    have h := (isSettlement_settle l).texts
    rw [← map_fst_settlements l, ← map_snd_settlements l, List.map_map, List.map_map] at h
    exact h
  exact List.map_inj_left.1 htexts x hx

/-- The operator into which the group of a spelling is settled: the canonical operator, or its
operator for one value if the canonical operator is gone. -/
def settledOperator (l : List (Operator × String)) (spelling : Operator) : Operator :=
  if spelling.canonical ∈ (FieldConditions.settle (Table.group l)).keys then spelling.canonical
  else spelling.canonical.forOneValue

theorem settledOperator_eq {x : Group × Group} (hx : x ∈ settlements l) {spelling : Operator}
    (hspelling : spelling.canonical = x.1.1) : settledOperator l spelling = x.2.1 := by
  have hops : ∀ y ∈ settlements l, y.1.1 ∈ (groups l).map Prod.fst := by
    intro y hy
    rw [← map_fst_settlements, List.map_map]
    exact List.mem_map.2 ⟨y, hy, rfl⟩
  have hkey : x.2.1 ∈ (FieldConditions.settle (Table.group l)).keys := by
    rw [Table.keys, ← map_snd_settlements, List.map_map]
    exact List.mem_map.2 ⟨x, hx, rfl⟩
  unfold settledOperator
  rw [hspelling]
  rcases (isSettlement_settle l).operator_eq_or hx with hsame | ⟨hone, hnew⟩
  · rw [if_pos (hsame ▸ hkey), hsame]
  · rw [if_neg, hone]
    intro hmem
    obtain ⟨g, s, hgs, hs⟩ := (isSettlement_settle l).exists_of_mem_map_fst hmem
    -- no other group has been settled into the operator of this one
    rcases (isSettlement_settle l).operator_eq_or hgs with hsame' | ⟨-, hnew'⟩
    · have hxgs : x = (g, s) := eq_of_fst_eq hx hgs (hs.symm.trans hsame')
      have hkept : x.2.1 = x.1.1 := by rw [← hs, hxgs]
      rw [hkept] at hnew
      exact hnew (hops x hx)
    · exact hnew' (hs ▸ hops x hx)

theorem exists_settlement {spelling : Operator} (hspelling : spelling ∈ spellings l) :
    ∃ x ∈ settlements l, spelling.canonical = x.1.1 := by
  have hmem : spelling.canonical ∈ (groups l).map Prod.fst := by
    rw [groups, List.map_map]
    exact List.mem_map.2 ⟨_, List.mem_eraseDups.2 (List.mem_map.2 ⟨_, hspelling, rfl⟩), rfl⟩
  rw [← map_fst_settlements, List.map_map] at hmem
  obtain ⟨x, hx, hop⟩ := List.mem_map.1 hmem
  exact ⟨x, hx, hop.symm⟩

theorem settledOperator_eq_iff {x : Group × Group} (hx : x ∈ settlements l) {spelling : Operator}
    (hspelling : spelling ∈ spellings l) :
    settledOperator l spelling = x.2.1 ↔ spelling.canonical = x.1.1 := by
  refine ⟨fun h => ?_, settledOperator_eq hx⟩
  obtain ⟨y, hy, hop⟩ := exists_settlement hspelling
  have hyx : y = x := eq_of_snd_eq hy hx (by rw [← settledOperator_eq hy hop, h])
  rw [hop, hyx]

end Filed

/-! ### Parameters -/

variable (ps : List Parameter)

/-- The field and the operator of the condition to which a parameter goes. -/
def destination? (p : Parameter) : Option (String × Operator) :=
  (filing? p).map fun f => (f.1, Filed.settledOperator (filedFor ps f.1) f.2.1)

/-- What a parameter adds to the texts of its condition. -/
def shareOf (p : Parameter) : List String :=
  (filing? p).elim [] fun f => Filed.share (filedFor ps f.1) f.2

variable {ps}

theorem destination?_eq_none {p : Parameter} (h : filing? p = none) :
    destination? ps p = none := by
  rw [destination?, h]
  rfl

theorem shareOf_ne_nil {p : Parameter} (h : (filing? p).isSome) : shareOf ps p ≠ [] := by
  obtain ⟨f, hf⟩ := Option.isSome_iff_exists.1 h
  rw [shareOf, hf]
  exact Filed.share_ne_nil _ _

theorem mem_filings {p : Parameter} (hp : p ∈ ps) {f : String × Operator × String}
    (hf : filing? p = some f) : f ∈ filings ps :=
  List.mem_filterMap.2 ⟨p, hp, hf⟩

theorem mem_spellings {f : String × Operator × String} (hf : f ∈ filings ps) :
    f.2.1 ∈ Filed.spellings (filedFor ps f.1) := by
  have hfor : f.2 ∈ filedFor ps f.1 :=
    List.mem_map.2 ⟨f, List.mem_filter.2 ⟨hf, decide_eq_true rfl⟩, rfl⟩
  exact List.mem_eraseDups.2 (List.mem_map.2 ⟨f.2, hfor, rfl⟩)

/-- A parameter that files a text goes to exactly one condition. -/
theorem countP_destination? {p : Parameter} (hp : p ∈ ps) (hfiled : (filing? p).isSome) :
    (Gathered.ofParameters ps).conditions.countP
      (fun cond => destination? ps p = some (cond.field, cond.operator)) = 1 := by
  obtain ⟨f, hf⟩ := Option.isSome_iff_exists.1 hfiled
  have hfilings := mem_filings hp hf
  obtain ⟨x, hx, hop⟩ := Filed.exists_settlement (mem_spellings hfilings)
  have hmem : (f.1, Filed.settledOperator (filedFor ps f.1) f.2.1) ∈
      (Gathered.ofParameters ps).conditions.map fun cond => (cond.field, cond.operator) := by
    refine List.mem_map.2 ⟨⟨f.1, x.2.1, x.2.2⟩, Gathered.mem_conditions_iff.2 ⟨?_, ?_⟩, ?_⟩
    · exact List.mem_eraseDups.2 (List.mem_map.2 ⟨f, hfilings, rfl⟩)
    · rw [← Filed.map_snd_settlements]
      exact List.mem_map.2 ⟨x, hx, rfl⟩
    · rw [Filed.settledOperator_eq hx hop]
  have hone := List.count_eq_one_of_mem (Gathered.nodup_conditions _) hmem
  rw [List.count, List.countP_map] at hone
  rw [← hone]
  refine List.countP_congr fun cond _ => ?_
  simp only [destination?, hf, Option.map_some, Option.some.injEq, decide_eq_true_eq,
    Function.comp_apply, beq_iff_eq]
  exact eq_comm

theorem flatMap_filter_filing? (P : String × Operator × String → Bool)
    (h : String × Operator × String → List String) :
    (ps.filter fun p => (filing? p).any P).flatMap (fun p => (filing? p).elim [] h) =
      ((filings ps).filter P).flatMap h := by
  induction ps with
  | nil => rfl
  | cons p ps ih =>
    rw [filings, List.filterMap_cons, ← filings]
    cases hf : filing? p with
    | none => simpa [hf] using ih
    | some f => by_cases hP : P f = true <;> simp [hf, hP, ih]

/-- A parameter goes to a condition if its spelling belongs to the group that has been settled into
the condition. -/
theorem destination?_eq_some_iff {p : Parameter} (hp : p ∈ ps) {field : String}
    {x : Group × Group} (hx : x ∈ Filed.settlements (filedFor ps field)) :
    destination? ps p = some (field, x.2.1) ↔
      ∃ f, filing? p = some f ∧ f.1 = field ∧ f.2.1.canonical = x.1.1 := by
  simp only [destination?, Option.map_eq_some_iff, Prod.mk.injEq]
  constructor
  · rintro ⟨f, hf, rfl, hop⟩
    exact ⟨f, hf, rfl, (Filed.settledOperator_eq_iff hx (mem_spellings (mem_filings hp hf))).1 hop⟩
  · rintro ⟨f, hf, rfl, hop⟩
    exact ⟨f, hf, rfl, Filed.settledOperator_eq hx hop⟩

theorem filter_filedFor (field : String) (op : Operator) :
    ((filings ps).filter fun f => f.1 = field ∧ f.2.1.canonical = op).flatMap
        (fun f => Filed.share (filedFor ps f.1) f.2) =
      ((filedFor ps field).filter fun e => e.1.canonical = op).flatMap
        (Filed.share (filedFor ps field)) := by
  have hfilter : ((filings ps).filter fun f => f.1 = field ∧ f.2.1.canonical = op) =
      ((filings ps).filter fun f => f.1 = field).filter fun f => f.2.1.canonical = op := by
    rw [List.filter_filter]
    refine List.filter_congr fun f _ => ?_
    rw [Bool.decide_and, Bool.and_comm]
  rw [hfilter, filedFor, List.filter_map, List.flatMap_map]
  refine List.flatMap_congr fun f hf => ?_
  have hfield : f.1 = field := by
    simpa using (List.mem_filter.1 (List.mem_filter.1 hf).1).2
  rw [hfield]
  rfl

/-- The texts of a condition are the shares of the parameters that go to it. -/
theorem perm_texts_of_mem_conditions {cond : Condition}
    (hcond : cond ∈ (Gathered.ofParameters ps).conditions) :
    cond.texts.Perm ((ps.filter fun p =>
      destination? ps p = some (cond.field, cond.operator)).flatMap (shareOf ps)) := by
  obtain ⟨field, operator, texts⟩ := cond
  obtain ⟨-, hentry⟩ := Gathered.mem_conditions_iff.1 hcond
  rw [← Filed.map_snd_settlements] at hentry
  obtain ⟨x, hx, hentry⟩ := List.mem_map.1 hentry
  obtain ⟨rfl, rfl⟩ := Prod.mk.inj hentry
  have hgroup := List.mem_map_of_mem (f := Prod.fst) hx
  rw [Filed.map_fst_settlements] at hgroup
  obtain ⟨op, -, hop⟩ := List.mem_map.1 hgroup
  have hparameters : (ps.filter fun p => destination? ps p = some (field, x.2.1)) =
      ps.filter fun p => (filing? p).any fun f => f.1 = field ∧ f.2.1.canonical = op := by
    refine List.filter_congr fun p hp => ?_
    rw [Bool.eq_iff_iff, decide_eq_true_eq, destination?_eq_some_iff hp hx, ← hop]
    cases filing? p <;> simp
  have hshares : ((ps.filter fun p => destination? ps p = some (field, x.2.1)).flatMap
      (shareOf ps)) = ((filedFor ps field).filter fun e => e.1.canonical = op).flatMap
        (Filed.share (filedFor ps field)) := by
    rw [hparameters, ← filter_filedFor]
    exact flatMap_filter_filing? _ _
  rw [hshares, Filed.texts_eq hx, ← hop]
  exact Filed.perm_texts _ op

/-! ### Operators outside the vocabulary -/

/-- The field and the text of the operator of a parameter whose operator is outside the
vocabulary. -/
def unknownOperator? (p : Parameter) : Option (String × String) :=
  if ¬IsDirectiveKey p.1 ∧ Operator.ofText? (Key.ofString p.1).operator = none then
    some ((Key.ofString p.1).field, (Key.ofString p.1).operator)
  else none

theorem unknown?_ofParameter (p : Parameter) :
    (Contribution.ofParameter p).unknown? = unknownOperator? p := by
  unfold Contribution.ofParameter unknownOperator?
  by_cases h : IsDirectiveKey p.1
  · rw [if_pos ((isSome_directiveName?_iff _).2 h), if_neg fun hunknown => hunknown.1 h]
    rfl
  · rw [if_neg (mt (isSome_directiveName?_iff _).1 h)]
    dsimp only
    cases hop : Operator.ofText? (Key.ofString p.1).operator with
    | some op => simp [Contribution.unknown?]
    | none => simp [Contribution.unknown?, h]

theorem unknownOperators_eq (ps : List Parameter) :
    Gathered.unknownOperators ps = (ps.filterMap unknownOperator?).eraseDups := by
  rw [Gathered.unknownOperators, List.filterMap_congr fun p _ => unknown?_ofParameter p]

/-- A parameter is a directive, has an operator outside the vocabulary, or files a text. -/
theorem directive_or_unknown_or_filed (p : Parameter) :
    (IsDirectiveKey p.1 ∧ unknownOperator? p = none ∧ filing? p = none) ∨
      (¬IsDirectiveKey p.1 ∧ (unknownOperator? p).isSome ∧ filing? p = none) ∨
      (¬IsDirectiveKey p.1 ∧ unknownOperator? p = none ∧ (filing? p).isSome) := by
  unfold unknownOperator? filing?
  by_cases h : IsDirectiveKey p.1
  · exact Or.inl ⟨h, if_neg fun hunknown => hunknown.1 h, if_pos h⟩
  · cases hop : Operator.ofText? (Key.ofString p.1).operator with
    | none => exact Or.inr (Or.inl (by simp [h]))
    | some op => exact Or.inr (Or.inr (by simp [h]))

end DocQuery
