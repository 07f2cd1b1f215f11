import DocQuery.Proofs.Parameter.Alike
import DocQuery.Proofs.Parameter.Name

/-!
# Spellings of a list

A list of texts for a field can be written in several ways: as one parameter in which the texts are
joined by commas, as one parameter for each text, or as one parameter for each text whose operator
is spelled with brackets; `tag[]` is short for `tag__[]`. All of these put the same texts under the
same canonical operator. Parameters for other fields, for other operators of the field and for
directives may stand around them, and are read as before.

## Main definitions

* `SpellsList`: the spellings of a list of texts.
* `GivesTexts`: what the parameters of such a spelling have in common.

## Main results

* `IsPlainPath.filing?_mark`, `IsPlainPath.filing?_brackets`: what a parameter of a spelling files.
* `Filed.groups_eq`: the groups of a field, each from what is filed for its operator alone.
* `readAlike_of_givesTexts`: parameters that give the same texts are read alike.
-/

namespace DocQuery

/-! ### Parameters that name a plain path -/

namespace IsPlainPath

variable {field : String}

/-- A parameter whose key joins a path and an operator files its text for them. -/
theorem filing?_mark (h : IsPlainPath field) (op : Operator) (text : String) :
    filing? (field ++ "__" ++ op.text, text) = some (field, op, text) := by
  have hkey := h.isNameOf.not_isDirectiveKey_append ("__" ++ op.text)
  rw [← String.append_assoc] at hkey
  exact filing?_eq_some_iff.2 ⟨hkey, h.isNameOf.ofString_mark op.text, rfl⟩

/-- Brackets behind a path stand for the list operator. -/
theorem filing?_brackets (h : IsPlainPath field) (text : String) :
    filing? (field ++ "[]", text) = some (field, .within true, text) :=
  filing?_eq_some_iff.2
    ⟨h.isNameOf.not_isDirectiveKey_append "[]", h.isNameOf.ofString_brackets, rfl⟩

end IsPlainPath

/-! ### One operator among others -/

namespace Filed

/-- The texts of all spellings, one spelling after the other. -/
def joined (l : List (Operator × String)) : List String := (spellings l).flatMap (piecesUnder l)

/-- The groups of a field: under each canonical operator stands what its own spellings join. -/
theorem groups_eq (l : List (Operator × String)) :
    groups l = (l.map fun e => e.1.canonical).eraseDups.map fun op =>
      (op, joined (l.filter fun e => e.1.canonical = op)) := by
  have hops : ((spellings l).map Operator.canonical).eraseDups =
      (l.map fun e => e.1.canonical).eraseDups := by
    rw [spellings, eraseDups_map_eraseDups, List.map_map]
    rfl
  rw [groups, hops]
  refine List.map_congr_left fun op _ => congrArg (Prod.mk op) ?_
  have hspellings : spellings (l.filter fun e => e.1.canonical = op) =
      (spellings l).filter fun s => s.canonical = op := by
    rw [spellings, spellings, ← eraseDups_filter, List.filter_map]
    rfl
  rw [joined, hspellings]
  refine List.flatMap_congr fun s hs => ?_
  have hs' : s.canonical = op := by simpa using (List.mem_filter.1 hs).2
  have htexts : textsUnder (l.filter fun e => e.1.canonical = op) s = textsUnder l s := by
    rw [textsUnder, textsUnder, List.filter_filter]
    congr 1
    refine List.filter_congr fun e _ => ?_
    by_cases he : e.1 = s <;> simp [he, hs']
  rw [piecesUnder, piecesUnder, htexts]

/-- What is filed under one spelling is joined to its texts, cut if the spelling asks for it. -/
theorem joined_map_pair {s : Operator} {given : List String} (hne : given ≠ []) :
    joined (given.map fun t => (s, t)) = FieldConditions.splitTexts s given := by
  have hspellings : spellings (given.map fun t => (s, t)) = [s] := by
    refine eraseDups_eq_singleton (by simpa using hne) fun op hop => ?_
    rw [List.map_map] at hop
    obtain ⟨t, -, rfl⟩ := List.mem_map.1 hop
    rfl
  have htexts : textsUnder (given.map fun t => (s, t)) s = given := by
    simp [textsUnder, List.filter_map, Function.comp_def]
  rw [joined, hspellings, List.flatMap_singleton, ← splitTexts_textsUnder, htexts]

variable {before after l l' : List (Operator × String)} {op : Operator}

/-- The groups stay the same when all that is filed for one operator is replaced by something else
for the same operator that joins to the same texts. -/
theorem groups_append_congr (hl : l ≠ [] ∧ ∀ e ∈ l, e.1.canonical = op)
    (hl' : l' ≠ [] ∧ ∀ e ∈ l', e.1.canonical = op)
    (hfree : ∀ e ∈ before ++ after, e.1.canonical ≠ op) (hjoined : joined l = joined l') :
    groups (before ++ l ++ after) = groups (before ++ l' ++ after) := by
  have hone {b : List (Operator × String)} (hb : b ≠ [] ∧ ∀ e ∈ b, e.1.canonical = op) :
      (b.map fun e => e.1.canonical).eraseDups = [op] :=
    eraseDups_eq_singleton (by simpa using hb.1) fun _ h => by
      obtain ⟨e, he, rfl⟩ := List.mem_map.1 h
      exact hb.2 e he
  have hops : ((before ++ l ++ after).map fun e => e.1.canonical).eraseDups =
      ((before ++ l' ++ after).map fun e => e.1.canonical).eraseDups := by
    simp only [List.map_append]
    refine eraseDups_append_congr (eraseDups_append_congr rfl ?_) rfl
    rw [hone hl, hone hl']
  rw [groups_eq, groups_eq, hops]
  refine List.map_congr_left fun op' _ => congrArg (Prod.mk op') ?_
  simp only [List.filter_append]
  by_cases hop' : op' = op
  · -- only the block has the operator
    subst hop'
    have hnone {b : List (Operator × String)} (hb : b ⊆ before ++ after) :
        b.filter (fun e => e.1.canonical = op') = [] :=
      List.filter_eq_nil_iff.2 fun e he => by simpa using hfree e (hb he)
    have hall {b : List (Operator × String)} (hb : b ≠ [] ∧ ∀ e ∈ b, e.1.canonical = op') :
        b.filter (fun e => e.1.canonical = op') = b :=
      List.filter_eq_self.2 fun e he => decide_eq_true (hb.2 e he)
    rw [hnone (List.subset_append_left before after), hnone (List.subset_append_right before after),
      hall hl, hall hl']
    simpa using hjoined
  · have hnone {b : List (Operator × String)} (hb : b ≠ [] ∧ ∀ e ∈ b, e.1.canonical = op) :
        b.filter (fun e => e.1.canonical = op') = [] :=
      List.filter_eq_nil_iff.2 fun e he => by simpa [hb.2 e he] using Ne.symm hop'
    rw [hnone hl, hnone hl']

end Filed

/-! ### Texts given to one operator -/

/-- Whether parameters give texts to an operator of a field: all of them file something for the
field under one spelling of the operator, and these are the texts once they are cut. -/
def GivesTexts (field : String) (op : Operator) (texts : List String) (qs : List Parameter) :
    Prop :=
  ∃ (s : Operator) (given : List String), given ≠ [] ∧ s.canonical = op ∧
    FieldConditions.splitTexts s given = texts ∧
    qs.map filing? = given.map fun t => some (field, s, t)

namespace GivesTexts

variable {field : String} {op : Operator} {texts : List String} {qs : List Parameter}

/-- What such parameters file. -/
theorem exists_filings (h : GivesTexts field op texts qs) : ∃ l : List (Operator × String),
    filings qs = l.map (fun e => (field, e)) ∧ l ≠ [] ∧ (∀ e ∈ l, e.1.canonical = op) ∧
      Filed.joined l = texts := by
  obtain ⟨s, given, hne, hop, htexts, hqs⟩ := h
  refine ⟨given.map fun t => (s, t), ?_, by simpa using hne, by simpa using fun _ _ => hop, ?_⟩
  · have hfilings : filings qs = (qs.map filing?).filterMap id := by
      rw [filings, List.filterMap_map, Function.id_comp]
    rw [hfilings, hqs]
    simp [List.filterMap_map, Function.comp_def]
  · rw [Filed.joined_map_pair hne, htexts]

theorem isSome_filing? (h : GivesTexts field op texts qs) {q : Parameter} (hq : q ∈ qs) :
    (filing? q).isSome = true := by
  obtain ⟨s, given, -, -, -, hqs⟩ := h
  have hmem : filing? q ∈ given.map fun t => some (field, s, t) := hqs ▸ List.mem_map_of_mem hq
  obtain ⟨t, -, ht⟩ := List.mem_map.1 hmem
  rw [← ht]
  rfl

theorem directiveTexts_eq_nil (h : GivesTexts field op texts qs) (name : String) :
    directiveTexts qs name = [] := by
  refine DocQuery.directiveTexts_eq_nil (fun q hq => ?_) name
  obtain ⟨f, hf⟩ := Option.isSome_iff_exists.1 (h.isSome_filing? hq)
  exact (filing?_eq_some_iff.1 hf).1

theorem filterMap_unknownOperator?_eq_nil (h : GivesTexts field op texts qs) :
    qs.filterMap unknownOperator? = [] := by
  refine List.filterMap_eq_nil_iff.2 fun q hq => ?_
  have hfiled := h.isSome_filing? hq
  rcases directive_or_unknown_or_filed q with ⟨-, -, hnone⟩ | ⟨-, -, hnone⟩ | ⟨-, hunknown, -⟩
  · simp [hnone] at hfiled
  · simp [hnone] at hfiled
  · exact hunknown

end GivesTexts

variable {before after qs qs' : List Parameter} {field : String} {op : Operator}
  {texts : List String}

/-- Parameters that give the same texts to an operator of a field are read alike where no other
parameter files anything for that operator of the field. -/
theorem readAlike_of_givesTexts
    (hfree : ∀ f ∈ filings (before ++ after), f.1 = field → f.2.1.canonical ≠ op)
    (h : GivesTexts field op texts qs) (h' : GivesTexts field op texts qs') :
    ReadAlike (before ++ qs ++ after) (before ++ qs' ++ after) := by
  obtain ⟨l, hl, hne, hop, hjoined⟩ := h.exists_filings
  obtain ⟨l', hl', hne', hop', hjoined'⟩ := h'.exists_filings
  refine ⟨?_, fun field' => ?_, fun name _ => ?_⟩
  · have hone {b : List (Operator × String)} (hb : b ≠ []) :
        ((b.map fun e => (field, e)).map Prod.fst).eraseDups = [field] :=
      eraseDups_eq_singleton (by simpa using hb) fun f hf => by
        rw [List.map_map] at hf
        obtain ⟨e, -, rfl⟩ := List.mem_map.1 hf
        rfl
    simp only [filedFields, filings_append, List.map_append, hl, hl']
    refine eraseDups_append_congr (eraseDups_append_congr rfl ?_) rfl
    rw [hone hne, hone hne']
  · have hblock {ps : List Parameter} {b : List (Operator × String)}
        (hps : filings ps = b.map fun e => (field, e)) :
        filedFor ps field' = if field = field' then b else [] := by
      rw [filedFor, hps]
      split <;> simp [*, List.filter_map, Function.comp_def]
    simp only [filedFor_append, hblock hl, hblock hl']
    split
    · next hfield =>
      subst hfield
      refine Filed.groups_append_congr ⟨hne, hop⟩ ⟨hne', hop'⟩ (fun e he => ?_)
        (hjoined.trans hjoined'.symm)
      rw [← filedFor_append] at he
      exact hfree _ (mem_filedFor_iff.1 he) rfl
    · rfl
  · simp only [directiveTexts, List.filterMap_append]
    have hnone := h.directiveTexts_eq_nil name
    have hnone' := h'.directiveTexts_eq_nil name
    rw [directiveTexts] at hnone hnone'
    rw [hnone, hnone']

/-! ### Spellings -/

/-- The spellings of a list of texts for a canonical operator of a field. -/
inductive SpellsList (field : String) (op : Operator) (texts : List String) :
    List Parameter → Prop
  /-- One parameter, in which the texts are joined by commas. -/
  | joined : SpellsList field op texts [(field ++ "__" ++ op.text, ",".intercalate texts)]
  /-- A parameter for each text. -/
  | repeated : SpellsList field op texts (texts.map fun t => (field ++ "__" ++ op.text, t))
  /-- A parameter for each text, whose operator is spelled with brackets. -/
  | bracket {b : Operator} (hb : b.isBracket = true) (hop : b.canonical = op) :
      SpellsList field op texts (texts.map fun t => (field ++ "__" ++ b.text, t))
  /-- A parameter for each text, with brackets behind the path. -/
  | suffix (hop : op = .within false) :
      SpellsList field op texts (texts.map fun t => (field ++ "[]", t))

/-- Texts that are free of commas, or given to a spelling that asks for no cutting, stay as they
are. -/
theorem splitTexts_eq_self {s : Operator}
    (h : s.splitsCommas = true → ∀ t ∈ texts, ',' ∉ t.toList) :
    FieldConditions.splitTexts s texts = texts := by
  match texts with
  | [] => rfl
  | [t] =>
    simp only [FieldConditions.splitTexts]
    split
    · next hsplit => exact Text.commaPieces_eq_singleton (h hsplit t List.mem_cons_self)
    · rfl
  | _ :: _ :: _ => rfl

/-- Every spelling of a list gives its texts. -/
theorem SpellsList.givesTexts (hfield : IsPlainPath field) (hop : op.splitsCommas = true)
    (hne : texts ≠ []) (htexts : ∀ t ∈ texts, ',' ∉ t.toList) (h : SpellsList field op texts qs) :
    GivesTexts field op texts qs := by
  cases h with
  | joined =>
    refine ⟨op, [",".intercalate texts], List.cons_ne_nil _ _,
      Operator.canonical_eq_self hop, ?_, ?_⟩
    · simp [FieldConditions.splitTexts, hop, Text.commaPieces_intercalate hne htexts]
    · simp [hfield.filing?_mark]
  | repeated =>
    refine ⟨op, texts, hne, Operator.canonical_eq_self hop,
      splitTexts_eq_self fun _ => htexts, ?_⟩
    simp [hfield.filing?_mark]
  | @bracket b hb hb' =>
    refine ⟨b, texts, hne, hb', splitTexts_eq_self fun hsplit => ?_, ?_⟩
    · simp [Operator.splitsCommas, hb] at hsplit
    · simp [hfield.filing?_mark]
  | suffix hwithin =>
    refine ⟨.within true, texts, hne, hwithin.symm, splitTexts_eq_self fun hsplit => ?_, ?_⟩
    · simp [Operator.splitsCommas, Operator.isBracket] at hsplit
    · simp [hfield.filing?_brackets]

end DocQuery
