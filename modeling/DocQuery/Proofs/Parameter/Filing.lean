import DocQuery.Parameter.Conditions
import DocQuery.Proofs.Table
import Mathlib.Data.List.Perm.Basic
import Mathlib.Data.List.Forall2

/-!
# What parameters file

A parameter whose key is no directive and whose operator is in the vocabulary files its text, for a
field, under the spelling of an operator. The texts of a field under one spelling are cut at commas
if there is just one of them and the spelling asks for it; the spellings of one operator are then
taken together. The tables of `Gathered.collect` and `FieldConditions.join` hold exactly what is
filed, in the order in which fields, spellings and operators first occur.

## Main definitions

* `filing?`, `filings`: what one parameter, or each parameter of a list, files.
* `filedFields`, `filedFor`: the fields for which something is filed, and what is filed for a field.
* `Filed.groups`: the texts of a field under canonical operators.

## Main results

* `filing?_eq_some_iff`: when a parameter files a text.
* `entries_collect`, `Filed.entries_join`: the tables hold what is filed.
* `Filed.perm_texts`, `Filed.perm_flatten_groups`: joining spellings loses and adds no text.
-/

namespace DocQuery

/-- Whether a key is that of a directive: it begins with a doubled underscore. -/
def IsDirectiveKey (key : String) : Prop := ['_', '_'] <+: key.toList

instance (key : String) : Decidable (IsDirectiveKey key) :=
  inferInstanceAs (Decidable (_ <+: _))

theorem isDirectiveKey_directiveKey (name : String) : IsDirectiveKey (directiveKey name) :=
  ⟨name.toList, by simp [directiveKey]⟩

/-- Parameters that are no directives give no text to any directive. -/
theorem directiveTexts_eq_nil {ps : List Parameter} (hps : ∀ p ∈ ps, ¬IsDirectiveKey p.1)
    (name : String) : directiveTexts ps name = [] := by
  refine List.filterMap_eq_nil_iff.2 fun p hp => if_neg fun hkey => hps p hp ?_
  exact hkey ▸ isDirectiveKey_directiveKey name

/-- The field, the spelling of the operator and the text that a parameter files. A directive files
nothing, nor does a parameter whose operator is outside the vocabulary. -/
def filing? (p : Parameter) : Option (String × Operator × String) :=
  if IsDirectiveKey p.1 then none
  else (Operator.ofText? (Key.ofString p.1).operator).map fun op =>
    ((Key.ofString p.1).field, op, p.2)

theorem isSome_directiveName?_iff (key : String) :
    (directiveName? key).isSome = true ↔ IsDirectiveKey key := by
  unfold directiveName? IsDirectiveKey
  constructor
  · intro h
    split at h
    · next name e => exact ⟨name, e.symm⟩
    · cases h
  · rintro ⟨name, e⟩
    rw [← e]
    rfl

theorem condition?_ofParameter (p : Parameter) :
    (Contribution.ofParameter p).condition? = filing? p := by
  unfold Contribution.ofParameter filing?
  by_cases h : IsDirectiveKey p.1
  · rw [if_pos h, if_pos ((isSome_directiveName?_iff _).2 h)]
    rfl
  · rw [if_neg h, if_neg (mt (isSome_directiveName?_iff _).1 h)]
    dsimp only
    cases Operator.ofText? (Key.ofString p.1).operator <;> rfl

theorem Operator.ofText?_eq_some_iff {text : String} {op : Operator} :
    Operator.ofText? text = some op ↔ op.text = text := by
  constructor
  · intro h
    simpa only [decide_eq_true_eq] using List.find?_some h
  · rintro rfl
    exact Operator.ofText?_text op

/-- Different operators have different texts. -/
theorem Operator.text_inj {op op' : Operator} : op.text = op'.text ↔ op = op' := by
  refine ⟨fun h => ?_, fun h => h ▸ rfl⟩
  exact Option.some.inj ((Operator.ofText?_text op).symm.trans (h ▸ Operator.ofText?_text op'))

/-- A parameter files its text under the field and the operator that its key names. -/
theorem filing?_eq_some_iff {p : Parameter} {field text : String} {op : Operator} :
    filing? p = some (field, op, text) ↔
      ¬IsDirectiveKey p.1 ∧ Key.ofString p.1 = ⟨field, op.text⟩ ∧ p.2 = text := by
  unfold filing?
  by_cases h : IsDirectiveKey p.1
  · simp [h]
  · simp only [if_neg h, Option.map_eq_some_iff, Prod.mk.injEq, Operator.ofText?_eq_some_iff]
    constructor
    · rintro ⟨op', hop, hf, rfl, ht⟩
      exact ⟨h, by rw [hop, ← hf], ht⟩
    · rintro ⟨-, hk, ht⟩
      exact ⟨op, by rw [hk], by rw [hk], rfl, ht⟩

/-- What the parameters of a list file. -/
def filings (ps : List Parameter) : List (String × Operator × String) := ps.filterMap filing?

/-- The fields for which something is filed, in order of first occurrence. -/
def filedFields (ps : List Parameter) : List String := ((filings ps).map Prod.fst).eraseDups

/-- The spellings and texts that are filed for a field. -/
def filedFor (ps : List Parameter) (field : String) : List (Operator × String) :=
  ((filings ps).filter fun f => f.1 = field).map Prod.snd

theorem filings_append (ps qs : List Parameter) : filings (ps ++ qs) = filings ps ++ filings qs :=
  List.filterMap_append

theorem filedFor_append (ps qs : List Parameter) (field : String) :
    filedFor (ps ++ qs) field = filedFor ps field ++ filedFor qs field := by
  rw [filedFor, filings_append, List.filter_append, List.map_append, filedFor, filedFor]

theorem mem_filedFor_iff {ps : List Parameter} {field : String} {e : Operator × String} :
    e ∈ filedFor ps field ↔ (field, e) ∈ filings ps := by
  rw [filedFor, List.mem_map]
  constructor
  · rintro ⟨f, hf, rfl⟩
    obtain ⟨hmem, hfield⟩ := List.mem_filter.1 hf
    exact of_decide_eq_true hfield ▸ hmem
  · intro h
    exact ⟨(field, e), List.mem_filter.2 ⟨h, decide_eq_true rfl⟩, rfl⟩

/-- The table of all fields holds what is filed for each of them. -/
theorem entries_collect (ps : List Parameter) :
    (Gathered.collect ps).entries =
      (filedFields ps).map fun field => (field, Table.group (filedFor ps field)) := by
  have h : (ps.filterMap fun p => (Contribution.ofParameter p).condition?) = filings ps :=
    List.filterMap_congr fun p _ => condition?_ofParameter p
  simp only [Gathered.collect, h, Table.mapValues, Table.entries_group, List.map_map]
  rfl

namespace Filed

/-! ### One field -/

variable (l : List (Operator × String))

/-- The spellings under which texts are filed, in order of first occurrence. -/
def spellings : List Operator := (l.map Prod.fst).eraseDups

/-- The texts filed under a spelling, in order. -/
def textsUnder (op : Operator) : List String := (l.filter fun e => e.1 = op).map Prod.snd

/-- The texts that a spelling stands for: those filed under it, or the pieces between commas if
there is just one text and the spelling asks for it. -/
def piecesUnder (op : Operator) : List String :=
  if (textsUnder l op).length = 1 ∧ op.splitsCommas then
    (textsUnder l op).flatMap Text.commaPieces
  else textsUnder l op

/-- The texts under canonical operators: the operators in order of their first spelling, each with
the texts of its spellings, one spelling after the other. -/
def groups : List (Operator × List String) :=
  ((spellings l).map Operator.canonical).eraseDups.map fun op =>
    (op, ((spellings l).filter fun s => s.canonical = op).flatMap (piecesUnder l))

theorem splitTexts_textsUnder (op : Operator) :
    FieldConditions.splitTexts op (textsUnder l op) = piecesUnder l op := by
  unfold piecesUnder
  match textsUnder l op with
  | [] => simp [FieldConditions.splitTexts]
  | [text] => simp [FieldConditions.splitTexts]
  | _ :: _ :: _ => simp [FieldConditions.splitTexts]

theorem join_eq_accumulate (c : FieldConditions) :
    c.join = Table.accumulate (fun e => e.1.canonical)
      (fun e texts => texts.getD [] ++ FieldConditions.splitTexts e.1 e.2) c.entries :=
  rfl

/-- Joining the spellings of a field gives the texts under canonical operators. -/
theorem entries_join : (FieldConditions.join (Table.group l)).entries = groups l := by
  have hpieces : piecesUnder l = fun op => FieldConditions.splitTexts op (textsUnder l op) :=
    funext fun op => (splitTexts_textsUnder l op).symm
  rw [join_eq_accumulate, Table.entries_accumulate_append, Table.entries_group]
  simp only [groups, hpieces, List.map_map, List.filter_map, List.flatMap_map]
  rfl

theorem nodup_map_fst_groups : ((groups l).map Prod.fst).Nodup := by
  rw [← entries_join]
  exact (FieldConditions.join (Table.group l)).nodup_keys

/-! ### Nothing is lost -/

/-- What one filed text becomes: the text, or its pieces if it is the only text under its
spelling and the spelling asks for them. -/
def share (e : Operator × String) : List String :=
  if (textsUnder l e.1).length = 1 ∧ e.1.splitsCommas then Text.commaPieces e.2 else [e.2]

theorem share_ne_nil (e : Operator × String) : share l e ≠ [] := by
  unfold share
  split
  · rw [Text.commaPieces, ne_eq, List.map_eq_nil_iff]
    exact Text.pieces_ne_nil _ _
  · exact List.cons_ne_nil _ _

theorem piecesUnder_eq (op : Operator) :
    piecesUnder l op = (l.filter fun e => e.1 = op).flatMap (share l) := by
  have hshare : ∀ e ∈ l.filter (fun e => e.1 = op), share l e =
      if (textsUnder l op).length = 1 ∧ op.splitsCommas then Text.commaPieces e.2 else [e.2] := by
    intro e he
    have : e.1 = op := by simpa using (List.mem_filter.1 he).2
    rw [share, this]
  rw [List.flatMap_congr hshare, piecesUnder]
  split
  · rw [textsUnder, List.flatMap_map]
  · rw [textsUnder, List.map_eq_flatMap]

/-- Under a canonical operator stands what is filed under its spellings, and nothing else. -/
theorem perm_texts (op : Operator) :
    (((spellings l).filter fun s => s.canonical = op).flatMap (piecesUnder l)).Perm
      ((l.filter fun e => e.1.canonical = op).flatMap (share l)) := by
  have hparts : ((spellings l).filter fun s => s.canonical = op).flatMap (piecesUnder l) =
      (((spellings l).filter fun s => s.canonical = op).flatMap fun s =>
        (l.filter fun e => e.1.canonical = op).filter fun e => e.1 = s).flatMap (share l) := by
    rw [List.flatMap_assoc]
    refine List.flatMap_congr fun s hs => ?_
    have hs' : s.canonical = op := by simpa using (List.mem_filter.1 hs).2
    rw [piecesUnder_eq, List.filter_filter]
    congr 1
    refine List.filter_congr fun e _ => ?_
    by_cases he : e.1 = s <;> simp [he, hs']
  rw [hparts]
  refine (perm_flatMap_filter Prod.fst ?_ _ fun e he => ?_).flatMap_right _
  · exact (nodup_eraseDups _).filter _
  · obtain ⟨hl, hop⟩ := List.mem_filter.1 he
    exact List.mem_filter.2 ⟨List.mem_eraseDups.2 (List.mem_map.2 ⟨e, hl, rfl⟩), hop⟩

/-- The canonical operators of a field have all that is filed for it, and nothing else. -/
theorem perm_flatten_groups :
    ((groups l).map Prod.snd).flatten.Perm (l.flatMap (share l)) := by
  have hops : ((spellings l).map Operator.canonical).eraseDups.Nodup := nodup_eraseDups _
  have hmem : ∀ e ∈ l, e.1.canonical ∈ ((spellings l).map Operator.canonical).eraseDups := by
    intro e he
    refine List.mem_eraseDups.2 (List.mem_map.2 ⟨e.1, ?_, rfl⟩)
    exact List.mem_eraseDups.2 (List.mem_map.2 ⟨e, he, rfl⟩)
  have hparts := (perm_flatMap_filter (fun e => e.1.canonical) hops l hmem).flatMap_right (share l)
  rw [List.flatMap_assoc] at hparts
  rw [groups, List.map_map, ← List.flatMap_def]
  exact (List.Perm.flatMap_left _ fun op _ => perm_texts l op).trans hparts

/-- Every canonical operator has a text. -/
theorem texts_ne_nil {g : Operator × List String} (hg : g ∈ groups l) : g.2 ≠ [] := by
  obtain ⟨op, hop, rfl⟩ := List.mem_map.1 hg
  obtain ⟨s, hs, rfl⟩ := List.mem_map.1 (List.mem_eraseDups.1 hop)
  obtain ⟨e, he, rfl⟩ := List.mem_map.1 (List.mem_eraseDups.1 hs)
  have hmem : e ∈ l.filter fun e' => e'.1.canonical = e.1.canonical :=
    List.mem_filter.2 ⟨he, decide_eq_true rfl⟩
  intro hnil
  have hperm := perm_texts l e.1.canonical
  dsimp only at hnil
  rw [hnil, List.nil_perm, List.flatMap_eq_nil_iff] at hperm
  exact share_ne_nil l e (hperm e hmem)

end Filed

end DocQuery
