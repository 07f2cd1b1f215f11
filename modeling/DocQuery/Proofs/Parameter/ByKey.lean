import DocQuery.Parameter.Source
import DocQuery.Proofs.Parameter.Alike
import DocQuery.Proofs.Parameter.Locality

/-!
# Parameters key by key

A mapping holds the parameters of a list key by key. It keeps the order in which the keys first
occur and the order of the values of each key, and loses how the parameters of different keys
followed one another. This is enough to read the parameters as before, as long as no two keys name
the same operator of the same field; directives have one key each.

## Main definitions

* `SameByKey`: lists with the same keys and the same values under each key.
* `NamedOnce`: whether no two keys name the same operator of the same field.
* `Source.Holds`: the containers that hold the parameters of a list.

## Main results

* `readAlike_of_sameByKey`: lists that are the same key by key are read alike.
* `Source.Holds.sameByKey`: a container gives the parameters back, key by key.
-/

namespace DocQuery

/-- Whether two lists of pairs have the same keys, in order of first occurrence, and the same pairs
under each key, in order. -/
structure SameByKey {ν : Type} (ps qs : List (String × ν)) : Prop where
  /-- The keys are the same. -/
  keys : (ps.map Prod.fst).eraseDups = (qs.map Prod.fst).eraseDups
  /-- The pairs of every key are the same. -/
  pairs : ∀ key, ps.filter (fun p => p.1 = key) = qs.filter fun p => p.1 = key

/-- Whether no operator of a field is named by two different keys. -/
def NamedOnce (ps : List Parameter) : Prop :=
  ∀ p ∈ ps, ∀ q ∈ ps, ¬IsDirectiveKey p.1 → ¬IsDirectiveKey q.1 →
    Key.ofString p.1 = Key.ofString q.1 → p.1 = q.1

instance (ps : List Parameter) : Decidable (NamedOnce ps) :=
  inferInstanceAs (Decidable (∀ p ∈ ps, ∀ q ∈ ps, _ → _ → _ → _))

/-! ### What parameters file, by their keys -/

/-- The field and the operator for which the parameters of a key file their texts. -/
def namedBy? (key : String) : Option (String × Operator) :=
  (filing? (key, "")).map fun f => (f.1, f.2.1)

theorem filing?_eq_map (p : Parameter) :
    filing? p = (namedBy? p.1).map fun n => (n.1, n.2, p.2) := by
  rw [namedBy?, filing?, filing?]
  split
  · rfl
  · simp [Function.comp_def]

theorem filedFields_eq (ps : List Parameter) :
    filedFields ps = (ps.filterMap fun p => (namedBy? p.1).map Prod.fst).eraseDups := by
  rw [filedFields, filings, List.map_filterMap]
  simp only [filing?_eq_map, Option.map_map, Function.comp_def]

theorem filedFor_eq (ps : List Parameter) (field : String) :
    filedFor ps field = ps.filterMap fun p =>
      ((namedBy? p.1).filter fun n => n.1 = field).map fun n => (n.2, p.2) := by
  rw [filedFor, filings, List.filter_filterMap, List.map_filterMap]
  refine List.filterMap_congr fun p _ => ?_
  rw [filing?_eq_map]
  cases namedBy? p.1 with
  | none => rfl
  | some n => by_cases hn : n.1 = field <;> simp [hn, Option.filter]

/-- The spellings of a field are named by keys. -/
theorem spellings_filedFor (ps : List Parameter) (field : String) :
    Filed.spellings (filedFor ps field) =
      (ps.filterMap fun p =>
        ((namedBy? p.1).filter fun n => n.1 = field).map Prod.snd).eraseDups := by
  rw [Filed.spellings, filedFor_eq, List.map_filterMap]
  simp only [Option.map_map, Function.comp_def]

/-- The texts under a spelling are the values of the keys that name it. -/
theorem textsUnder_filedFor (ps : List Parameter) (field : String) (op : Operator) :
    Filed.textsUnder (filedFor ps field) op =
      (ps.filter fun p => namedBy? p.1 = some (field, op)).map Prod.snd := by
  rw [Filed.textsUnder, filedFor_eq, List.filter_filterMap, List.map_filterMap,
    ← List.filterMap_eq_map, List.filterMap_filter]
  refine List.filterMap_congr fun p _ => ?_
  cases namedBy? p.1 with
  | none => simp
  | some n =>
    obtain ⟨field', op'⟩ := n
    by_cases hfield : field' = field <;> by_cases hop : op' = op <;>
      simp [hfield, hop, Option.filter]

theorem eq_of_namedBy?_eq {ps : List Parameter} (hps : NamedOnce ps) {p q : Parameter} (hp : p ∈ ps)
    (hq : q ∈ ps) {n : String × Operator} (hpn : namedBy? p.1 = some n)
    (hqn : namedBy? q.1 = some n) : p.1 = q.1 := by
  have hpf := filing?_eq_map p
  have hqf := filing?_eq_map q
  rw [hpn, Option.map_some, filing?_eq_some_iff] at hpf
  rw [hqn, Option.map_some, filing?_eq_some_iff] at hqf
  exact hps p hp q hq hpf.1 hqf.1 (hpf.2.1.trans hqf.2.1.symm)

/-! ### Lists that are the same key by key -/

namespace SameByKey

variable {ν β : Type} {ps qs : List (String × ν)}

theorem symm (h : SameByKey ps qs) : SameByKey qs ps :=
  ⟨h.keys.symm, fun key => (h.pairs key).symm⟩

theorem mem_iff (h : SameByKey ps qs) {p : String × ν} : p ∈ ps ↔ p ∈ qs := by
  have hp := congrArg (p ∈ ·) (h.pairs p.1)
  simpa using hp

/-- What keys give has the same first occurrences. -/
theorem eraseDups_filterMap_eq [BEq β] [LawfulBEq β] (h : SameByKey ps qs)
    (f : String → Option β) :
    (ps.filterMap fun p => f p.1).eraseDups = (qs.filterMap fun p => f p.1).eraseDups := by
  have hkeys (l : List (String × ν)) : (l.filterMap fun p => f p.1).eraseDups =
      ((l.map Prod.fst).eraseDups.filterMap f).eraseDups := by
    rw [eraseDups_filterMap_eraseDups, List.filterMap_map]
    rfl
  rw [hkeys, hkeys, h.keys]

end SameByKey

variable {ps qs : List Parameter}

/-- Where no operator of a field is named by two keys, lists that are the same key by key have the
same texts under each spelling. -/
theorem textsUnder_eq_of_sameByKey (h : SameByKey ps qs) (hps : NamedOnce ps) (field : String)
    (op : Operator) : Filed.textsUnder (filedFor ps field) op =
      Filed.textsUnder (filedFor qs field) op := by
  rw [textsUnder_filedFor, textsUnder_filedFor]
  congr 1
  by_cases hnamed : ∃ p ∈ ps, namedBy? p.1 = some (field, op)
  · -- one key names the operator, and its parameters are all that count
    obtain ⟨p, hp, hpn⟩ := hnamed
    have hiff : ∀ q ∈ ps, namedBy? q.1 = some (field, op) ↔ q.1 = p.1 := by
      refine fun q hq => ⟨fun hqn => eq_of_namedBy?_eq hps hq hp hqn hpn, fun hkey => ?_⟩
      rw [hkey, hpn]
    calc ps.filter (fun q => namedBy? q.1 = some (field, op))
        = ps.filter fun q => q.1 = p.1 :=
          List.filter_congr fun q hq => decide_eq_decide.2 (hiff q hq)
      _ = qs.filter fun q => q.1 = p.1 := h.pairs p.1
      _ = qs.filter fun q => namedBy? q.1 = some (field, op) :=
          List.filter_congr fun q hq => decide_eq_decide.2 (hiff q (h.mem_iff.2 hq)).symm
  · have hnone : ∀ q ∈ ps, ¬namedBy? q.1 = some (field, op) := fun q hq hqn =>
      hnamed ⟨q, hq, hqn⟩
    rw [List.filter_eq_nil_iff.2 fun q hq => by simpa using hnone q hq,
      List.filter_eq_nil_iff.2 fun q hq => by simpa using hnone q (h.mem_iff.2 hq)]

/-- Where no operator of a field is named by two keys, lists that are the same key by key are read
alike. -/
theorem readAlike_of_sameByKey (h : SameByKey ps qs) (hps : NamedOnce ps) : ReadAlike ps qs := by
  refine ⟨?_, fun field => Filed.groups_congr ?_ (textsUnder_eq_of_sameByKey h hps field),
    fun name _ => ?_⟩
  · rw [filedFields_eq, filedFields_eq]
    exact h.eraseDups_filterMap_eq fun key => (namedBy? key).map Prod.fst
  · rw [spellings_filedFor, spellings_filedFor]
    exact h.eraseDups_filterMap_eq fun key =>
      ((namedBy? key).filter fun n => n.1 = field).map Prod.snd
  · rw [directiveTexts_eq, directiveTexts_eq, directivePairs, directivePairs, h.pairs]

/-! ### Containers -/

/-- Whether a container holds the parameters of a list, a mapping key by key. -/
inductive Source.Holds {ν : Type} (ps : List (String × ν)) : Source ν → Prop
  | list : Holds ps (.list ps)
  | stream : Holds ps (.stream ps)
  | multi : Holds ps (.multi ps)
  /-- A mapping holds the values of each key, the keys in order of first occurrence. -/
  | mapping {t : Table String (Held ν)}
      (ht : (t.mapValues fun _ held => held.values) = Table.group ps) : Holds ps (.mapping t)

/-- The pairs of a list, grouped under their keys and written out again, are the same key by key. -/
theorem sameByKey_group {ν : Type} (ps : List (String × ν)) :
    SameByKey ((Table.group ps).entries.flatMap fun e => e.2.map fun v => (e.1, v)) ps := by
  have hpairs (key : String) :
      ((ps.filter fun p => p.1 = key).map Prod.snd).map (fun v => (key, v)) =
        ps.filter fun p => p.1 = key := by
    rw [List.map_map]
    refine (List.map_congr_left fun p hp => ?_).trans (List.map_id _)
    have hkey : p.1 = key := by simpa using (List.mem_filter.1 hp).2
    exact Prod.ext hkey.symm rfl
  refine ⟨?_, fun key => ?_⟩
  · rw [Table.entries_group, List.flatMap_map, List.map_flatMap]
    refine eraseDups_flatMap_of_nodup (nodup_eraseDups _) fun key hkey => ?_
    rw [hpairs]
    refine ⟨?_, fun k hk => ?_⟩
    · obtain ⟨p, hp, hpk⟩ := List.mem_map.1 (List.mem_eraseDups.1 hkey)
      exact List.ne_nil_of_mem (List.mem_map_of_mem (List.mem_filter.2 ⟨hp, decide_eq_true hpk⟩))
    · obtain ⟨p, hp, rfl⟩ := List.mem_map.1 hk
      simpa using (List.mem_filter.1 hp).2
  · have hentry := (Table.group ps).filter_flatMap_entries Prod.fst
      (fun key vs => vs.map fun v => (key, v)) (by simp) key
    rw [hentry, Table.get?_group]
    split
    · next hnil => rw [hnil, Option.elim_none]
    · rw [Option.elim_some, hpairs]

/-- A container gives back the parameters that it holds, key by key. -/
theorem Source.Holds.sameByKey {ν : Type} {ps : List (String × ν)} {source : Source ν}
    (h : source.Holds ps) : SameByKey source.pairs ps := by
  cases h with
  | @mapping t ht =>
    have hpairs : (Source.mapping t).pairs =
        (Table.group ps).entries.flatMap fun e => e.2.map fun v => (e.1, v) := by
      rw [← ht, Source.pairs, Table.mapValues, List.flatMap_map]
    rw [hpairs]
    exact sameByKey_group ps
  | _ => exact ⟨rfl, fun _ => rfl⟩

end DocQuery
