import DocQuery.Proofs.FirstOccurrence
import DocQuery.Table

/-!
# Tables built from lists

A table that is built from the elements of a list, each of which recomputes the value under a key of
its own, has a closed form: its keys are the keys of the elements in order of first occurrence, and
the value under a key comes from the elements with that key alone, in order. Tables that collect
lists are the case in which every element appends what it adds.

## Main definitions

* `Table.accumulate`: the table to which the elements of a list give their values.

## Main results

* `Table.keys_accumulate`, `Table.get?_accumulate`: the closed form.
* `Table.entries_accumulate_append`, `Table.entries_group`: the entries where values are collected.
-/

namespace DocQuery

namespace Table

variable {α κ ν μ : Type}

/-! ### Keys and values -/

@[ext] theorem ext {t u : Table κ ν} (h : t.entries = u.entries) : t = u := by
  cases t
  cases u
  simpa only [mk.injEq] using h

theorem mem_keys_of_mem {t : Table κ ν} {k : κ} {v : ν} (h : (k, v) ∈ t.entries) : k ∈ t.keys :=
  List.mem_map.2 ⟨(k, v), h, rfl⟩

variable [DecidableEq κ]

theorem get?_eq_some_iff {t : Table κ ν} {k : κ} {v : ν} :
    t.get? k = some v ↔ (k, v) ∈ t.entries := by
  obtain ⟨es, h⟩ := t
  simp only [get?]
  induction es with
  | nil => simp
  | cons e es ih =>
    obtain ⟨k', w⟩ := e
    rw [List.map_cons, List.nodup_cons] at h
    by_cases hk : k = k'
    · subst hk
      have hv : (k, v) ∉ es := fun hv => h.1 (List.mem_map.2 ⟨_, hv, rfl⟩)
      simp [hv, eq_comm]
    · simp [List.lookup_cons, hk, beq_eq_false_iff_ne.2 hk, ih h.2]

theorem get?_eq_none_iff {t : Table κ ν} {k : κ} : t.get? k = none ↔ k ∉ t.keys := by
  constructor
  · intro h hk
    obtain ⟨⟨k', v⟩, hv, rfl⟩ := List.mem_map.1 hk
    rw [← get?_eq_some_iff, h] at hv
    cases hv
  · intro h
    cases hv : t.get? k with
    | none => rfl
    | some v => exact absurd (mem_keys_of_mem (get?_eq_some_iff.1 hv)) h

/-- The entries of a table are its keys with the values under them. -/
theorem entries_eq_map_keys {t : Table κ ν} {f : κ → ν}
    (h : ∀ k ∈ t.keys, t.get? k = some (f k)) : t.entries = t.keys.map fun k => (k, f k) := by
  rw [keys, List.map_map]
  refine (List.map_id _).symm.trans (List.map_congr_left fun e he => ?_)
  have hv := h e.1 (mem_keys_of_mem he)
  rw [get?_eq_some_iff.2 he] at hv
  exact Prod.ext rfl (Option.some.inj hv)

/-- Of what the entries of a table give, the part for one key is given by the entry of that key. -/
theorem filter_flatMap_entries {β : Type} (t : Table κ ν) (key : β → κ) (g : κ → ν → List β)
    (hkey : ∀ k v, ∀ b ∈ g k v, key b = k) (k : κ) :
    ((t.entries.flatMap fun e => g e.1 e.2).filter fun b => key b = k) =
      (t.get? k).elim [] (g k) := by
  obtain ⟨es, h⟩ := t
  simp only [get?]
  induction es with
  | nil => rfl
  | cons e es ih =>
    obtain ⟨k', v⟩ := e
    rw [List.map_cons, List.nodup_cons] at h
    rw [List.flatMap_cons, List.filter_append, ih h.2]
    by_cases hk : k = k'
    · subst hk
      have hrest : es.lookup k = none := List.lookup_eq_none_iff.2 fun p hp =>
        bne_iff_ne.2 fun hpk => h.1 (List.mem_map.2 ⟨p, hp, hpk.symm⟩)
      have hall : (g k v).filter (fun b => key b = k) = g k v :=
        List.filter_eq_self.2 fun b hb => decide_eq_true (hkey k v b hb)
      simp [hrest, hall]
    · have hnone : (g k' v).filter (fun b => key b = k) = [] :=
        List.filter_eq_nil_iff.2 fun b hb => by simpa [hkey k' v b hb] using Ne.symm hk
      simp [hnone, List.lookup_cons, beq_eq_false_iff_ne.2 hk]

/-- Storing what is computed from the value under a key recomputes that value. -/
theorem put_get? (t : Table κ ν) (k : κ) (f : Option ν → ν) :
    t.put k (f (t.get? k)) = t.update k f := by
  obtain ⟨es, h⟩ := t
  ext1
  simp only [put, update, get?]
  clear h
  induction es with
  | nil => rfl
  | cons e es ih =>
    obtain ⟨k', v⟩ := e
    by_cases hk : k = k'
    · subst hk
      simp [upsert]
    · have hk' : ¬k' = k := fun e => hk e.symm
      simp [upsert, hk', List.lookup_cons, beq_eq_false_iff_ne.2 hk, ih]

/-- A new key is stored at the end. -/
theorem entries_put_of_notMem {t : Table κ ν} {k : κ} {v : ν} (h : k ∉ t.keys) :
    (t.put k v).entries = t.entries ++ [(k, v)] := by
  obtain ⟨es, hes⟩ := t
  simp only [put, update, keys] at h ⊢
  clear hes
  induction es with
  | nil => rfl
  | cons e es ih =>
    rw [List.map_cons, List.mem_cons, not_or] at h
    simp only [upsert, Ne.symm h.1, if_false, ih h.2, List.cons_append]

/-! ### Accumulation -/

variable (key : α → κ) (f : α → Option ν → ν)

/-- The table that results when the elements of a list, in order, recompute the values under
their keys. -/
def accumulate (l : List α) : Table κ ν := l.foldl (fun t a => t.update (key a) (f a)) empty

theorem accumulate_append_singleton (l : List α) (a : α) :
    accumulate key f (l ++ [a]) = (accumulate key f l).update (key a) (f a) := by
  simp only [accumulate, List.foldl_append, List.foldl_cons, List.foldl_nil]

/-- The keys are those of the elements in order of first occurrence. -/
theorem keys_accumulate (l : List α) : (accumulate key f l).keys = (l.map key).eraseDups := by
  induction l using List.reverseRecOn with
  | nil => rfl
  | append_singleton l a ih =>
    rw [accumulate_append_singleton, keys_update, ih, List.map_append, List.map_singleton,
      eraseDups_append_singleton]
    simp only [List.mem_eraseDups]

/-- The value under a key comes from the elements with that key, in order. -/
theorem get?_accumulate (l : List α) (k : κ) :
    (accumulate key f l).get? k =
      (l.filter fun a => key a = k).foldl (fun v a => some (f a v)) none := by
  induction l using List.reverseRecOn with
  | nil => rfl
  | append_singleton l a ih =>
    rw [accumulate_append_singleton, List.filter_append, List.foldl_append, ← ih]
    by_cases h : key a = k
    · subst h
      simp [get?_update_self]
    · simp [h, get?_update_of_ne _ (Ne.symm h)]

/-- Appending to what is there, or to nothing, element by element. -/
theorem foldl_append_getD (g : α → List μ) (l : List α) :
    l.foldl (fun vs a => some (vs.getD [] ++ g a)) none =
      if l = [] then none else some (l.flatMap g) := by
  induction l using List.reverseRecOn with
  | nil => rfl
  | append_singleton l a ih =>
    rw [List.foldl_append, ih]
    by_cases h : l = [] <;> simp [h]

/-- The entries of a table to which every element of a list appends values. -/
theorem entries_accumulate_append (g : α → List μ) (l : List α) :
    (accumulate key (fun a vs => vs.getD [] ++ g a) l).entries =
      (l.map key).eraseDups.map fun k => (k, (l.filter fun a => key a = k).flatMap g) := by
  rw [← keys_accumulate key fun a vs => vs.getD [] ++ g a]
  refine entries_eq_map_keys fun k hk => ?_
  rw [get?_accumulate, foldl_append_getD, if_neg]
  rw [keys_accumulate, List.mem_eraseDups, List.mem_map] at hk
  obtain ⟨a, ha, rfl⟩ := hk
  exact List.ne_nil_of_mem (List.mem_filter.2 ⟨ha, decide_eq_true rfl⟩)

/-- The entries of a grouped table. -/
theorem entries_group (l : List (κ × μ)) :
    (group l).entries = (l.map Prod.fst).eraseDups.map fun k =>
      (k, (l.filter fun e => e.1 = k).map Prod.snd) := by
  simp only [List.map_eq_flatMap (f := Prod.snd)]
  exact entries_accumulate_append Prod.fst (fun e => [e.2]) l

/-- The values that a grouped table holds under a key. -/
theorem get?_group (l : List (κ × μ)) (k : κ) :
    (group l).get? k = if l.filter (fun e => e.1 = k) = [] then none
      else some ((l.filter fun e => e.1 = k).map Prod.snd) := by
  rw [List.map_eq_flatMap (f := Prod.snd), ← foldl_append_getD]
  exact get?_accumulate Prod.fst (fun e vs => vs.getD [] ++ [e.2]) l k

end Table

end DocQuery
