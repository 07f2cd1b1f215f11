/-!
# Tables in insertion order

A table holds at most one value for each key and remembers the order in which the keys first
arrived. Writing to a key that is present changes its value and keeps its place; writing to a new
key appends it. Documents, operator groups and field specifications are all such tables, because
their order can be seen in a compiled query and in the order of its errors.

## Main definitions

* `Table`: entries with pairwise different keys.
* `Table.get?`, `Table.update`, `Table.put`: reading one key and writing one key.
* `Table.ofList`: the table that results from writing the entries of a list in order.
* `Table.group`: the values of a list of pairs collected under their keys.

## Main results

* `Table.length_keys`: the size is the number of keys.
* `Table.keys_update`: an update keeps the order of the keys and appends a new key.
* `Table.get?_update_self`, `Table.get?_update_of_ne`: an update is seen at its key only.
-/

namespace DocQuery

/-- A list of entries in which no key occurs twice. -/
structure Table (κ ν : Type) where
  /-- The entries in the order in which their keys first arrived. -/
  entries : List (κ × ν)
  /-- No key occurs twice. -/
  nodup_keys : (entries.map Prod.fst).Nodup

namespace Table

variable {κ ν μ : Type}

/-- The table without entries. -/
def empty : Table κ ν := ⟨[], List.nodup_nil⟩

instance : EmptyCollection (Table κ ν) := ⟨empty⟩

instance : Inhabited (Table κ ν) := ⟨empty⟩

/-- The keys in order of first arrival. -/
def keys (t : Table κ ν) : List κ := t.entries.map Prod.fst

/-- The number of keys. -/
def size (t : Table κ ν) : Nat := t.entries.length

@[simp] theorem length_keys (t : Table κ ν) : t.keys.length = t.size := List.length_map Prod.fst

/-- The table with the same keys whose values are computed from key and value. -/
def mapValues (t : Table κ ν) (f : κ → ν → μ) : Table κ μ where
  entries := t.entries.map fun e => (e.1, f e.1 e.2)
  nodup_keys := by
    have h := t.nodup_keys
    rw [List.map_map]
    exact h

@[simp] theorem keys_mapValues (t : Table κ ν) (f : κ → ν → μ) :
    (t.mapValues f).keys = t.keys := by
  simp only [keys, mapValues, List.map_map]
  rfl

variable [DecidableEq κ]

/-- The value stored under a key. -/
def get? (t : Table κ ν) (k : κ) : Option ν := t.entries.lookup k

/-- Whether a key is present. -/
def contains (t : Table κ ν) (k : κ) : Bool := t.keys.contains k

/-- The entries after the value under `k` is recomputed from its previous value. -/
def upsert (k : κ) (f : Option ν → ν) : List (κ × ν) → List (κ × ν)
  | [] => [(k, f none)]
  | (k', v) :: es => if k' = k then (k', f (some v)) :: es else (k', v) :: upsert k f es

/-- An upsert keeps the order of the keys and appends a new key at the end. -/
theorem map_fst_upsert (k : κ) (f : Option ν → ν) (es : List (κ × ν)) :
    (upsert k f es).map Prod.fst =
      if k ∈ es.map Prod.fst then es.map Prod.fst else es.map Prod.fst ++ [k] := by
  induction es with
  | nil => rfl
  | cons e es ih =>
    obtain ⟨k', v⟩ := e
    by_cases h : k' = k
    · subst h
      simp [upsert]
    · have h' : ¬k = k' := fun e => h e.symm
      simp only [upsert, h, if_false, List.map_cons, ih, List.mem_cons, h', false_or]
      split <;> rfl

theorem nodup_upsert (k : κ) (f : Option ν → ν) {es : List (κ × ν)}
    (h : (es.map Prod.fst).Nodup) : ((upsert k f es).map Prod.fst).Nodup := by
  rw [map_fst_upsert]
  split
  · exact h
  · next hk =>
    rw [List.nodup_append]
    refine ⟨h, by simp, ?_⟩
    intro a ha b hb e
    rw [List.mem_singleton] at hb
    exact hk (hb ▸ e ▸ ha)

theorem lookup_upsert_self (k : κ) (f : Option ν → ν) (es : List (κ × ν)) :
    (upsert k f es).lookup k = some (f (es.lookup k)) := by
  induction es with
  | nil => simp [upsert]
  | cons e es ih =>
    obtain ⟨k', v⟩ := e
    by_cases h : k' = k
    · subst h
      simp [upsert]
    · have h' : (k == k') = false := beq_eq_false_iff_ne.2 fun e => h e.symm
      simp [upsert, h, List.lookup_cons, h', ih]

theorem lookup_upsert_of_ne {k l : κ} (hl : l ≠ k) (f : Option ν → ν) (es : List (κ × ν)) :
    (upsert k f es).lookup l = es.lookup l := by
  induction es with
  | nil => simp [upsert, List.lookup_cons, beq_eq_false_iff_ne.2 hl]
  | cons e es ih =>
    obtain ⟨k', v⟩ := e
    by_cases h : k' = k
    · subst h
      simp [upsert, List.lookup_cons, beq_eq_false_iff_ne.2 hl]
    · simp only [upsert, h, if_false, List.lookup_cons, ih]

/-- Recomputes the value under `k` from its previous value, in place if `k` is present and at the
end otherwise. -/
def update (t : Table κ ν) (k : κ) (f : Option ν → ν) : Table κ ν :=
  ⟨upsert k f t.entries, nodup_upsert k f t.nodup_keys⟩

/-- Stores a value under a key, in place if the key is present and at the end otherwise. -/
def put (t : Table κ ν) (k : κ) (v : ν) : Table κ ν := t.update k fun _ => v

/-- The table that results from storing the entries of a list in order. -/
def ofList (l : List (κ × ν)) : Table κ ν := l.foldl (fun t e => t.put e.1 e.2) empty

/-- Collects the second components of a list of pairs under their first components. -/
def group (l : List (κ × ν)) : Table κ (List ν) :=
  l.foldl (fun t e => t.update e.1 fun vs => vs.getD [] ++ [e.2]) empty

theorem keys_update (t : Table κ ν) (k : κ) (f : Option ν → ν) :
    (t.update k f).keys = if k ∈ t.keys then t.keys else t.keys ++ [k] :=
  map_fst_upsert k f t.entries

@[simp] theorem get?_update_self (t : Table κ ν) (k : κ) (f : Option ν → ν) :
    (t.update k f).get? k = some (f (t.get? k)) :=
  lookup_upsert_self k f t.entries

theorem get?_update_of_ne (t : Table κ ν) {k l : κ} (hl : l ≠ k) (f : Option ν → ν) :
    (t.update k f).get? l = t.get? l :=
  lookup_upsert_of_ne hl f t.entries

@[simp] theorem get?_put_self (t : Table κ ν) (k : κ) (v : ν) : (t.put k v).get? k = some v :=
  t.get?_update_self k _

theorem get?_put_of_ne (t : Table κ ν) {k l : κ} (hl : l ≠ k) (v : ν) :
    (t.put k v).get? l = t.get? l :=
  t.get?_update_of_ne hl _

end Table

end DocQuery
