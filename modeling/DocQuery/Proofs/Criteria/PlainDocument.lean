import DocQuery.Proofs.Criteria.Agreement
import DocQuery.Proofs.Criteria.Shape

/-!
# Plain documents

Criteria are sent as a plain mapping, in which a scalar is its value and conditions are a mapping
from the texts of symbols. Criteria of the standard shape can be told from their plain document: no
leaf is a mapping with the text of a symbol as a key, so that a scalar is never taken for
conditions. All keys below the fields are fixed words, and no list stands in a list, whatever texts
a request has.

## Main definitions

* `Value.keys`, `Value.nesting`: the keys in a value, and how deep its lists are nested.
* `documentKeys`: the keys of plain documents below their fields.
* `Value.SameMapping`: values that are equal, or mappings with the same entries.
* `Criteria.SameDocument`: criteria whose plain documents are the same up to the order of entries.

## Main results

* `Entry.IsShaped.keys_subset`, `Entry.IsShaped.nesting_le`: keys and lists below a field.
* `Criteria.IsShaped.eq_of_toValue_eq`: criteria are determined by their plain document.
* `Criteria.IsShaped.agree_of_sameDocument`: they are determined up to order if the order of the
  entries is not known.
-/

namespace DocQuery

namespace Value

mutual

/-- The keys of all mappings in a value, at any depth. -/
def keys : Value → List String
  | .list vs => keysOfList vs
  | .object fields => keysOfFields fields
  | _ => []

/-- The keys of all mappings in the elements of a list. -/
def keysOfList : List Value → List String
  | [] => []
  | v :: vs => keys v ++ keysOfList vs

/-- The keys of a mapping and of all mappings in its values. -/
def keysOfFields : List (String × Value) → List String
  | [] => []
  | (k, v) :: fields => k :: keys v ++ keysOfFields fields

end

mutual

/-- How deep lists are nested in a value. -/
def nesting : Value → Nat
  | .list vs => nestingOfList vs + 1
  | .object fields => nestingOfFields fields
  | _ => 0

/-- How deep lists are nested in the elements of a list. -/
def nestingOfList : List Value → Nat
  | [] => 0
  | v :: vs => max (nesting v) (nestingOfList vs)

/-- How deep lists are nested in the values of a mapping. -/
def nestingOfFields : List (String × Value) → Nat
  | [] => 0
  | (_, v) :: fields => max (nesting v) (nestingOfFields fields)

end

theorem keysOfList_eq (vs : List Value) : keysOfList vs = vs.flatMap keys := by
  induction vs with
  | nil => rfl
  | cons v vs ih => rw [keysOfList, List.flatMap_cons, ih]

theorem keysOfFields_eq (fields : List (String × Value)) :
    keysOfFields fields = fields.flatMap fun f => f.1 :: f.2.keys := by
  induction fields with
  | nil => rfl
  | cons f fields ih => rw [keysOfFields, List.flatMap_cons, ih]

theorem nestingOfList_le {vs : List Value} {n : Nat} (h : ∀ v ∈ vs, v.nesting ≤ n) :
    nestingOfList vs ≤ n := by
  induction vs with
  | nil => exact Nat.zero_le n
  | cons v vs ih =>
    obtain ⟨hv, hvs⟩ := List.forall_mem_cons.1 h
    exact Nat.max_le.2 ⟨hv, ih hvs⟩

theorem nestingOfFields_le {fields : List (String × Value)} {n : Nat}
    (h : ∀ f ∈ fields, f.2.nesting ≤ n) : nestingOfFields fields ≤ n := by
  induction fields with
  | nil => exact Nat.zero_le n
  | cons f fields ih =>
    obtain ⟨hf, hfields⟩ := List.forall_mem_cons.1 h
    exact Nat.max_le.2 ⟨hf, ih hfields⟩

end Value

/-! ### Keys and lists below a field -/

/-- The keys of plain documents below their fields: the texts of symbols, and the words with which
extended JSON marks object identifiers and regular expressions. -/
def documentKeys : List String :=
  ["$eq", "$ne", "$gt", "$gte", "$lt", "$lte", "$exists", "$in", "$nin", "$all",
    "$oid", "$regularExpression", "pattern", "options"]

theorem Symbol.text_mem_documentKeys (s : Symbol) : s.text ∈ documentKeys := by
  cases s <;> decide

theorem Symbol.text_injective : Function.Injective Symbol.text := by
  intro s s' h
  cases s <;> cases s' <;> first | rfl | exact absurd h (by decide)

namespace Value

variable {v : Value}

theorem IsElement.keys_subset (h : v.IsElement) : v.keys ⊆ documentKeys := by
  rcases h with h | ⟨pattern, options⟩
  · cases h with
    | objectId =>
      change ["$oid"] ⊆ documentKeys
      decide
    | _ => exact List.nil_subset _
  · change ["$regularExpression", "pattern", "options"] ⊆ documentKeys
    decide

theorem IsElement.nesting_eq (h : v.IsElement) : v.nesting = 0 := by
  rcases h with h | ⟨pattern, options⟩
  · cases h <;> rfl
  · rfl

theorem IsListOf.mono {P Q : Value → Prop} (hPQ : ∀ v, P v → Q v) (h : v.IsListOf P) :
    v.IsListOf Q := by
  obtain ⟨hne, hvs⟩ := h
  exact ⟨hne, fun v hv => hPQ v (hvs v hv)⟩

theorem IsListOf.keys_subset (h : v.IsListOf IsElement) : v.keys ⊆ documentKeys := by
  obtain ⟨-, hvs⟩ := h
  rw [keys, keysOfList_eq]
  intro key hkey
  obtain ⟨v, hv, hkey⟩ := List.mem_flatMap.1 hkey
  exact (hvs v hv).keys_subset hkey

theorem IsListOf.nesting_le (h : v.IsListOf IsElement) : v.nesting ≤ 1 := by
  obtain ⟨-, hvs⟩ := h
  exact Nat.succ_le_succ (nestingOfList_le fun v hv => (hvs v hv).nesting_eq.le)

end Value

/-- Under a symbol stands an element, or a list of elements. -/
theorem Symbol.Holds.isElement_or_isListOf {s : Symbol} {v : Value} (h : s.Holds v) :
    v.IsElement ∨ v.IsListOf Value.IsElement := by
  cases s with
  | eq => exact h
  | within => exact Or.inr h
  | notIn | all => exact Or.inr (h.mono fun _ => Or.inl)
  | present =>
    obtain ⟨b, rfl⟩ := h
    exact Or.inl (Or.inl (.bool b))
  | _ => exact Or.inl (Or.inl h)

namespace Entry

variable {e : Entry}

/-- No key below a field comes from a request. -/
theorem IsShaped.keys_subset (h : e.IsShaped) : e.toValue.keys ⊆ documentKeys := by
  obtain ⟨hv⟩ | ⟨-, ht⟩ := h
  · exact Value.IsElement.keys_subset (Or.inl hv)
  · rw [toValue, Value.keys, Value.keysOfFields_eq]
    intro key hkey
    obtain ⟨f, hf, hkey⟩ := List.mem_flatMap.1 hkey
    obtain ⟨⟨s, v⟩, hentry, rfl⟩ := List.mem_map.1 hf
    rcases List.mem_cons.1 hkey with rfl | hkey
    · exact s.text_mem_documentKeys
    · rcases (ht s v (Table.get?_eq_some_iff.2 hentry)).isElement_or_isListOf with hv | hv
      · exact hv.keys_subset hkey
      · exact hv.keys_subset hkey

/-- No list below a field stands in a list. -/
theorem IsShaped.nesting_le (h : e.IsShaped) : e.toValue.nesting ≤ 1 := by
  obtain ⟨hv⟩ | ⟨-, ht⟩ := h
  · exact (Value.IsElement.nesting_eq (Or.inl hv)).trans_le zero_le_one
  · refine Value.nestingOfFields_le fun f hf => ?_
    obtain ⟨⟨s, v⟩, hentry, rfl⟩ := List.mem_map.1 hf
    rcases (ht s v (Table.get?_eq_some_iff.2 hentry)).isElement_or_isListOf with hv | hv
    · exact hv.nesting_eq.trans_le zero_le_one
    · exact hv.nesting_le

end Entry

/-! ### Criteria from their plain document -/

/-- Values that are equal, or mappings with the same entries in any order. -/
inductive Value.SameMapping : Value → Value → Prop
  | refl (v : Value) : SameMapping v v
  | object {fields fields' : List (String × Value)} (h : fields.Perm fields') :
      SameMapping (.object fields) (.object fields')

namespace Value.SameMapping

variable {v w : Value}

theorem symm (h : v.SameMapping w) : w.SameMapping v := by
  cases h with
  | refl => exact .refl _
  | object h => exact .object h.symm

theorem exists_perm {fields : List (String × Value)} (h : v.SameMapping (.object fields)) :
    ∃ fields', v = .object fields' ∧ fields'.Perm fields := by
  cases h with
  | refl => exact ⟨fields, rfl, .refl _⟩
  | object h => exact ⟨_, rfl, h⟩

/-- A leaf has at most one entry, so that its entries have only one order. -/
theorem eq_of_isLeaf (h : v.SameMapping w) (hw : w.IsLeaf) : v = w := by
  cases h with
  | refl => rfl
  | object hperm =>
    cases hw with
    | objectId => rw [List.perm_singleton.1 hperm]

end Value.SameMapping

namespace Entry

variable {e f : Entry}

/-- The entries of conditions can be told from those of their plain value. -/
theorem plainEntry_injective : Function.Injective fun e : Symbol × Value => (e.1.text, e.2) := by
  intro e f h
  obtain ⟨hs, hv⟩ := Prod.mk.inj h
  exact Prod.ext (Symbol.text_injective hs) hv

/-- No leaf is the plain value of conditions, since no symbol has the text that marks an object
identifier. -/
theorem not_sameMapping_of_isLeaf {v : Value} (hv : v.IsLeaf) {t : Table Symbol Value}
    (ht : t.keys ≠ []) : ¬v.SameMapping (conditions t).toValue := by
  intro h
  obtain ⟨fields, rfl, hperm⟩ := h.exists_perm
  obtain ⟨_, hs⟩ := List.exists_mem_of_ne_nil _ ht
  obtain ⟨⟨s, v⟩, hentry, -⟩ := List.mem_map.1 hs
  have hmem := hperm.mem_iff.2 (List.mem_map_of_mem hentry)
  cases hv with
  | objectId =>
    have hoid : s.text = "$oid" := (Prod.mk.inj (List.mem_singleton.1 hmem)).1
    cases s <;> exact absurd hoid (by decide)

/-- Conditions can be told from their plain value, up to the order of the symbols. -/
theorem get?_eq_of_sameMapping {t u : Table Symbol Value}
    (h : (conditions t).toValue.SameMapping (conditions u).toValue) (s : Symbol) :
    t.get? s = u.get? s := by
  obtain ⟨fields, hfields, hperm⟩ := h.exists_perm
  obtain rfl := Value.object.inj hfields
  refine Option.ext fun v => ?_
  rw [Table.get?_eq_some_iff, Table.get?_eq_some_iff,
    ← List.mem_map_of_injective plainEntry_injective, hperm.mem_iff,
    List.mem_map_of_injective plainEntry_injective]

/-- What is asked of a field can be told from its plain value, up to the order of the symbols. -/
theorem IsShaped.agree_of_sameMapping (he : e.IsShaped) (hf : f.IsShaped)
    (h : e.toValue.SameMapping f.toValue) : Agree Eq e f := by
  cases he with
  | scalar hv =>
    cases hf with
    | scalar hw => exact h.eq_of_isLeaf hw
    | conditions hu => exact not_sameMapping_of_isLeaf hv hu h
  | conditions ht =>
    cases hf with
    | scalar hw => exact not_sameMapping_of_isLeaf hw ht h.symm
    | @conditions u hu =>
      intro s
      rw [get?_eq_of_sameMapping h s]
      cases u.get? s with
      | none => exact .none
      | some v => exact .some rfl

/-- What is asked of a field can be told from its plain value. -/
theorem IsShaped.eq_of_toValue_eq (he : e.IsShaped) (hf : f.IsShaped)
    (h : e.toValue = f.toValue) : e = f := by
  have hagree := he.agree_of_sameMapping hf (h ▸ .refl _)
  match e, f, hagree with
  | .scalar v, .scalar w, hvw => rw [hvw]
  | .conditions t, .conditions u, _ =>
    rw [Table.ext (plainEntry_injective.list_map (Value.object.inj h))]

end Entry

/-- Whether the plain documents of criteria are the same up to the order of the fields and, in each
field, of the symbols. -/
def Criteria.SameDocument (c d : Criteria) : Prop :=
  ∀ field, Option.Rel Value.SameMapping (c.toFields.lookup field) (d.toFields.lookup field)

/-- A list can be told from its image if its elements can. -/
theorem eq_of_map_eq_map {α β : Type} {f : α → β} {l l' : List α}
    (hf : ∀ a ∈ l, ∀ b ∈ l', f a = f b → a = b) (h : l.map f = l'.map f) : l = l' := by
  induction l generalizing l' with
  | nil => exact (List.map_eq_nil_iff.1 h.symm).symm
  | cons a l ih =>
    obtain ⟨b, l', rfl, hab, hl⟩ := List.map_eq_cons_iff.1 h.symm
    rw [hf a List.mem_cons_self b List.mem_cons_self hab.symm]
    congr 1
    exact ih (fun a ha b hb => hf a (List.mem_cons_of_mem _ ha) b (List.mem_cons_of_mem _ hb))
      hl.symm

namespace Criteria

variable {c d : Criteria}

/-- Under a field of the plain document stands the plain value of what is asked of it. -/
theorem lookup_toFields (c : Criteria) (field : String) :
    c.toFields.lookup field = (c.get? field).map Entry.toValue := by
  obtain ⟨es, h⟩ := c
  simp only [toFields, Table.get?]
  clear h
  induction es with
  | nil => rfl
  | cons e es ih =>
    rw [List.map_cons, List.lookup_cons, List.lookup_cons, ih]
    cases field == e.1 <;> rfl

/-- Criteria are determined, up to order, by their plain document up to order. -/
theorem IsShaped.agree_of_sameDocument (hc : c.IsShaped) (hd : d.IsShaped)
    (h : c.SameDocument d) : c.Agree Eq d := by
  intro field
  have hfield := h field
  rw [lookup_toFields, lookup_toFields] at hfield
  match he : c.get? field, hf : d.get? field, hfield with
  | none, none, _ => exact .none
  | some e, some f, .some hsame =>
    exact .some ((hc field e he).agree_of_sameMapping (hd field f hf) hsame)

/-- Criteria are determined by their plain document. -/
theorem IsShaped.eq_of_toValue_eq (hc : c.IsShaped) (hd : d.IsShaped)
    (h : c.toValue = d.toValue) : c = d := by
  refine Table.ext (eq_of_map_eq_map (fun e he f hf hef => ?_) (Value.object.inj h))
  obtain ⟨hfield, hentry⟩ := Prod.mk.inj hef
  have he' := hc e.1 e.2 (Table.get?_eq_some_iff.2 he)
  exact Prod.ext hfield (he'.eq_of_toValue_eq (hd f.1 f.2 (Table.get?_eq_some_iff.2 hf)) hentry)

end Criteria

end DocQuery
