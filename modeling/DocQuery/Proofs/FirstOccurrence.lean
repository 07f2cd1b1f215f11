import Mathlib.Data.List.Induction
import Mathlib.Data.List.Nodup

/-!
# First occurrences

The fields, operators and errors of a request stand in the order in which they first occur. Of a
list only its first occurrences are kept: what is left has no duplicates, and it can be computed
part by part, for some of the elements only, or after the elements have been mapped.

## Main results

* `nodup_eraseDups`, `perm_eraseDups`: first occurrences as a set.
* `eraseDups_filter`, `eraseDups_filterMap_eraseDups`: first occurrences of some of the elements,
  and of what is computed from them.
* `exists_eraseDups_append_cons_of_mem`, `eraseDups_append_cons_of_notMem`: one element more.
* `eraseDups_append_congr`, `eraseDups_flatMap_of_nodup`: lists that are put together from parts.
* `perm_flatMap_filter`: a list is a permutation of its parts under different keys.
-/

namespace DocQuery

variable {α : Type} [BEq α] [LawfulBEq α]

/-- An element at the end is kept exactly if it is new. -/
theorem eraseDups_append_singleton (l : List α) (a : α) :
    (l ++ [a]).eraseDups = if a ∈ l then l.eraseDups else l.eraseDups ++ [a] := by
  rw [List.eraseDups_append]
  by_cases h : a ∈ l <;> simp [List.removeAll, h, List.eraseDups_cons]

theorem nodup_eraseDups (l : List α) : l.eraseDups.Nodup := by
  induction l using List.reverseRecOn with
  | nil => exact List.nodup_nil
  | append_singleton l a ih =>
    rw [eraseDups_append_singleton]
    split
    · exact ih
    · next h =>
      rw [← List.concat_eq_append, List.nodup_concat, List.mem_eraseDups]
      exact ⟨h, ih⟩

/-- The first occurrences in a list that stands in another order are the same up to order. -/
theorem perm_eraseDups {l l' : List α} (h : l.Perm l') : l.eraseDups.Perm l'.eraseDups := by
  refine (List.perm_ext_iff_of_nodup (nodup_eraseDups l) (nodup_eraseDups l')).2 fun a => ?_
  rw [List.mem_eraseDups, List.mem_eraseDups, h.mem_iff]

/-- A new element between others is a further first occurrence at its place. -/
theorem eraseDups_append_cons_of_notMem {l m : List α} {a : α} (h : a ∉ l ++ m) :
    (l ++ a :: m).eraseDups = l.eraseDups ++ a :: (m.removeAll l).eraseDups := by
  rw [List.mem_append, not_or] at h
  have hm : ((m.removeAll l).filter fun b => ! b == a) = m.removeAll l :=
    List.filter_eq_self.2 fun b hb => by
      have hba : b ≠ a := fun e => h.2 (e ▸ (List.mem_filter.1 hb).1)
      simpa using hba
  rw [List.eraseDups_append, List.cons_removeAll, if_pos (by simpa using h.1),
    List.eraseDups_cons, hm]

/-- Leaving out elements does not change which of the others are first occurrences. -/
theorem eraseDups_filter (p : α → Bool) (l : List α) :
    (l.filter p).eraseDups = l.eraseDups.filter p := by
  induction l using List.reverseRecOn with
  | nil => rfl
  | append_singleton l a ih =>
    rw [List.filter_append, List.eraseDups_append, List.eraseDups_append, List.filter_append, ih]
    congr 1
    by_cases hp : p a = true <;> by_cases hl : a ∈ l <;>
      simp [List.removeAll, List.eraseDups_cons, hp, hl]

/-- Around an element of a list without duplicates stands all that is left without it. -/
theorem exists_append_cons_of_nodup {l : List α} {a : α} (h : a ∈ l) (hl : l.Nodup) :
    ∃ before after, l = before ++ a :: after ∧ before ++ after = l.filter (· != a) := by
  obtain ⟨before, after, rfl⟩ := List.append_of_mem h
  rw [List.nodup_append, List.nodup_cons] at hl
  obtain ⟨-, ⟨hafter, -⟩, hbefore⟩ := hl
  have hne : ∀ b ∈ before ++ after, (b != a) = true := by
    intro b hb
    rw [bne_iff_ne]
    rcases List.mem_append.1 hb with hb | hb
    · exact hbefore b hb a List.mem_cons_self
    · exact fun e => hafter (e ▸ hb)
  refine ⟨before, after, rfl, ?_⟩
  have hboth := List.filter_eq_self.2 hne
  rw [List.filter_append] at hboth
  simp [hboth]

/-- An element that occurs already adds no first occurrence: it moves at most its own. -/
theorem exists_eraseDups_append_cons_of_mem {l m : List α} {a : α} (h : a ∈ l ++ m) :
    ∃ before after before' after', (l ++ m).eraseDups = before ++ a :: after ∧
      (l ++ a :: m).eraseDups = before' ++ a :: after' ∧ before' ++ after' = before ++ after := by
  have ha : a ∈ (l ++ m).eraseDups := List.mem_eraseDups.2 h
  have ha' : a ∈ (l ++ a :: m).eraseDups := List.mem_eraseDups.2 (by simp)
  obtain ⟨before, after, hsplit, hrest⟩ := exists_append_cons_of_nodup ha (nodup_eraseDups _)
  obtain ⟨before', after', hsplit', hrest'⟩ := exists_append_cons_of_nodup ha' (nodup_eraseDups _)
  refine ⟨before, after, before', after', hsplit, hsplit', ?_⟩
  rw [hrest, hrest', ← eraseDups_filter, ← eraseDups_filter]
  simp

/-- What is computed from the elements of a list has its first occurrences at first occurrences. -/
theorem eraseDups_filterMap_eraseDups {β : Type} [BEq β] [LawfulBEq β] (f : α → Option β)
    (l : List α) : (l.eraseDups.filterMap f).eraseDups = (l.filterMap f).eraseDups := by
  induction l using List.reverseRecOn with
  | nil => rfl
  | append_singleton l a ih =>
    rw [eraseDups_append_singleton]
    cases hf : f a with
    | none => split <;> simp [hf, ih]
    | some b =>
      have hmem : b ∈ l.eraseDups.filterMap f ↔ b ∈ l.filterMap f := by
        simp only [List.mem_filterMap, List.mem_eraseDups]
      split
      · next ha =>
        have hb : b ∈ l.filterMap f := List.mem_filterMap.2 ⟨a, ha, hf⟩
        simp [hf, ih, eraseDups_append_singleton, hb]
      · simp only [List.filterMap_append, List.filterMap_cons_some hf, List.filterMap_nil,
          eraseDups_append_singleton, hmem, ih]

theorem eraseDups_map_eraseDups {β : Type} [BEq β] [LawfulBEq β] (f : α → β) (l : List α) :
    (l.eraseDups.map f).eraseDups = (l.map f).eraseDups := by
  rw [← List.filterMap_eq_map, eraseDups_filterMap_eraseDups]

/-- Repeating the elements of a list without duplicates adds no first occurrence. -/
theorem eraseDups_flatMap_of_nodup {ks : List α} (hks : ks.Nodup) {f : α → List α}
    (hf : ∀ k ∈ ks, f k ≠ [] ∧ ∀ a ∈ f k, a = k) : (ks.flatMap f).eraseDups = ks := by
  induction ks with
  | nil => rfl
  | cons k ks ih =>
    obtain ⟨⟨hne, hk⟩, hrest⟩ := List.forall_mem_cons.1 hf
    obtain ⟨hnotMem, hnodup⟩ := List.nodup_cons.1 hks
    obtain ⟨a, as, hcons⟩ := List.exists_cons_of_ne_nil hne
    rw [hcons] at hk
    obtain ⟨rfl, has⟩ := List.forall_mem_cons.1 hk
    -- after the first copy of an element only the others are left
    have hothers : ((as ++ ks.flatMap f).filter fun b => ! b == a) = ks.flatMap f := by
      rw [List.filter_append, List.filter_eq_nil_iff.2 fun b hb => by simp [has b hb],
        List.nil_append]
      refine List.filter_eq_self.2 fun b hb => ?_
      obtain ⟨k', hk', hb⟩ := List.mem_flatMap.1 hb
      have hba : b ≠ a := (hrest k' hk').2 b hb ▸ fun e => hnotMem (e ▸ hk')
      simpa using hba
    rw [List.flatMap_cons, hcons, List.cons_append, List.eraseDups_cons, hothers, ih hnodup hrest]

/-- Of any number of copies the first is kept. -/
theorem eraseDups_eq_singleton {l : List α} {a : α} (hne : l ≠ []) (hl : ∀ b ∈ l, b = a) :
    l.eraseDups = [a] := by
  have h := eraseDups_flatMap_of_nodup (f := fun _ => l) (List.nodup_singleton a)
    (by simpa using And.intro hne hl)
  rwa [List.flatMap_singleton] at h

/-- The first occurrences in one list behind another depend on those in each. -/
theorem eraseDups_append_congr {l l' m m' : List α} (hl : l.eraseDups = l'.eraseDups)
    (hm : m.eraseDups = m'.eraseDups) : (l ++ m).eraseDups = (l' ++ m').eraseDups := by
  have helem : (fun b => !l.elem b) = fun b => !l'.elem b := by
    funext b
    have hmem : b ∈ l ↔ b ∈ l' := by rw [← List.mem_eraseDups, hl, List.mem_eraseDups]
    simp [hmem]
  rw [List.eraseDups_append, List.eraseDups_append, List.removeAll, List.removeAll,
    eraseDups_filter, eraseDups_filter, hl, hm, helem]

omit [BEq α] [LawfulBEq α] in
/-- The parts of a list under the keys of a list that has each key once make up the whole list. -/
theorem perm_flatMap_filter {κ : Type} [DecidableEq κ] (key : α → κ) {ks : List κ}
    (hks : ks.Nodup) (l : List α) (hl : ∀ a ∈ l, key a ∈ ks) :
    (ks.flatMap fun k => l.filter fun a => key a = k).Perm l := by
  induction ks generalizing l with
  | nil =>
    have : l = [] := List.eq_nil_iff_forall_not_mem.2 fun a ha => List.not_mem_nil (hl a ha)
    simp [this]
  | cons k ks ih =>
    rw [List.nodup_cons] at hks
    have hrest : ∀ a ∈ l.filter (fun a => ! decide (key a = k)), key a ∈ ks := by
      intro a ha
      simp only [List.mem_filter, Bool.not_eq_true', decide_eq_false_iff_not] at ha
      exact (List.mem_cons.1 (hl a ha.1)).resolve_left ha.2
    have hparts : (ks.flatMap fun k' => l.filter fun a => key a = k') =
        ks.flatMap fun k' =>
          (l.filter fun a => ! decide (key a = k)).filter fun a => key a = k' := by
      refine List.flatMap_congr fun k' hk' => ?_
      rw [List.filter_filter]
      refine List.filter_congr fun a _ => ?_
      by_cases h : key a = k'
      · have hk : k' ≠ k := fun e => hks.1 (e ▸ hk')
        simp [h, hk]
      · simp [h]
    rw [List.flatMap_cons, hparts]
    exact ((ih hks.2 _ hrest).append_left _).trans (List.filter_append_perm _ l)

end DocQuery
