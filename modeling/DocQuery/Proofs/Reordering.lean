import Mathlib.Data.List.Perm.Basic

/-!
# Lists up to the order of their elements

Two lists are the same up to order if one can be reordered so that its elements are related, one by
one, to those of the other. What is computed from related elements one by one is again the same up
to order.

## Main definitions

* `Reordered`: lists that are the same up to order, and up to a relation between their elements.

## Main results

* `Reordered.map`, `Reordered.filterMap`, `Reordered.filter`: computing from the elements.
* `Reordered.perm_flatMap`: joining lists that belong to the elements.
-/

namespace DocQuery

variable {α β γ δ : Type}

/-- Whether the elements of a list are related, one by one and after a reordering, to those of
another list. -/
def Reordered (R : α → β → Prop) (l : List α) (l' : List β) : Prop :=
  ∃ l₁, l.Perm l₁ ∧ List.Forall₂ R l₁ l'

namespace Reordered

variable {R : α → β → Prop} {S : γ → δ → Prop} {l : List α} {l' : List β}

theorem length_eq (h : Reordered R l l') : l.length = l'.length := by
  obtain ⟨l₁, hperm, hrel⟩ := h
  exact hperm.length_eq.trans hrel.length_eq

theorem eq_nil_iff (h : Reordered R l l') : l = [] ↔ l' = [] := by
  rw [← List.length_eq_zero_iff, h.length_eq, List.length_eq_zero_iff]

theorem singleton_iff {a : α} {b : β} : Reordered R [a] [b] ↔ R a b := by
  constructor
  · rintro ⟨l₁, hperm, hrel⟩
    rw [List.singleton_perm] at hperm
    subst hperm
    exact (List.forall₂_cons.1 hrel).1
  · exact fun h => ⟨[a], .refl _, .cons h .nil⟩

theorem map {f : α → γ} {g : β → δ} (hfg : ∀ a b, R a b → S (f a) (g b))
    (h : Reordered R l l') : Reordered S (l.map f) (l'.map g) := by
  obtain ⟨l₁, hperm, hrel⟩ := h
  exact ⟨l₁.map f, hperm.map f, List.rel_map (fun a b => hfg a b) hrel⟩

/-- Results that are left out together leave lists that are the same up to order. -/
theorem filterMap {f : α → Option γ} {g : β → Option δ}
    (hfg : ∀ a b, R a b → Option.Rel S (f a) (g b)) (h : Reordered R l l') :
    Reordered S (l.filterMap f) (l'.filterMap g) := by
  obtain ⟨l₁, hperm, hrel⟩ := h
  exact ⟨l₁.filterMap f, hperm.filterMap f, List.rel_filterMap (fun a b => hfg a b) hrel⟩

theorem filter {p : α → Bool} {q : β → Bool} (hpq : ∀ a b, R a b → p a = q b)
    (h : Reordered R l l') : Reordered R (l.filter p) (l'.filter q) := by
  obtain ⟨l₁, hperm, hrel⟩ := h
  have hiff : ∀ {a b}, R a b → (p a = true ↔ q b = true) := fun hab => by rw [hpq _ _ hab]
  exact ⟨l₁.filter p, hperm.filter p, List.rel_filter (fun _ _ hab => hiff hab) hrel⟩

/-- Lists that belong to the elements give the same list up to order when they are joined. -/
theorem perm_flatMap {f : α → List γ} {g : β → List γ} (hfg : ∀ a b, R a b → (f a).Perm (g b))
    (h : Reordered R l l') : (l.flatMap f).Perm (l'.flatMap g) := by
  obtain ⟨l₁, hperm, hrel⟩ := h
  refine (hperm.flatMap_right f).trans ?_
  clear hperm
  induction hrel with
  | nil => exact .refl _
  | cons hab _ ih =>
    rw [List.flatMap_cons, List.flatMap_cons]
    exact (hfg _ _ hab).append ih

end Reordered

end DocQuery
