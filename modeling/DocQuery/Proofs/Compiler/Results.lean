import DocQuery.Compiler.Compilation
import Mathlib.Data.List.Forall2

/-!
# Results

A result is a value or an error. The results of a list are either taken together, so that the first
error stands for the whole list, or divided into the values and the errors.

## Main definitions

* `Divides`: the values and the errors that the elements of a list lead to.

## Main results

* `eq_ok_iff`, `eq_error_iff`: a result that is specified by two relations.
* `mapM_eq_ok_iff`, `mapM_eq_error_iff`: the results of a list taken together.
* `divides_map`, `Divides.mem_errors`: the results of a list divided.
* `Divides.imp`, `Divides.filter_errors`: what is known of the values and the errors.
-/

namespace DocQuery

/-! ### One result -/

section Result

variable {β ε : Type} {x : Except ε β} {Yields : β → Prop} {Fails : ε → Prop}

/-- A result is a value exactly where one relation holds, if the two relations leave no gap. -/
theorem eq_ok_iff (hok : ∀ b, Yields b → x = .ok b) (herror : ∀ e, Fails e → x = .error e)
    (htotal : (∃ b, Yields b) ∨ ∃ e, Fails e) {b : β} : x = .ok b ↔ Yields b := by
  refine ⟨fun h => ?_, hok b⟩
  rcases htotal with ⟨b', hb'⟩ | ⟨e, he⟩
  · have hbb' : b' = b := Except.ok.inj ((hok b' hb').symm.trans h)
    exact hbb' ▸ hb'
  · cases (herror e he).symm.trans h

/-- A result is an error exactly where the other relation holds. -/
theorem eq_error_iff (hok : ∀ b, Yields b → x = .ok b) (herror : ∀ e, Fails e → x = .error e)
    (htotal : (∃ b, Yields b) ∨ ∃ e, Fails e) {e : ε} : x = .error e ↔ Fails e := by
  refine ⟨fun h => ?_, herror e⟩
  rcases htotal with ⟨b, hb⟩ | ⟨e', he'⟩
  · cases (hok b hb).symm.trans h
  · have hee' : e' = e := Except.error.inj ((herror e' he').symm.trans h)
    exact hee' ▸ he'

end Result

/-! ### Lists of elements -/

section MapM

variable {α β ε : Type} {f : α → Except ε β}

theorem mapM_eq_ok_iff {l : List α} {bs : List β} :
    l.mapM f = .ok bs ↔ List.Forall₂ (fun a b => f a = .ok b) l bs := by
  induction l generalizing bs with
  | nil => simp [pure, Except.pure, eq_comm]
  | cons a l ih =>
    rw [List.mapM_cons, List.forall₂_cons_left_iff]
    cases ha : f a with
    | error e => simp [bind, Except.bind]
    | ok b =>
      cases hl : l.mapM f with
      | error e =>
        simp only [hl, reduceCtorEq, false_iff] at ih
        simp [bind, Except.bind, ih]
      | ok bs' =>
        simp only [hl, Except.ok.injEq] at ih
        simp [bind, Except.bind, pure, Except.pure, ← ih, eq_comm]

/-- A list fails with the failure of its first element that fails. -/
theorem mapM_eq_error_iff {l : List α} {e : ε} :
    l.mapM f = .error e ↔ ∃ before a after, l = before ++ a :: after ∧
      (∀ x ∈ before, ∃ b, f x = .ok b) ∧ f a = .error e := by
  induction l with
  | nil => simp [pure, Except.pure]
  | cons a l ih =>
    rw [List.mapM_cons]
    constructor
    · intro h
      cases ha : f a with
      | error e' =>
        obtain rfl : e' = e := by simpa [ha, bind, Except.bind] using h
        exact ⟨[], a, l, rfl, by simp, ha⟩
      | ok b =>
        have hl : l.mapM f = .error e := by
          cases hl : l.mapM f <;> simp [ha, hl, bind, Except.bind, pure, Except.pure] at h ⊢
          exact h
        obtain ⟨before, a', after, rfl, hbefore, ha'⟩ := ih.1 hl
        exact ⟨a :: before, a', after, rfl, List.forall_mem_cons.2 ⟨⟨b, ha⟩, hbefore⟩, ha'⟩
    · rintro ⟨before, a', after, hsplit, hbefore, ha'⟩
      cases before with
      | nil =>
        obtain ⟨rfl, -⟩ := List.cons.inj hsplit
        simp [ha', bind, Except.bind]
      | cons x before =>
        obtain ⟨rfl, hsplit'⟩ := List.cons.inj hsplit
        obtain ⟨⟨b, hb⟩, hrest⟩ := List.forall_mem_cons.1 hbefore
        have hl := ih.2 ⟨before, a', after, hsplit', hrest, ha'⟩
        simp [hb, hl, bind, Except.bind]

end MapM

/-! ### Values and errors apart -/

/-- Each element of a list leads to one value or to one error; the values and the errors are kept
apart, both in the order of the elements. -/
inductive Divides {α β ε : Type} (Yields : α → β → Prop) (Fails : α → ε → Prop) :
    List α → List β → List ε → Prop
  | nil : Divides Yields Fails [] [] []
  | value {a : α} {as : List α} {b : β} {bs : List β} {es : List ε} (h : Yields a b)
      (hrest : Divides Yields Fails as bs es) : Divides Yields Fails (a :: as) (b :: bs) es
  | error {a : α} {as : List α} {bs : List β} {e : ε} {es : List ε} (h : Fails a e)
      (hrest : Divides Yields Fails as bs es) : Divides Yields Fails (a :: as) bs (e :: es)

section Divides

variable {α β ε : Type} {Yields : α → β → Prop} {Fails : α → ε → Prop}

/-- A list is divided by its results, if the two relations leave no gap. -/
theorem divides_map {f : α → Except ε β} {as : List α}
    (hok : ∀ a b, Yields a b → f a = .ok b) (herror : ∀ a e, Fails a e → f a = .error e)
    (htotal : ∀ a ∈ as, (∃ b, Yields a b) ∨ ∃ e, Fails a e) :
    Divides Yields Fails as (successes (as.map f)) (failures (as.map f)) := by
  induction as with
  | nil => exact .nil
  | cons a as ih =>
    obtain ⟨ha, has⟩ := List.forall_mem_cons.1 htotal
    rw [List.map_cons]
    rcases ha with ⟨b, hb⟩ | ⟨e, he⟩
    · rw [hok a b hb]
      exact (ih has).value hb
    · rw [herror a e he]
      exact (ih has).error he

/-- What is divided off as errors includes the error of every element. -/
theorem Divides.mem_errors {f : α → Except ε β} (hok : ∀ a b, Yields a b → f a = .ok b)
    (herror : ∀ a e, Fails a e → f a = .error e) {as : List α} {bs : List β} {es : List ε}
    (h : Divides Yields Fails as bs es) {a : α} (ha : a ∈ as) {e : ε} (he : Fails a e) :
    e ∈ es := by
  induction h with
  | nil => cases ha
  | @value a' as b bs es h hrest ih =>
    rcases List.mem_cons.1 ha with rfl | ha
    · cases (hok a b h).symm.trans (herror a e he)
    · exact ih ha
  | @error a' as bs e' es h hrest ih =>
    rcases List.mem_cons.1 ha with rfl | ha
    · have hee' : e' = e := Except.error.inj ((herror a e' h).symm.trans (herror a e he))
      exact hee' ▸ List.mem_cons_self
    · exact List.mem_cons_of_mem _ (ih ha)

/-- Every value comes from an element. -/
theorem Divides.exists_of_mem_values {as : List α} {bs : List β} {es : List ε}
    (h : Divides Yields Fails as bs es) {b : β} (hb : b ∈ bs) : ∃ a ∈ as, Yields a b := by
  induction h with
  | nil => cases hb
  | @value a as b' bs es h hrest ih =>
    rcases List.mem_cons.1 hb with rfl | hb
    · exact ⟨a, List.mem_cons_self, h⟩
    · obtain ⟨a', ha', h'⟩ := ih hb
      exact ⟨a', List.mem_cons_of_mem _ ha', h'⟩
  | error h hrest ih =>
    obtain ⟨a', ha', h'⟩ := ih hb
    exact ⟨a', List.mem_cons_of_mem _ ha', h'⟩

/-- Every error comes from an element. -/
theorem Divides.exists_of_mem_errors {as : List α} {bs : List β} {es : List ε}
    (h : Divides Yields Fails as bs es) {e : ε} (he : e ∈ es) : ∃ a ∈ as, Fails a e := by
  induction h with
  | nil => cases he
  | value h hrest ih =>
    obtain ⟨a', ha', h'⟩ := ih he
    exact ⟨a', List.mem_cons_of_mem _ ha', h'⟩
  | @error a as bs e' es h hrest ih =>
    rcases List.mem_cons.1 he with rfl | he
    · exact ⟨a, List.mem_cons_self, h⟩
    · obtain ⟨a', ha', h'⟩ := ih he
      exact ⟨a', List.mem_cons_of_mem _ ha', h'⟩

/-- What follows for every value and every error of an element. -/
theorem Divides.imp {Yields' : α → β → Prop} {Fails' : α → ε → Prop}
    (hyields : ∀ a b, Yields a b → Yields' a b) (hfails : ∀ a e, Fails a e → Fails' a e)
    {as : List α} {bs : List β} {es : List ε} (h : Divides Yields Fails as bs es) :
    Divides Yields' Fails' as bs es := by
  induction h with
  | nil => exact .nil
  | value h hrest ih => exact ih.value (hyields _ _ h)
  | error h hrest ih => exact ih.error (hfails _ _ h)

/-- The errors with a property are those of the elements that have one by themselves. -/
theorem Divides.filter_errors {p : ε → Bool} {q : α → Bool} {g : α → ε}
    {as : List α} {bs : List β} {es : List ε} (h : Divides Yields Fails as bs es)
    (hyields : ∀ a ∈ as, ∀ b, Yields a b → q a = false)
    (hfails : ∀ a ∈ as, ∀ e, Fails a e → if q a then e = g a ∧ p e = true else p e = false) :
    es.filter p = (as.filter q).map g := by
  induction h with
  | nil => rfl
  | @value a as b bs es h hrest ih =>
    obtain ⟨hyields, hyields'⟩ := List.forall_mem_cons.1 hyields
    obtain ⟨-, hfails'⟩ := List.forall_mem_cons.1 hfails
    rw [List.filter_cons_of_neg (by simp [hyields b h]), ih hyields' hfails']
  | @error a as bs e es h hrest ih =>
    obtain ⟨-, hyields'⟩ := List.forall_mem_cons.1 hyields
    obtain ⟨hfails, hfails'⟩ := List.forall_mem_cons.1 hfails
    have he := hfails e h
    cases hq : q a with
    | true =>
      rw [hq, if_pos rfl] at he
      rw [List.filter_cons_of_pos he.2, List.filter_cons_of_pos hq, List.map_cons,
        ih hyields' hfails', he.1]
    | false =>
      rw [hq, if_neg Bool.false_ne_true] at he
      rw [List.filter_cons_of_neg (by simp [he]), List.filter_cons_of_neg (by simp [hq]),
        ih hyields' hfails']

end Divides

end DocQuery
